import LineMacro.Cli.Expand
import Mathlib.Data.List.Basic
import Mathlib.Data.List.TakeWhile
import Mathlib.Data.Option.Basic
/-!
# Command line — what the options ask for

A command line adds up to settings, and settings make a job if every name in them
is a name (`job_eq_ok_iff`). A value of the definition option that holds an equals
sign is cut at the first one, into a name and its body; any other value is a name
to predeclare. What is seeded and what is predeclared can so be read off the
settings (`Asks`), and a job asks for just that (`asks_iff`). If all options have
values and some name is none, there is no job, and the mistake is told
(`exists_job_eq_invalidName`).
-/

namespace LineMacro

/-- Sorting loses no text and adds none. -/
theorem Text.mem_sortDistinct {t : Text} {l : List Text} : t ∈ sortDistinct l ↔ t ∈ l := by
  rw [sortDistinct, List.mem_mergeSort, List.mem_eraseDups]

/-- The keys that are put are those of the elements. -/
theorem Keyed.mem_map_ofList {α κ : Type} [DecidableEq κ] {key : α → κ} {k : κ} {l : List α} :
    k ∈ (ofList key l).map key ↔ k ∈ l.map key := by
  constructor
  · intro h
    obtain ⟨a, ha, rfl⟩ := List.mem_map.1 h
    exact List.mem_map_of_mem (mem_ofList ha)
  · intro h
    obtain ⟨a, ha, rfl⟩ := List.mem_map.1 h
    obtain ⟨b, hb, hkey⟩ : ∃ b ∈ ofList key l, key b = key a := exists_mem_ofList ha
    exact List.mem_map.2 ⟨b, hb, hkey⟩

namespace Cli

variable {t name : Text}

/-! ## Cutting at the first equals sign -/

theorem cutAtEquals?_of_not_mem (h : '=' ∉ t) : cutAtEquals? t = none := by
  have hnil : t.dropWhile (· != '=') = [] :=
    List.dropWhile_eq_nil_iff.2 fun c hc => by simpa using fun heq : c = '=' => h (heq ▸ hc)
  rw [cutAtEquals?, hnil]

theorem cutAtEquals?_append (h : '=' ∉ name) (body : Text) :
    cutAtEquals? (name ++ '=' :: body) = some (name, body) := by
  have hname : ∀ c ∈ name, (c != '=') = true := by
    intro c hc
    simpa using fun heq : c = '=' => h (heq ▸ hc)
  have hend : ∀ c ∈ ('=' :: body).head?, (c != '=') = false := by simp
  rw [cutAtEquals?, Text.takeWhile_append_of_ends hname hend,
    Text.dropWhile_append_of_ends hname hend]

/-- A text is cut where the first equals sign stands. -/
theorem cutAtEquals?_eq_some_iff {d : Text × Text} :
    cutAtEquals? t = some d ↔ t = d.1 ++ '=' :: d.2 ∧ '=' ∉ d.1 := by
  constructor
  · intro h
    by_cases hmem : '=' ∈ t
    · obtain ⟨name, body, rfl, hname⟩ := List.eq_append_cons_of_mem hmem
      rw [cutAtEquals?_append hname] at h
      obtain rfl := Option.some.inj h
      exact ⟨rfl, hname⟩
    · rw [cutAtEquals?_of_not_mem hmem] at h
      cases h
  · rintro ⟨rfl, hname⟩
    exact cutAtEquals?_append hname d.2

theorem cutAtEquals?_eq_none_iff : cutAtEquals? t = none ↔ '=' ∉ t := by
  refine ⟨fun h hmem => ?_, cutAtEquals?_of_not_mem⟩
  obtain ⟨name, body, rfl, hname⟩ := List.eq_append_cons_of_mem hmem
  rw [cutAtEquals?_append hname] at h
  cases h

/-- The pairs that values with an equals sign are cut into are those which, joined
by one, are these values. -/
theorem filterMap_cutAtEquals?_eq_iff {raw : List Text} {definitions : List (Text × Text)} :
    raw.filterMap cutAtEquals? = definitions ↔
      (raw.filter fun t => '=' ∈ t) = (definitions.map fun d => d.1 ++ '=' :: d.2) ∧
        ∀ d ∈ definitions, '=' ∉ d.1 := by
  induction raw generalizing definitions with
  | nil =>
    rw [List.filterMap_nil, List.filter_nil]
    constructor
    · rintro rfl
      exact ⟨rfl, by simp⟩
    · rintro ⟨h, -⟩
      exact (List.map_eq_nil_iff.1 h.symm).symm
  | cons t raw ih =>
    cases hcut : cutAtEquals? t with
    | none =>
      have hnot : ¬ decide ('=' ∈ t) = true := by
        simpa using cutAtEquals?_eq_none_iff.1 hcut
      rw [List.filterMap_cons_none hcut, List.filter_cons, if_neg hnot, ih]
    | some d =>
      obtain ⟨ht, hd⟩ := cutAtEquals?_eq_some_iff.1 hcut
      have hmem : decide ('=' ∈ t) = true := by simp [ht]
      rw [List.filterMap_cons_some hcut, List.filter_cons, if_pos hmem]
      cases definitions with
      | nil => simp
      | cons d' definitions =>
        rw [List.cons.injEq, ih, List.map_cons, List.cons.injEq, List.forall_mem_cons]
        constructor
        · rintro ⟨rfl, hrest, hfirst⟩
          exact ⟨⟨ht, hrest⟩, hd, hfirst⟩
        · rintro ⟨⟨ht', hrest⟩, hd', hfirst⟩
          -- a text is cut in one way only
          rw [cutAtEquals?_eq_some_iff.2 ⟨ht', hd'⟩] at hcut
          exact ⟨(Option.some.inj hcut).symm, hrest, hfirst⟩

namespace Expand

/-! ## The names in the settings -/

/-- The settings that a command line adds up to, if it can be read and asks for no
manual. -/
def settingsOf (words : List Text) : Except Stop Settings :=
  (Reading.ofWords specs true words).settle Settings.take {}

/-- The name in a value of the definition option: what stands before the first
equals sign, or all of it. -/
def nameOf (value : Text) : Text := value.takeWhile (· != '=')

namespace Settings

/-- The names that the options give. A value may be missing. -/
def names (s : Settings) : List (Option Text) :=
  s.definitions.map (·.map nameOf) ++ s.predeclared

/-- No value is missing, and all names are names. -/
def Named (s : Settings) : Prop := ∀ v ∈ s.names, v.any isName = true

instance (s : Settings) : Decidable s.Named :=
  inferInstanceAs (Decidable (∀ v ∈ s.names, v.any isName = true))

/-- What the options ask for: names to predeclare, and names to seed with their
bodies. -/
structure Asks (s : Settings) (predeclared : List Text) (definitions : List (Text × Text)) :
    Prop where
  /-- Names are predeclared by their own option, or by that for definitions if they
  are given without a body. -/
  mem_iff : ∀ n, n ∈ predeclared ↔ some n ∈ s.predeclared ∨ some n ∈ s.definitions ∧ '=' ∉ n
  /-- The other values of the option for definitions are a name and a body each,
  with an equals sign between them. -/
  filter_eq : (s.definitions.filter fun v => v.any fun t => '=' ∈ t) =
    definitions.map fun d => some (d.1 ++ '=' :: d.2)
  /-- A name ends at the first equals sign. -/
  first : ∀ d ∈ definitions, '=' ∉ d.1

/-- The job of settings in which the definition option has these values. -/
def jobOf (s : Settings) (raw : List Text) : Job where
  input := s.input.filter fun p => p.text ≠ ['-']
  target := s.target
  definitions := definitionsOf raw
  predeclared := flagsOf raw ++ s.predeclared.filterMap id
  listMacros := s.listMacros
  verbose := s.verbose

end Settings

variable {s : Settings} {j : Job} {values : List (Option Text)} {words : List Text} {n : Text}

theorem nameOf_eq (t : Text) : nameOf t = ((cutAtEquals? t).map Prod.fst).getD t := by
  by_cases hmem : '=' ∈ t
  · obtain ⟨name, body, rfl, hname⟩ := List.eq_append_cons_of_mem hmem
    rw [cutAtEquals?_append hname]
    refine Text.takeWhile_append_of_ends (fun c hc => ?_) (by simp)
    simpa using fun heq : c = '=' => hname (heq ▸ hc)
  · rw [cutAtEquals?_of_not_mem hmem, nameOf]
    refine List.takeWhile_eq_self_iff.2 fun c hc => ?_
    simpa using fun heq : c = '=' => hmem (heq ▸ hc)

/-- The names that are checked first are those in the values of the option for
definitions. -/
theorem mem_checked_iff {raw : List Text} :
    n ∈ (definitionsOf raw).map Prod.fst ++ flagsOf raw ↔ ∃ t ∈ raw, nameOf t = n := by
  rw [List.mem_append, definitionsOf, Keyed.mem_map_ofList, flagsOf, Text.mem_sortDistinct]
  constructor
  · rintro (h | h)
    · obtain ⟨d, hd, rfl⟩ := List.mem_map.1 h
      obtain ⟨t, ht, hcut⟩ := List.mem_filterMap.1 hd
      exact ⟨t, ht, by rw [nameOf_eq, hcut]; rfl⟩
    · obtain ⟨hn, hcut⟩ := List.mem_filter.1 h
      exact ⟨n, hn, by rw [nameOf_eq, Option.isNone_iff_eq_none.1 hcut]; rfl⟩
  · rintro ⟨t, ht, rfl⟩
    rw [nameOf_eq]
    cases hcut : cutAtEquals? t with
    | none => exact Or.inr (List.mem_filter.2 ⟨ht, Option.isNone_iff_eq_none.2 hcut⟩)
    | some d => exact Or.inl (List.mem_map_of_mem (List.mem_filterMap.2 ⟨t, ht, hcut⟩))

/-! ## The check of the names -/

theorem firstNoName_eq_none_iff :
    firstNoName values = none ↔ ∀ v ∈ values, v.any isName = true := by
  rw [firstNoName, List.findSome?_eq_none_iff]
  refine forall₂_congr fun v _ => ?_
  cases v with
  | none => simp
  | some n => simp

/-- Where no value is missing the mistake is a text that is no name. -/
theorem exists_of_firstNoName_eq_some {e : NoJob} (hvalues : none ∉ values)
    (h : firstNoName values = some e) : ∃ n, e = .stop (.misuse (.invalidName n)) := by
  obtain ⟨v, hv, hmistake⟩ := List.exists_of_findSome?_eq_some h
  cases v with
  | none => exact absurd hv hvalues
  | some n =>
    dsimp only at hmistake
    split at hmistake
    · cases hmistake
    · exact ⟨n, (Option.some.inj hmistake).symm⟩

namespace Settings

theorem job_eq {raw : List Text} (h : s.definitions = raw.map some) :
    s.job =
      match firstNoName (((definitionsOf raw).map Prod.fst ++ flagsOf raw).map some ++
        s.predeclared) with
      | some e => .error e
      | none => .ok (s.jobOf raw) := by
  have hany : ¬ s.definitions.any Option.isNone = true := by
    rw [h]
    simp
  have hraw : s.definitions.filterMap id = raw := by
    rw [h]
    simp
  rw [job, if_neg hany, hraw]
  rfl

/-- Where no value is missing, all names of the settings are checked. -/
theorem named_iff {raw : List Text} (h : s.definitions = raw.map some) :
    s.Named ↔ firstNoName (((definitionsOf raw).map Prod.fst ++ flagsOf raw).map some ++
      s.predeclared) = none := by
  rw [firstNoName_eq_none_iff, Named, names, h]
  simp only [List.mem_append, or_imp, forall_and]
  refine and_congr ?_ Iff.rfl
  -- the seeded names and the flags are together the names in the values
  constructor
  · intro hall v hv
    obtain ⟨n, hn, rfl⟩ := List.mem_map.1 hv
    obtain ⟨t, ht, rfl⟩ := mem_checked_iff.1 hn
    exact hall _ (by simpa using ⟨t, ht, rfl⟩)
  · intro hall v hv
    obtain ⟨t, ht, rfl⟩ : ∃ t ∈ raw, some (nameOf t) = v := by simpa using hv
    exact hall _ (List.mem_map_of_mem (mem_checked_iff.2 ⟨t, ht, rfl⟩))

theorem exists_eq_map_some {l : List (Option Text)} (h : none ∉ l) :
    ∃ raw : List Text, l = raw.map some := by
  refine ⟨l.filterMap id, ?_⟩
  rw [List.map_filterMap_some_eq_filter_map_isSome, List.map_id, eq_comm, List.filter_eq_self]
  intro v hv
  rw [Option.isSome_iff_ne_none]
  exact fun hnone => h (hnone ▸ hv)

theorem Named.none_not_mem (h : s.Named) : none ∉ s.definitions := by
  intro hnone
  have hany := h none (List.mem_append_left _ (List.mem_map.2 ⟨none, hnone, rfl⟩))
  cases hany

/-- **A job is made of names.** -/
theorem job_eq_ok_iff :
    s.job = .ok j ↔
      s.Named ∧ ∃ raw : List Text, s.definitions = raw.map some ∧ j = s.jobOf raw := by
  constructor
  · intro h
    have hmissing : none ∉ s.definitions := by
      intro hnone
      rw [job, if_pos (List.any_eq_true.2 ⟨none, hnone, rfl⟩)] at h
      cases h
    obtain ⟨raw, hraw⟩ := exists_eq_map_some hmissing
    rw [job_eq hraw] at h
    split at h
    · cases h
    · rename_i hnone
      exact ⟨(named_iff hraw).2 hnone, raw, hraw, (Except.ok.inj h).symm⟩
  · rintro ⟨hnamed, raw, hraw, rfl⟩
    rw [job_eq hraw, (named_iff hraw).1 hnamed]

theorem exists_job_eq_ok (h : s.Named) :
    ∃ raw : List Text, s.definitions = raw.map some ∧ s.job = .ok (s.jobOf raw) := by
  obtain ⟨raw, hraw⟩ := exists_eq_map_some h.none_not_mem
  exact ⟨raw, hraw, job_eq_ok_iff.2 ⟨h, raw, hraw, rfl⟩⟩

/-- **A mistake in a name is told**, if no value is missing. -/
theorem exists_job_eq_invalidName (h : none ∉ s.names) (hnot : ¬ s.Named) :
    ∃ n, s.job = .error (.stop (.misuse (.invalidName n))) := by
  rw [names, List.mem_append, not_or] at h
  obtain ⟨raw, hraw⟩ := exists_eq_map_some fun hnone =>
    h.1 (List.mem_map.2 ⟨none, hnone, rfl⟩)
  rw [named_iff hraw, ← Ne, Option.ne_none_iff_exists'] at hnot
  obtain ⟨e, he⟩ := hnot
  have hvalues : none ∉ ((definitionsOf raw).map Prod.fst ++ flagsOf raw).map some ++
      s.predeclared := by
    simpa using h.2
  obtain ⟨n, rfl⟩ := exists_of_firstNoName_eq_some hvalues he
  exact ⟨n, by rw [job_eq hraw, he]⟩

end Settings

/-! ## From words to a job -/

theorem plan_eq_job (h : settingsOf words = .ok s) : plan words = s.job := by
  rw [settingsOf] at h
  rw [plan, h]

/-- A job comes from settings in which all names are names. -/
theorem exists_of_plan (h : plan words = .ok j) :
    ∃ s raw, settingsOf words = .ok s ∧ s.Named ∧ s.definitions = raw.map some ∧
      j = s.jobOf raw := by
  cases hsettings : settingsOf words with
  | error stop =>
    rw [settingsOf] at hsettings
    rw [plan, hsettings] at h
    cases h
  | ok s =>
    rw [plan_eq_job hsettings] at h
    obtain ⟨hnamed, raw, hraw, rfl⟩ := Settings.job_eq_ok_iff.1 h
    exact ⟨s, raw, rfl, hnamed, hraw, rfl⟩

namespace Settings

/-! ## What is asked for -/

theorem mem_predeclared_jobOf {raw : List Text} (h : s.definitions = raw.map some) :
    n ∈ (s.jobOf raw).predeclared ↔
      some n ∈ s.predeclared ∨ some n ∈ s.definitions ∧ '=' ∉ n := by
  have hflags : n ∈ flagsOf raw ↔ some n ∈ s.definitions ∧ '=' ∉ n := by
    rw [flagsOf, Text.mem_sortDistinct, List.mem_filter, Option.isNone_iff_eq_none,
      cutAtEquals?_eq_none_iff, h]
    simp
  rw [jobOf, List.mem_append, hflags, or_comm]
  simp

/-- **A job asks for what the options ask for.** -/
theorem asks_iff {raw predeclared : List Text} {definitions : List (Text × Text)}
    (h : s.definitions = raw.map some) :
    s.Asks predeclared definitions ↔
      (∀ n, n ∈ predeclared ↔ n ∈ (s.jobOf raw).predeclared) ∧
        raw.filterMap cutAtEquals? = definitions := by
  have hfilter : (s.definitions.filter fun v => v.any fun t => '=' ∈ t) =
      (raw.filter fun t => '=' ∈ t).map some := by
    rw [h, List.filter_map]
    rfl
  have hjoined : (definitions.map fun d => some (d.1 ++ '=' :: d.2)) =
      (definitions.map fun d => d.1 ++ '=' :: d.2).map some := by
    rw [List.map_map]
    rfl
  have hpairs : (s.definitions.filter fun v => v.any fun t => '=' ∈ t) =
      (definitions.map fun d => some (d.1 ++ '=' :: d.2)) ↔
        (raw.filter fun t => '=' ∈ t) = definitions.map fun d => d.1 ++ '=' :: d.2 := by
    rw [hfilter, hjoined, (List.map_injective_iff.2 (Option.some_injective Text)).eq_iff]
  rw [filterMap_cutAtEquals?_eq_iff, ← hpairs]
  constructor
  · rintro ⟨hmem, heq, hfirst⟩
    exact ⟨fun n => (hmem n).trans (mem_predeclared_jobOf h).symm, heq, hfirst⟩
  · rintro ⟨hmem, heq, hfirst⟩
    exact ⟨fun n => (hmem n).trans (mem_predeclared_jobOf h), heq, hfirst⟩

/-- The names that are seeded are among those in the settings. -/
theorem Named.isName_of_asks {predeclared : List Text} {definitions : List (Text × Text)}
    (h : s.Named) (hasks : s.Asks predeclared definitions) :
    ∀ d ∈ definitions, isName d.1 = true := by
  obtain ⟨raw, hraw⟩ := exists_eq_map_some h.none_not_mem
  obtain ⟨-, rfl⟩ := (asks_iff hraw).1 hasks
  intro d hd
  obtain ⟨t, ht, hcut⟩ := List.mem_filterMap.1 hd
  have hname : nameOf t = d.1 := by
    rw [nameOf_eq, hcut]
    rfl
  rw [← hname]
  refine h (some (nameOf t)) (List.mem_append_left _ ?_)
  rw [hraw]
  simpa using ⟨t, ht, rfl⟩

end Settings

end Expand

end Cli

end LineMacro
