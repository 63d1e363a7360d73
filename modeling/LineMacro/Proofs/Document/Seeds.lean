import LineMacro.Proofs.Document.Lines
/-!
# Documents — where a run starts

If every seeded name is a name, seeding installs the macros one after another,
and the run of a document is that of its lines from there (`run_result`). So
the table that a run has after lines it could handle answers each look-up with
what is visible below those lines (`lookup_defineAll_macros`).
-/

namespace LineMacro

variable {document : Text} {predeclared : List Text} {definitions : List (Text × Text)}

namespace Table

variable {tbl : Table} {seeds : List (Text × Text)}

theorem seed_cons_of_isName (tbl : Table) (seeds : List (Text × Text)) {d : Text × Text}
    (h : isName d.1 = true) :
    (tbl.seed (d :: seeds)).result = ((tbl.define (Macro.ofSeed d)).seed seeds).result ∧
      (tbl.seed (d :: seeds)).table = ((tbl.define (Macro.ofSeed d)).seed seeds).table := by
  have hname : Definition.requireName d.1 {} = .ok d.1 := if_pos h
  rw [seed, hname]
  exact ⟨rfl, rfl⟩

theorem seed_cons_of_not_isName (tbl : Table) (seeds : List (Text × Text)) {d : Text × Text}
    (h : isName d.1 = false) :
    (tbl.seed (d :: seeds)).result = .error { fault := .invalidName } ∧
      (tbl.seed (d :: seeds)).table = tbl := by
  have hname : Definition.requireName d.1 {} = .error { fault := .invalidName } :=
    if_neg (Bool.eq_false_iff.1 h)
  rw [seed, hname]
  exact ⟨rfl, rfl⟩

/-- Names are seeded as macros without parameters. -/
theorem seed_of_isName (h : ∀ d ∈ seeds, isName d.1 = true) :
    (tbl.seed seeds).result = .ok () ∧
      (tbl.seed seeds).table = tbl.defineAll (seeds.map Macro.ofSeed) := by
  induction seeds generalizing tbl with
  | nil => exact ⟨rfl, rfl⟩
  | cons d seeds ih =>
    obtain ⟨hresult, htable⟩ := seed_cons_of_isName tbl seeds (h d List.mem_cons_self)
    rw [hresult, htable]
    exact ih fun d hd => h d (List.mem_cons_of_mem _ hd)

/-- Seeding stops before the first name that is none, and what was seeded
stays. -/
theorem exists_seed_table (tbl : Table) (seeds : List (Text × Text)) :
    ∃ above below, seeds = above ++ below ∧ (∀ d ∈ above, isName d.1 = true) ∧
      (tbl.seed seeds).table = tbl.defineAll (above.map Macro.ofSeed) ∧
        ((tbl.seed seeds).result = .ok () → below = []) := by
  induction seeds generalizing tbl with
  | nil => exact ⟨[], [], rfl, by simp, rfl, fun _ => rfl⟩
  | cons d seeds ih =>
    cases hname : isName d.1 with
    | true =>
      obtain ⟨hresult, htable⟩ := seed_cons_of_isName tbl seeds hname
      obtain ⟨above, below, rfl, habove, hseeded, hall⟩ := ih (tbl.define (Macro.ofSeed d))
      rw [hresult, htable]
      refine ⟨d :: above, below, rfl, ?_, hseeded, hall⟩
      exact List.forall_mem_cons.2 ⟨hname, habove⟩
    | false =>
      obtain ⟨hresult, htable⟩ := seed_cons_of_not_isName tbl seeds hname
      rw [hresult, htable]
      exact ⟨[], d :: seeds, rfl, by simp, rfl, nofun⟩

end Table

/-- Seeding fails only for a name that is no name. -/
theorem seeded_of_isName (h : ∀ d ∈ definitions, isName d.1 = true) :
    (seeded predeclared definitions).result = .ok () ∧
      (seeded predeclared definitions).table =
        ({ predeclared } : Table).defineAll
          ((Keyed.ofList Prod.fst definitions).map Macro.ofSeed) :=
  Table.seed_of_isName fun d hd => h d (Keyed.mem_ofList hd)

theorem isName_of_seeded_eq_ok (h : (seeded predeclared definitions).result = .ok ()) :
    ∀ d ∈ definitions, isName d.1 = true := by
  obtain ⟨above, below, hseeds, habove, -, hall⟩ :=
    Table.exists_seed_table { predeclared } (Keyed.ofList Prod.fst definitions)
  rw [hall h, List.append_nil] at hseeds
  intro d hd
  obtain ⟨d', hd', hkey⟩ : ∃ d' ∈ Keyed.ofList Prod.fst definitions, d'.1 = d.1 :=
    Keyed.exists_mem_ofList hd
  rw [← hkey]
  exact habove d' (hseeds ▸ hd')

/-- Of the bodies seeded for a name the last counts. -/
theorem last?_map_ofSeed_ofList (name : Text) :
    Keyed.last? Macro.name name ((Keyed.ofList Prod.fst definitions).map Macro.ofSeed) =
      Keyed.last? Macro.name name (definitions.map Macro.ofSeed) := by
  rw [Keyed.last?_map, Keyed.last?_map]
  refine congrArg (Option.map Macro.ofSeed) ?_
  -- the list that is seeded has each name once, with the last of its bodies
  exact (Keyed.last?_of_nodup name (Keyed.nodup_ofList definitions)).trans
    (Keyed.find?_ofList name definitions)

/-- **What the lines above leave is what is visible.** -/
theorem lookup_defineAll_macros (h : ∀ d ∈ definitions, isName d.1 = true) (above : List Text)
    (name : Text) :
    ((seeded predeclared definitions).table.defineAll (Definition.macros 1 above)).lookup name =
      visible predeclared definitions above name := by
  rw [(seeded_of_isName h).2, ← Table.defineAll_append, Table.lookup, visible,
    Table.find?_defineAll_empty, Keyed.last?_append, last?_map_ofSeed_ofList,
    Table.isPredeclared, Table.defineAll_predeclared]

theorem lookup_seeded (h : ∀ d ∈ definitions, isName d.1 = true) (predeclared : List Text)
    (name : Text) :
    (seeded predeclared definitions).table.lookup name =
      visible predeclared definitions [] name :=
  lookup_defineAll_macros h [] name

/-- **The run of a document is that of its lines**, from the table that seeding
leaves. -/
theorem run_result (h : ∀ d ∈ definitions, isName d.1 = true) :
    (run document predeclared definitions).result =
      ((seeded predeclared definitions).table.processLines 1 (Text.lines document)).result.map
        Text.joinLines := by
  rw [run, (seeded_of_isName h).1]
  rfl

/-- A run that succeeds has started from names. -/
theorem isName_of_run_eq_ok {out : Text}
    (h : (run document predeclared definitions).result = .ok out) :
    ∀ d ∈ definitions, isName d.1 = true := by
  cases hseeded : (seeded predeclared definitions).result with
  | ok _ => exact isName_of_seeded_eq_ok hseeded
  | error e =>
    rw [run, hseeded] at h
    cases h

theorem run_table (h : ∀ d ∈ definitions, isName d.1 = true) :
    (run document predeclared definitions).table =
      ((seeded predeclared definitions).table.processLines 1 (Text.lines document)).table := by
  rw [run, (seeded_of_isName h).1]
  rfl

end LineMacro
