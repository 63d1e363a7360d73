import LineMacro.Proofs.Expansion.Lookup
/-!
# Expansion — what a macro gives has no say in failing

Whether a text can be expanded, and where and why not, goes by which words
stand for a macro and which of these take parameters. How many parameters they
take, what those are called and what the bodies hold makes no difference
(`expandInside_eq_error_iff`): what a macro gives is never read, so two tables
that agree in the kinds read a text into items that stand alike, down into the
arguments.
-/

namespace LineMacro

/-! ## Failing alike -/

section

variable {α α' β β' : Type} {x : Except Failure α} {y : Except Failure β}

/-- Both fail, with the same failure, or neither does. -/
def FailAlike (x : Except Failure α) (y : Except Failure β) : Prop :=
  ∀ e, x = .error e ↔ y = .error e

theorem FailAlike.map (h : FailAlike x y) (f : α → α') (g : β → β') :
    FailAlike (x.map f) (y.map g) := by
  intro e
  rw [Failure.map_eq_error_iff, Failure.map_eq_error_iff]
  exact h e

theorem FailAlike.exists_ok_iff (h : FailAlike x y) :
    (∃ a, x = .ok a) ↔ ∃ b, y = .ok b := by
  cases x with
  | error e =>
    rw [(h e).1 rfl]
    simp
  | ok a =>
    cases y with
    | error e =>
      have := (h e).2 rfl
      cases this
    | ok b => simp

end

namespace Table

/-- Each word stands for macros of one kind in both tables: for none, for one
without parameters, or for one with parameters. -/
def SameKinds (tbl tbl' : Table) : Prop :=
  ∀ w, (tbl.lookup w).map Macro.isParameterized = (tbl'.lookup w).map Macro.isParameterized

/-- The items differ in what their macros give, and in nothing else. -/
inductive Item.Alike : Item → Item → Prop
  | plain {copied rest : Text} : Alike (.plain copied rest) (.plain copied rest)
  | constant {m m' : Macro} {rest : Text} : Alike (.constant m rest) (.constant m' rest)
  | call {m m' : Macro} {inner rest : Text} :
      m.name = m'.name → Alike (.call m inner rest) (.call m' inner rest)
  | unclosed {m m' : Macro} : m.name = m'.name → Alike (.unclosed m) (.unclosed m')

variable {tbl tbl' : Table} {depth : Int} {texts : List Text} {text : Text} {item : Item}

/-! ## Reading -/

/-- Words of one kind stand for macros of one name and one kind. -/
theorem SameKinds.rel (h : SameKinds tbl tbl') (w : Text) :
    Option.Rel (fun m m' => m.name = m'.name ∧ (m.parameters = [] ↔ m'.parameters = []))
      (tbl.lookup w) (tbl'.lookup w) := by
  have hw := h w
  cases hm : tbl.lookup w with
  | none =>
    rw [hm] at hw
    rw [Option.map_eq_none_iff.1 hw.symm]
    exact .none
  | some m =>
    rw [hm] at hw
    obtain ⟨m', hm', hkind⟩ := Option.map_eq_some_iff.1 hw.symm
    rw [hm']
    refine .some ⟨(name_of_lookup hm).trans (name_of_lookup hm').symm, ?_⟩
    rw [← not_iff_not, ← ne_eq, ← ne_eq, ← Macro.isParameterized_iff, ← Macro.isParameterized_iff,
      hkind]

/-- **Tables of the same kinds read alike.** -/
theorem Reads.exists_alike (h : SameKinds tbl tbl') (hr : Reads tbl text item) :
    ∃ item', Reads tbl' text item' ∧ item.Alike item' := by
  obtain ⟨item', hr', hrelated⟩ := hr.exists_related (fun _ _ hrel => hrel.2) fun w _ => h.rel w
  refine ⟨item', hr', ?_⟩
  cases hrelated with
  | plain => exact .plain
  | constant => exact .constant
  | call hrel => exact .call hrel.1
  | unclosed hrel => exact .unclosed hrel.1

theorem SameKinds.exists_read (h : SameKinds tbl tbl') {c : Char} {t : Text}
    (hread : tbl.read c t = item) : ∃ item', tbl'.read c t = item' ∧ item.Alike item' := by
  obtain ⟨item', hr, halike⟩ := (reads_iff.2 hread).exists_alike h
  exact ⟨item', reads_iff.1 hr, halike⟩

/-! ## Expanding -/

theorem expandAll_failAlike
    (h : ∀ a ∈ texts, FailAlike (tbl.expandInside depth a) (tbl'.expandInside depth a)) :
    FailAlike (tbl.expandAll depth texts) (tbl'.expandAll depth texts) := by
  induction texts with
  | nil =>
    intro e
    rw [expandAll_nil, expandAll_nil]
  | cons a texts ih =>
    intro e
    have ha := h a List.mem_cons_self
    have htexts := ih fun a' ha' => h a' (List.mem_cons_of_mem a ha')
    rw [expandAll_cons_eq_error_iff, expandAll_cons_eq_error_iff, ha e, ha.exists_ok_iff, htexts e]

/-- **The run of both expanders.** They stop together, for the same cause, or
both go on. -/
theorem SameKinds.expandRest_failAlike (h : SameKinds tbl tbl') (depth : Int) (size : Nat)
    (text : Text) :
    FailAlike (tbl.expandRest depth size text) (tbl'.expandRest depth size text) := by
  induction text using reading_induction tbl generalizing depth size with
  | nil =>
    intro e
    rw [expandRest_nil, expandRest_nil]
  | plain hread ih =>
    obtain ⟨item', hread', halike⟩ := h.exists_read hread
    cases halike with
    | plain =>
      rw [expandRest_plain hread, expandRest_plain hread']
      exact (ih depth size).map _ _
  | constant hread ih =>
    obtain ⟨item', hread', halike⟩ := h.exists_read hread
    cases halike with
    | constant =>
      rw [expandRest_constant hread, expandRest_constant hread']
      exact (ih depth size).map _ _
  | call hread ihargs ih =>
    obtain ⟨item', hread', halike⟩ := h.exists_read hread
    cases halike with
    | call hname =>
      -- the arguments are the same texts, and fail alike by induction
      have hargs := expandAll_failAlike fun a ha => ihargs a ha (depth + 1) a.length
      intro e
      rw [expandRest_call_eq_error_iff hread, expandRest_call_eq_error_iff hread', hname,
        hargs.exists_ok_iff, ih depth size e]
      simp only [hargs _]
  | unclosed hread =>
    obtain ⟨item', hread', halike⟩ := h.exists_read hread
    cases halike with
    | unclosed hname =>
      intro e
      rw [expandRest_unclosed hread, expandRest_unclosed hread', hname]

/-- **Failing goes by the kinds of the macros.** Where each word stands for
macros of one kind in two tables, a text fails under the one exactly if it does
under the other, at any depth, and with the same failure. -/
theorem expandInside_eq_error_iff (h : SameKinds tbl tbl') (depth : Int) (text : Text)
    (e : Failure) :
    tbl.expandInside depth text = .error e ↔ tbl'.expandInside depth text = .error e :=
  h.expandRest_failAlike depth text.length text e

/-- The bodies of the second table hold commas, a parenthesis that nothing
closes and names of macros, also inside the arguments of another call. -/
theorem expandInside_eq_error_iff_hostile :
    let tbl : Table := { entries :=
      [{ name := ['f'], parameters := [['x']], body := ['x'] }, { name := ['k'], body := ['v'] }] }
    let tbl' : Table := { entries :=
      [{ name := ['k'], body := "f(".toList },
        { name := ['f'], parameters := [['k'], []], body := ",f(k".toList }] }
    let text := "k f(f(k, 1), k) f(k".toList
    let e : Failure := { column := 17, fault := .unclosedArguments ['f'] }
    SameKinds tbl tbl' ∧ tbl.expandInside 0 text = .error e ∧
      tbl'.expandInside 0 text = .error e := by
  have hkinds : SameKinds
      { entries := [{ name := ['f'], parameters := [['x']], body := ['x'] },
        { name := ['k'], body := ['v'] }] }
      { entries := [{ name := ['k'], body := "f(".toList },
        { name := ['f'], parameters := [['k'], []], body := ",f(k".toList }] } := by
    intro w
    by_cases hf : ['f'] = w
    · subst hf
      rfl
    · by_cases hk : ['k'] = w
      · subst hk
        rfl
      · simp [lookup, isPredeclared, find?, Keyed.find?, hf, hk]
  have herr : ({ entries := [{ name := ['f'], parameters := [['x']], body := ['x'] },
      { name := ['k'], body := ['v'] }] } : Table).expandInside 0 "k f(f(k, 1), k) f(k".toList =
        .error { column := 17, fault := .unclosedArguments ['f'] } := by decide +kernel
  exact ⟨hkinds, herr, (expandInside_eq_error_iff hkinds 0 _ _).1 herr⟩

end Table

end LineMacro
