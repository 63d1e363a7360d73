import LineMacro.Proofs.Document.LastDefinition
import LineMacro.Proofs.Expansion.Lookup
/-!
# Documents — lines under other numbers

A line does not look at its number: it writes it on the macro that it defines,
or on its failure. Nor does it look at the numbers that were written before. So
under two tables in which every word means the same a line does the same,
wherever it stands (`Handles.of_sameMeaning`,
`Refuses.processLine_of_sameMeaning`), and leaves two tables of that kind behind
(`SameMeaning.processLine`).
-/

namespace LineMacro

namespace Table

variable {tbl tbl' : Table} {n : Int} {line : Text} {out : Option Text} {e : Failure}
variable {m m' : Macro}

/-! ## Definitions in both tables -/

/-- The same definition on both sides, on whatever lines. -/
theorem SameMeaning.define (h : SameMeaning tbl tbl') (hm : m.SameUse m')
    (hp : tbl.isPredeclared m.name = tbl'.isPredeclared m.name) :
    SameMeaning (tbl.define m) (tbl'.define m') := by
  intro w
  have hname := hm.name_eq
  by_cases hw : m.name = w
  · subst hw
    rw [meaning_define, meaning_define, if_pos rfl, if_pos hname.symm, hp]
    split
    · rfl
    · exact congrArg some hm
  · rw [meaning, meaning, lookup_define_of_ne tbl hw, lookup_define_of_ne tbl' (hname ▸ hw)]
    exact h w

/-- A definition under a predeclared name, on one side only. -/
theorem SameMeaning.define_left (h : SameMeaning tbl tbl')
    (hp : tbl.isPredeclared m.name = true) : SameMeaning (tbl.define m) tbl' := by
  intro w
  rw [← h w]
  by_cases hw : m.name = w
  · subst hw
    rw [meaning_define, if_pos hp, meaning, lookup, if_pos hp]
    rfl
  · rw [meaning, meaning, lookup_define_of_ne tbl hw]

/-! ## One line -/

/-- **A line that is handled** is handled wherever it stands, and gives the
same. -/
theorem Handles.of_sameMeaning (h : tbl.Handles n line out) (hsame : SameMeaning tbl tbl')
    (n' : Int) : tbl'.Handles n' line out := by
  cases h with
  | definition hdef hread => exact .definition hdef (Definition.read_eq_ok_at hread n')
  | text hdef hexp => exact .text hdef ((hsame.expand_eq line).symm.trans hexp)

/-- **A line that fails** fails wherever it stands, with its new number. -/
theorem Refuses.processLine_of_sameMeaning (h : tbl.Refuses n line e)
    (hsame : SameMeaning tbl tbl') (n' : Int) :
    (tbl'.processLine line n').result = .error { e with line := n' } ∧
      (tbl'.processLine line n').table = tbl' := by
  cases h with
  | definition hdef hread =>
    have hrefuses : tbl'.Refuses n' line { e with line := n' } :=
      .definition hdef (Definition.read_eq_error_at hread n')
    exact hrefuses.processLine
  | text hdef hexp =>
    have hrefuses : tbl'.Refuses n' line e := .text hdef ((hsame.expand_eq line).symm.trans hexp)
    exact hrefuses.processLine

theorem SameMeaning.processLine_eq_ok (h : SameMeaning tbl tbl')
    (hok : (tbl.processLine line n).result = .ok out) (n' : Int) :
    (tbl'.processLine line n').result = .ok out :=
  ((handles_of_processLine_eq_ok hok).of_sameMeaning h n').processLine.1

theorem SameMeaning.processLine_eq_error (h : SameMeaning tbl tbl')
    (herr : (tbl.processLine line n).result = .error e) (n' : Int) :
    (tbl'.processLine line n').result = .error { e with line := n' } := by
  obtain ⟨e', hrefuses, rfl⟩ := refuses_of_processLine_eq_error herr
  exact (hrefuses.processLine_of_sameMeaning h n').1

/-- **What a line leaves** means the same, if the name that it defines is
predeclared in both tables or in neither. -/
theorem SameMeaning.processLine (h : SameMeaning tbl tbl')
    (hp : ∀ m, Definition.macro? line n = some m →
      tbl.isPredeclared m.name = tbl'.isPredeclared m.name) (n' : Int) :
    SameMeaning (tbl.processLine line n).table (tbl'.processLine line n').table := by
  obtain ⟨out, hhandles⟩ | ⟨e, hrefuses⟩ := tbl.handles_or_refuses n line
  · rw [hhandles.processLine.2, (hhandles.of_sameMeaning h n').processLine.2]
    cases hm : Definition.macro? line n with
    | none =>
      rw [Definition.macro?_eq_none_at hm n']
      exact h
    | some m =>
      rw [Definition.macro?_at hm n']
      exact h.define rfl (hp m hm)
  · rw [hrefuses.processLine.2, (hrefuses.processLine_of_sameMeaning h n').2]
    exact h

end Table

end LineMacro
