import LineMacro.Proofs.Document.Lines
import Mathlib.Data.List.Induction
/-!
# Documents — the last definition of a name

The lines of a document define macros in order, and of each name the last one
counts. Which line that is can be said of the lines themselves
(`Definition.LastOf`): it defines a macro of the name, and no line below it
does. This is the one that a look-up in the list of the macros finds
(`last?_macros_eq_some_iff`).
-/

namespace LineMacro

namespace Definition

variable {line name : Text} {n : Int} {m : Macro} {lines : List Text}

/-! ## What lines define -/

theorem macro?_eq_some_iff :
    macro? line n = some m ↔ isDefinition line = true ∧ read line n = .ok m := by
  rw [macro?]
  cases isDefinition line with
  | false => simp
  | true => cases read line n <;> simp [Except.toOption]

theorem macro?_eq_none_of_text (h : isDefinition line = false) (n : Int) :
    macro? line n = none := by
  rw [macro?, h]
  rfl

theorem macros_append (n : Int) (above below : List Text) :
    macros n (above ++ below) = macros n above ++ macros (n + above.length) below := by
  induction above generalizing n with
  | nil =>
    have hn : n + ([] : List Text).length = n := Int.add_zero n
    rw [hn]
    rfl
  | cons line above ih =>
    rw [List.cons_append, macros, macros, ih, Table.number_cons, List.append_assoc]

/-- A line defines the same macro wherever it stands, but for the number. -/
theorem macro?_at (h : macro? line n = some m) (n' : Int) :
    macro? line n' = some { m with line := n' } := by
  rw [macro?_eq_some_iff] at h ⊢
  exact ⟨h.1, read_eq_ok_at h.2 n'⟩

theorem macro?_eq_none_at (h : macro? line n = none) (n' : Int) : macro? line n' = none := by
  cases hm : macro? line n' with
  | none => rfl
  | some m =>
    rw [macro?_at hm n] at h
    cases h

/-! ## The last definition of a name -/

/-- Of the lines that define a macro of the name, the last defines this one. The
lines are numbered from 1. -/
inductive LastOf (name : Text) : List Text → Macro → Prop
  | mk {above below : List Text} {line : Text} {m : Macro} :
      macro? line (above.length + 1) = some m → m.name = name →
      (∀ l ∈ below, ∀ (n : Int) (m' : Macro), macro? l n = some m' → m'.name ≠ name) →
      LastOf name (above ++ line :: below) m

/-- One more line has the last definition, or it has none of the name and the
last is further up. -/
theorem LastOf.of_concat (h : LastOf name (lines ++ [line]) m) :
    macro? line (lines.length + 1) = some m ∧ m.name = name ∨
      (∀ m', macro? line (lines.length + 1) = some m' → m'.name ≠ name) ∧
        LastOf name lines m := by
  generalize hlines : lines ++ [line] = all at h
  obtain @⟨above, below, l, _, hl, hname, hbelow⟩ := h
  rcases List.eq_nil_or_concat below with rfl | ⟨below, d, rfl⟩
  · obtain ⟨rfl, hline⟩ := List.append_inj' hlines rfl
    obtain rfl : line = l := List.singleton_inj.1 hline
    exact Or.inl ⟨hl, hname⟩
  · rw [List.concat_eq_append, ← List.cons_append, ← List.append_assoc] at hlines
    obtain ⟨rfl, hline⟩ := List.append_inj' hlines rfl
    obtain rfl : line = d := List.singleton_inj.1 hline
    simp only [List.concat_eq_append, List.mem_append, List.mem_singleton] at hbelow
    exact Or.inr ⟨hbelow line (Or.inr rfl) _, .mk hl hname fun l hl => hbelow l (Or.inl hl)⟩

/-- One more line leaves the last definition of every name but its own. -/
theorem LastOf.concat (h : LastOf name lines m)
    (hline : ∀ m', macro? line (lines.length + 1) = some m' → m'.name ≠ name) :
    LastOf name (lines ++ [line]) m := by
  obtain @⟨above, below, l, _, hl, hname, hbelow⟩ := h
  rw [List.append_assoc, List.cons_append]
  refine .mk hl hname fun l' hl' n m' hm' => ?_
  rcases List.mem_append.1 hl' with hl' | hl'
  · exact hbelow l' hl' n m' hm'
  · -- the line has the same name under its own number
    obtain rfl : l' = line := List.mem_singleton.1 hl'
    have hnumbered := hline _ (macro?_at hm' ((above ++ l :: below).length + 1))
    exact hnumbered

theorem lastOf_concat_iff :
    LastOf name (lines ++ [line]) m ↔
      macro? line (lines.length + 1) = some m ∧ m.name = name ∨
        (∀ m', macro? line (lines.length + 1) = some m' → m'.name ≠ name) ∧
          LastOf name lines m := by
  refine ⟨LastOf.of_concat, ?_⟩
  rintro (⟨hline, hname⟩ | ⟨hline, h⟩)
  · exact .mk hline hname (by simp)
  · exact h.concat hline

theorem not_lastOf_nil : ¬ LastOf name [] m := by
  intro h
  generalize hlines : ([] : List Text) = all at h
  obtain ⟨-, -, -⟩ := h
  exact absurd hlines.symm (by simp)

theorem LastOf.name_eq (h : LastOf name lines m) : m.name = name := by
  obtain ⟨-, hname, -⟩ := h
  exact hname

/-- **The last definition of a name** is the last of those that the lines give. -/
theorem last?_macros_eq_some_iff :
    Keyed.last? Macro.name name (macros 1 lines) = some m ↔ LastOf name lines m := by
  induction lines using List.reverseRecOn with
  | nil => exact iff_of_false nofun not_lastOf_nil
  | append_singleton lines line ih =>
    have hline : macros (1 + lines.length) [line] = (macro? line (lines.length + 1)).toList := by
      rw [macros, macros, List.append_nil, Int.add_comm]
    rw [macros_append, Keyed.last?_append, hline, Keyed.last?_toList, lastOf_concat_iff, ← ih,
      Option.or_eq_some_iff, Option.filter_eq_some_iff, Option.filter_eq_none_iff]
    simp only [decide_eq_true_eq]

end Definition

/-- A line that defines a macro installs it, and the lines below go on from
there. -/
theorem Table.processLines_cons_of_macro? {tbl : Table} {line : Text} {n : Int} {m : Macro}
    (h : Definition.macro? line n = some m) (lines : List Text) :
    (tbl.processLines n (line :: lines)).result =
      ((tbl.define m).processLines (n + 1) lines).result := by
  obtain ⟨hdef, hread⟩ := Definition.macro?_eq_some_iff.1 h
  have hhandles : tbl.Handles n line none := .definition hdef hread
  rw [processLines_cons_of_ok hhandles.processLine.1, hhandles.processLine.2, h]
  exact Outcome.preceded_nil_result _ _

end LineMacro
