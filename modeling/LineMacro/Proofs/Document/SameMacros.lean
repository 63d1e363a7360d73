import LineMacro.Proofs.Document.Shadowed
/-!
# Documents — tables of the same macros

Two tables may have the same macros under the same names and still differ: in
the lines on which these were defined, and in the order in which they are listed
(`SameMacros`). No line can tell them apart, and what it does to them keeps them
alike. So from either table lines give the same, and fail at the same one, also
if they are numbered from elsewhere on (`SameMacros.processLines_result`,
`SameMacros.processLines`).
-/

namespace LineMacro

/-- The failure with its line counted from elsewhere. -/
def Failure.renumbered (d : Int) (e : Failure) : Failure := { e with line := e.line + d }

theorem Failure.mapError_renumbered_zero {α : Type} (r : Except Failure α) :
    r.mapError (Failure.renumbered 0) = r := by
  cases r with
  | ok a => rfl
  | error e => simp [Except.mapError, renumbered]

/-! ## Macros under other numbers -/

namespace Definition

theorem map_unnumbered_macro? (line : Text) (n n' : Int) :
    (macro? line n).map Macro.unnumbered = (macro? line n').map Macro.unnumbered := by
  cases hm : macro? line n with
  | none => rw [macro?_eq_none_at hm n']
  | some m => rw [macro?_at hm n']; rfl

/-- Lines define the same macros wherever they stand. -/
theorem map_unnumbered_macros (n n' : Int) (lines : List Text) :
    (macros n lines).map Macro.unnumbered = (macros n' lines).map Macro.unnumbered := by
  induction lines generalizing n n' with
  | nil => rfl
  | cons line lines ih =>
    have hline := congrArg Option.toList (map_unnumbered_macro? line n n')
    rw [Option.toList_map, Option.toList_map] at hline
    rw [macros, macros, List.map_append, List.map_append, hline, ih (n + 1) (n' + 1)]

/-- Where no name is predeclared nothing is left out. -/
theorem unshadowed_nil (lines : List Text) : unshadowed [] lines = lines := by
  rw [unshadowed, List.filter_eq_self]
  intro line _
  cases hm : macro? line 0 <;> simp [isShadowed, hm]

end Definition

namespace Table

/-- Every name has the same macro in both tables, wherever that was defined, and
the same names are predeclared. -/
structure SameMacros (tbl tbl' : Table) : Prop where
  find? : ∀ name,
    (tbl.find? name).map Macro.unnumbered = (tbl'.find? name).map Macro.unnumbered
  predeclared : tbl.predeclared = tbl'.predeclared

namespace SameMacros

variable {tbl tbl' : Table} {ms ms' : List Macro}

theorem refl (tbl : Table) : SameMacros tbl tbl := ⟨fun _ => rfl, rfl⟩

theorem symm (h : SameMacros tbl tbl') : SameMacros tbl' tbl :=
  ⟨fun name => (h.find? name).symm, h.predeclared.symm⟩

/-- Tables that differ in numbers only list the same macros in the same order. -/
theorem of_unnumbered_eq (h : tbl.unnumbered = tbl'.unnumbered) : SameMacros tbl tbl' := by
  have hp : tbl.unnumbered.predeclared = tbl'.unnumbered.predeclared := congrArg _ h
  exact ⟨fun name => by rw [← find?_unnumbered, ← find?_unnumbered, h], hp⟩

/-! ## What can be seen of them -/

theorem sameMeaning (h : SameMacros tbl tbl') : SameMeaning tbl tbl' := by
  intro name
  have hp : tbl.isPredeclared name = tbl'.isPredeclared name :=
    congrArg (fun names => names.contains name) h.predeclared
  rw [meaning, meaning, lookup, lookup, hp]
  split
  · rfl
  · exact h.find? name

theorem shadows (h : SameMacros tbl tbl') : Shadows [] tbl tbl' :=
  ⟨h.sameMeaning, fun w => by simp [isPredeclared_iff, h.predeclared]⟩

/-! ## What is done to both -/

/-- Macros are installed in both, whatever their numbers and their order, if of
each name the same one is the last. -/
theorem defineAll (h : SameMacros tbl tbl')
    (hms : ∀ name, Keyed.last? Macro.name name (ms.map Macro.unnumbered) =
      Keyed.last? Macro.name name (ms'.map Macro.unnumbered)) :
    SameMacros (tbl.defineAll ms) (tbl'.defineAll ms') where
  find? name := by
    rw [← find?_unnumbered, ← find?_unnumbered, unnumbered_defineAll, unnumbered_defineAll,
      find?_defineAll, find?_defineAll, find?_unnumbered, find?_unnumbered, hms, h.find?]
  predeclared := by rw [defineAll_predeclared, defineAll_predeclared, h.predeclared]

/-- **Lines give the same from either table**, and the same line of them fails. -/
theorem processLines_result (h : SameMacros tbl tbl') (n n' : Int) (lines : List Text) :
    (tbl'.processLines n' lines).result =
      (tbl.processLines n lines).result.mapError (Failure.renumbered (n' - n)) := by
  cases hresult : (tbl.processLines n lines).result with
  | ok outs =>
    have hok := h.shadows.processLines_eq_ok hresult n'
    rw [Definition.unshadowed_nil] at hok
    exact hok
  | error e =>
    obtain ⟨above, -, -, -, -, hnumber, herr⟩ := h.shadows.processLines_eq_error hresult n'
    have hline : n' + above.length = e.line + (n' - n) := by omega
    rw [Definition.unshadowed_nil, Definition.unshadowed_nil, hline] at herr
    exact herr

/-- The same lines are handled. -/
theorem processLines_table (h : SameMacros tbl tbl') (n n' : Int) (lines : List Text) :
    (tbl'.processLines n' lines).table = tbl'.defineAll
      (Definition.macros n' (handledLines n lines (tbl.processLines n lines).result)) := by
  rw [processLines_table_eq, h.processLines_result n n']
  cases (tbl.processLines n lines).result with
  | ok _ => rfl
  | error e =>
    have hnumber : (e.renumbered (n' - n)).line - n' = e.line - n := by
      change e.line + (n' - n) - n' = e.line - n
      omega
    rw [Except.mapError, handledLines, handledLines, hnumber]

/-- **So they leave tables of the same macros.** -/
theorem processLines (h : SameMacros tbl tbl') (n n' : Int) (lines : List Text) :
    SameMacros (tbl.processLines n lines).table (tbl'.processLines n' lines).table := by
  rw [h.processLines_table n n', processLines_table_eq]
  exact h.defineAll fun name => by rw [Definition.map_unnumbered_macros n n']

/-- Lines that are as many, give the same and leave the same macros can stand for
each other above any lines. -/
theorem processLines_append {above above' first : List Text} {n : Int}
    (h : SameMacros (tbl.processLines n above).table (tbl'.processLines n above').table)
    (hlength : above.length = above'.length)
    (hok : (tbl.processLines n above).result = .ok first)
    (hok' : (tbl'.processLines n above').result = .ok first) (below : List Text) :
    (tbl'.processLines n (above' ++ below)).result =
        (tbl.processLines n (above ++ below)).result ∧
      SameMacros (tbl.processLines n (above ++ below)).table
        (tbl'.processLines n (above' ++ below)).table := by
  rw [Table.processLines_append hok, Table.processLines_append hok', hlength]
  refine ⟨?_, h.processLines _ _ below⟩
  rw [Outcome.preceded, Outcome.preceded, h.processLines_result, Int.sub_self,
    Failure.mapError_renumbered_zero]

end SameMacros

/-- Tables that list the same macros in the same order go on to do so. -/
theorem unnumbered_processLines {tbl tbl' : Table} (h : tbl.unnumbered = tbl'.unnumbered)
    (n n' : Int) (lines : List Text) :
    (tbl.processLines n lines).table.unnumbered =
      (tbl'.processLines n' lines).table.unnumbered := by
  rw [(SameMacros.of_unnumbered_eq h).processLines_table n n', processLines_table_eq,
    unnumbered_defineAll, unnumbered_defineAll, Definition.map_unnumbered_macros n n', h]

end Table

end LineMacro
