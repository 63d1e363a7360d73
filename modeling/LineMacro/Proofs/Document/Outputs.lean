import LineMacro.Proofs.Document.Lines
/-!
# Documents — the output of each line

Processing collects the outputs of those lines that have any. Line by line, each
output is what processing its line gave, under the table that the lines before
it had left (`Outputs`); lines are processed without a failure exactly if they
have such outputs, and then these are what is collected
(`processLines_eq_ok_iff`).
-/

namespace LineMacro

namespace Table

/-- The outputs of lines that are numbered from `n` on, one for each line. A
definition line has none. -/
inductive Outputs : Table → Int → List Text → List (Option Text) → Prop
  | nil {tbl : Table} {n : Int} : Outputs tbl n [] []
  /-- The next line is processed under the table that this one leaves. -/
  | cons {tbl : Table} {n : Int} {line : Text} {lines : List Text} {out : Option Text}
      {outs : List (Option Text)} :
      (tbl.processLine line n).result = .ok out →
      Outputs (tbl.processLine line n).table (n + 1) lines outs →
      Outputs tbl n (line :: lines) (out :: outs)

variable {tbl : Table} {n : Int} {lines : List Text} {outs : List (Option Text)}

theorem filterMap_cons_id (out : Option Text) (outs : List (Option Text)) :
    (out :: outs).filterMap id = out.toList ++ outs.filterMap id := by
  cases out <;> rfl

theorem Outputs.processLines_result (h : Outputs tbl n lines outs) :
    (tbl.processLines n lines).result = .ok (outs.filterMap id) := by
  induction h with
  | nil => rfl
  | cons hline _ ih =>
    rw [processLines_cons_of_ok hline, filterMap_cons_id]
    exact Failure.map_eq_ok_iff.2 ⟨_, ih, rfl⟩

theorem exists_outputs_of_processLines_eq_ok {first : List Text}
    (h : (tbl.processLines n lines).result = .ok first) : ∃ outs, Outputs tbl n lines outs := by
  induction lines generalizing tbl n first with
  | nil => exact ⟨[], .nil⟩
  | cons line lines ih =>
    obtain ⟨out, rest, hline, hrest, -⟩ := exists_of_processLines_cons_eq_ok h
    obtain ⟨outs, houts⟩ := ih hrest
    exact ⟨out :: outs, .cons hline houts⟩

/-- **What is collected are the outputs of the lines.** -/
theorem processLines_eq_ok_iff {first : List Text} :
    (tbl.processLines n lines).result = .ok first ↔
      ∃ outs, Outputs tbl n lines outs ∧ first = outs.filterMap id := by
  constructor
  · intro h
    obtain ⟨outs, houts⟩ := exists_outputs_of_processLines_eq_ok h
    exact ⟨outs, houts, Except.ok.inj (h.symm.trans houts.processLines_result)⟩
  · rintro ⟨outs, houts, rfl⟩
    exact houts.processLines_result

/-- **There is an output for each line that is no definition.** -/
theorem length_of_processLines_eq_ok {first : List Text}
    (h : (tbl.processLines n lines).result = .ok first) :
    first.length = (Definition.textLines lines).length := by
  induction lines generalizing tbl n first with
  | nil =>
    obtain rfl : [] = first := Except.ok.inj h
    rfl
  | cons line lines ih =>
    obtain ⟨out, rest, hline, hrest, rfl⟩ := exists_of_processLines_cons_eq_ok h
    rw [Definition.textLines, List.filter_cons, List.length_append, ih hrest, Definition.textLines]
    cases handles_of_processLine_eq_ok hline with
    | definition hdef =>
      rw [hdef]
      exact Nat.zero_add _
    | text hdef =>
      rw [hdef]
      exact Nat.add_comm 1 _

/-- The output of a line stands behind as many others as there are lines above
it that have one. -/
theorem getElem?_of_processLines_eq_ok {above below first : List Text} {line : Text}
    (h : (tbl.processLines n (above ++ line :: below)).result = .ok first)
    (hdef : Definition.isDefinition line = false) :
    ∃ out, (tbl.processLines n above).table.expand line = .ok out ∧
      first[(Definition.textLines above).length]? = some out := by
  obtain ⟨outs, habove⟩ := exists_of_processLines_append_eq_ok h
  rw [processLines_append habove] at h
  obtain ⟨rest, hrest, rfl⟩ := Failure.map_eq_ok_iff.1 h
  obtain ⟨out, outs', hline, -, rfl⟩ := exists_of_processLines_cons_eq_ok hrest
  cases handles_of_processLine_eq_ok hline with
  | definition hdef' =>
    rw [hdef] at hdef'
    cases hdef'
  | text _ hexp =>
    refine ⟨_, hexp, ?_⟩
    rw [← length_of_processLines_eq_ok habove, List.getElem?_append_right (Nat.le_refl _),
      Nat.sub_self]
    rfl

/-- Nothing else is an output. -/
theorem exists_of_mem_of_processLines_eq_ok {first : List Text} {out : Text}
    (h : (tbl.processLines n lines).result = .ok first) (hout : out ∈ first) :
    ∃ above line below, lines = above ++ line :: below ∧ Definition.isDefinition line = false ∧
      (tbl.processLines n above).table.expand line = .ok out := by
  induction lines generalizing tbl n first with
  | nil =>
    obtain rfl : [] = first := Except.ok.inj h
    exact absurd hout List.not_mem_nil
  | cons line lines ih =>
    obtain ⟨out', rest, hline, hrest, rfl⟩ := exists_of_processLines_cons_eq_ok h
    rcases List.mem_append.1 hout with hout | hout
    · cases handles_of_processLine_eq_ok hline with
      | definition => exact absurd hout List.not_mem_nil
      | text hdef hexp =>
        obtain rfl := List.mem_singleton.1 hout
        exact ⟨[], line, lines, rfl, hdef, hexp⟩
    · obtain ⟨above, l, below, rfl, hdef, hexp⟩ := ih hrest hout
      refine ⟨line :: above, l, below, rfl, hdef, ?_⟩
      rw [processLines_cons_of_ok hline]
      exact hexp

/-- A document gives the outputs of its lines, joined. -/
theorem process_eq_ok_iff {document out : Text} :
    (tbl.process document).result = .ok out ↔
      ∃ outs, Outputs tbl 1 (Text.lines document) outs ∧
        out = Text.joinLines (outs.filterMap id) := by
  rw [process, Failure.map_eq_ok_iff]
  constructor
  · rintro ⟨first, hfirst, rfl⟩
    obtain ⟨outs, houts, rfl⟩ := processLines_eq_ok_iff.1 hfirst
    exact ⟨outs, houts, rfl⟩
  · rintro ⟨outs, houts, rfl⟩
    exact ⟨_, houts.processLines_result, rfl⟩

end Table

end LineMacro
