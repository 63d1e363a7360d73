import LineMacro.Document.Visible
import LineMacro.Proofs.Definition.Place
import LineMacro.Proofs.Expansion.Place
/-!
# Documents — line by line

What one line does, and from it what any number of lines do. A line that is
handled installs the macro it defines, if it defines one, and a line that fails
changes nothing and puts its number on the failure. So lines that are all
handled leave the table with their macros installed in order
(`processLines_table`), and a failure is that of one line, under the table that
the lines before it left (`exists_of_processLines_eq_error`).
-/

namespace LineMacro

/-! ## What came before -/

namespace Outcome

/-- The outcome of going on, with what was given and recorded before. -/
def preceded (first : List Text) (log : Log) (o : Outcome (List Text)) : Outcome (List Text) :=
  ⟨o.result.map (first ++ ·), o.table, log ++ o.log⟩

theorem preceded_nil (o : Outcome (List Text)) : o.preceded [] [] = o := by
  obtain ⟨result, table, log⟩ := o
  cases result <;> rfl

/-- What gives nothing leaves the result as it is. -/
theorem preceded_nil_result (log : Log) (o : Outcome (List Text)) :
    (o.preceded [] log).result = o.result := by
  obtain ⟨result, table, olog⟩ := o
  cases result <;> rfl

theorem preceded_preceded (first first' : List Text) (log log' : Log)
    (o : Outcome (List Text)) :
    (o.preceded first log).preceded first' log' =
      o.preceded (first' ++ first) (log' ++ log) := by
  obtain ⟨result, table, log⟩ := o
  cases result <;> simp [preceded, Except.map]

end Outcome

namespace Table

variable {tbl : Table} {n : Int} {line : Text} {lines above below : List Text}
variable {out : Option Text} {first outs : List Text} {e : Failure}

/-! ## One line -/

/-- Under a table a line is handled or it fails. -/
theorem handles_or_refuses (tbl : Table) (n : Int) (line : Text) :
    (∃ out, tbl.Handles n line out) ∨ ∃ e, tbl.Refuses n line e := by
  by_cases hdef : Definition.isDefinition line = true
  · cases hread : Definition.read line n with
    | ok m => exact Or.inl ⟨none, .definition hdef hread⟩
    | error e => exact Or.inr ⟨e, .definition hdef hread⟩
  · have hdef := Bool.eq_false_iff.2 hdef
    cases hexp : tbl.expand line with
    | ok out => exact Or.inl ⟨some out, .text hdef hexp⟩
    | error e => exact Or.inr ⟨e, .text hdef hexp⟩

/-- **What a handled line does.** -/
theorem Handles.processLine (h : tbl.Handles n line out) :
    (tbl.processLine line n).result = .ok out ∧
      (tbl.processLine line n).table = tbl.defineAll (Definition.macro? line n).toList := by
  cases h with
  | definition hdef hread =>
    rw [Table.processLine, if_pos hdef, hread, Definition.macro?, if_pos hdef, hread]
    exact ⟨rfl, rfl⟩
  | text hdef hexp =>
    rw [Table.processLine, hdef, hexp, Definition.macro?, hdef]
    exact ⟨rfl, rfl⟩

/-- A failure has no line yet, or the one it belongs to. -/
theorem Refuses.line_eq (h : tbl.Refuses n line e) : e.line = 0 ∨ e.line = n := by
  cases h with
  | definition hdef hread =>
    obtain ⟨-, -, hline, -⟩ := Definition.exists_stopsAt_of_error hdef hread
    exact Or.inr hline
  | text hdef hexp =>
    obtain ⟨-, -, hline, -⟩ := exists_stopsAt_of_error hexp
    exact Or.inl hline

theorem Refuses.atLine (h : tbl.Refuses n line e) : e.atLine n = { e with line := n } := by
  unfold Failure.atLine
  split
  · rfl
  · rename_i hne
    rw [← h.line_eq.resolve_left hne]

/-- **What a line that fails does.** -/
theorem Refuses.processLine (h : tbl.Refuses n line e) :
    (tbl.processLine line n).result = .error { e with line := n } ∧
      (tbl.processLine line n).table = tbl := by
  rw [← h.atLine]
  cases h with
  | definition hdef hread =>
    rw [Table.processLine, if_pos hdef, hread]
    exact ⟨rfl, rfl⟩
  | text hdef hexp =>
    rw [Table.processLine, hdef, hexp]
    exact ⟨rfl, rfl⟩

theorem handles_of_processLine_eq_ok (h : (tbl.processLine line n).result = .ok out) :
    tbl.Handles n line out := by
  obtain ⟨out', hhandles⟩ | ⟨e, hrefuses⟩ := tbl.handles_or_refuses n line
  · obtain rfl : out' = out := Except.ok.inj (hhandles.processLine.1.symm.trans h)
    exact hhandles
  · rw [hrefuses.processLine.1] at h
    cases h

theorem processLine_table_of_ok (h : (tbl.processLine line n).result = .ok out) :
    (tbl.processLine line n).table = tbl.defineAll (Definition.macro? line n).toList :=
  (handles_of_processLine_eq_ok h).processLine.2

@[simp] theorem processLine_predeclared (tbl : Table) (line : Text) (n : Int) :
    (tbl.processLine line n).table.predeclared = tbl.predeclared := by
  obtain ⟨out, hhandles⟩ | ⟨e, hrefuses⟩ := tbl.handles_or_refuses n line
  · rw [hhandles.processLine.2, defineAll_predeclared]
  · rw [hrefuses.processLine.2]

theorem refuses_of_processLine_eq_error (h : (tbl.processLine line n).result = .error e) :
    ∃ e', tbl.Refuses n line e' ∧ e = { e' with line := n } := by
  obtain ⟨out, hhandles⟩ | ⟨e', hrefuses⟩ := tbl.handles_or_refuses n line
  · rw [hhandles.processLine.1] at h
    cases h
  · rw [hrefuses.processLine.1] at h
    exact ⟨e', hrefuses, (Except.error.inj h).symm⟩

/-! ## Any number of lines -/

theorem processLines_cons_of_ok (h : (tbl.processLine line n).result = .ok out) :
    tbl.processLines n (line :: lines) =
      ((tbl.processLine line n).table.processLines (n + 1) lines).preceded
        out.toList (tbl.processLine line n).log := by
  simp only [processLines, h, Outcome.preceded]

theorem processLines_cons_of_error (h : (tbl.processLine line n).result = .error e) :
    tbl.processLines n (line :: lines) =
      ⟨.error e, (tbl.processLine line n).table, (tbl.processLine line n).log⟩ := by
  simp only [processLines, h]

/-- Lines are handled only if the first of them is. -/
theorem exists_of_processLines_cons_eq_ok
    (h : (tbl.processLines n (line :: lines)).result = .ok outs) :
    ∃ out rest, (tbl.processLine line n).result = .ok out ∧
      ((tbl.processLine line n).table.processLines (n + 1) lines).result = .ok rest ∧
        outs = out.toList ++ rest := by
  cases hline : (tbl.processLine line n).result with
  | error e =>
    rw [processLines_cons_of_error hline] at h
    cases h
  | ok out =>
    rw [processLines_cons_of_ok hline] at h
    obtain ⟨rest, hrest, rfl⟩ := Failure.map_eq_ok_iff.1 h
    exact ⟨out, rest, rfl, hrest, rfl⟩

/-- The number of the line below the given ones, counted from the first of them
or from the one after it. -/
theorem number_cons (n : Int) (line : Text) (above : List Text) :
    n + (line :: above).length = n + 1 + above.length := by
  rw [List.length_cons]
  push_cast
  omega

/-- **Lines go on where those before them ended.** -/
theorem processLines_append (h : (tbl.processLines n above).result = .ok first) :
    tbl.processLines n (above ++ below) =
      ((tbl.processLines n above).table.processLines (n + above.length) below).preceded
        first (tbl.processLines n above).log := by
  induction above generalizing tbl n first with
  | nil =>
    obtain rfl : [] = first := Except.ok.inj h
    have hn : n + ([] : List Text).length = n := Int.add_zero n
    rw [hn, List.nil_append]
    exact (Outcome.preceded_nil _).symm
  | cons line above ih =>
    -- the induction hypothesis starts from the table that the first line leaves
    obtain ⟨out, rest, hline, hrest, rfl⟩ := exists_of_processLines_cons_eq_ok h
    rw [List.cons_append, processLines_cons_of_ok hline, processLines_cons_of_ok hline, ih hrest,
      Outcome.preceded_preceded, number_cons]
    rfl

/-- One more line that is handled adds its output. -/
theorem processLines_snoc_of_ok (habove : (tbl.processLines n above).result = .ok first)
    (hline : ((tbl.processLines n above).table.processLine line (n + above.length)).result =
      .ok out) :
    (tbl.processLines n (above ++ [line])).result = .ok (first ++ out.toList) := by
  rw [processLines_append habove, processLines_cons_of_ok hline, Outcome.preceded_preceded]
  exact Failure.map_eq_ok_iff.2 ⟨[], rfl, (List.append_nil _).symm⟩

/-- Lines fail below handled ones as they do from there. -/
theorem processLines_append_eq_error_iff (habove : (tbl.processLines n above).result = .ok first) :
    (tbl.processLines n (above ++ below)).result = .error e ↔
      ((tbl.processLines n above).table.processLines (n + above.length) below).result =
        .error e := by
  rw [processLines_append habove]
  exact Failure.map_eq_error_iff

/-- A line that fails ends the lines, whatever is below it. -/
theorem processLines_append_of_error (habove : (tbl.processLines n above).result = .ok first)
    (hline : ((tbl.processLines n above).table.processLine line (n + above.length)).result =
      .error e) :
    (tbl.processLines n (above ++ line :: below)).result = .error e := by
  rw [processLines_append_eq_error_iff habove, processLines_cons_of_error hline]

/-- It leaves the table as the lines above it had left it. -/
theorem processLines_append_table (habove : (tbl.processLines n above).result = .ok first)
    (hline : ((tbl.processLines n above).table.processLine line (n + above.length)).result =
      .error e) (below : List Text) :
    (tbl.processLines n (above ++ line :: below)).table = (tbl.processLines n above).table := by
  obtain ⟨e', hrefuses, rfl⟩ := refuses_of_processLine_eq_error hline
  rw [processLines_append habove, processLines_cons_of_error hline]
  exact hrefuses.processLine.2

/-- One more text line gives its expansion under the table that the lines above it
left. -/
theorem processLines_snoc_of_text (habove : (tbl.processLines n above).result = .ok first)
    (hdef : Definition.isDefinition line = false) :
    (tbl.processLines n (above ++ [line])).result =
      (((tbl.processLines n above).table.expand line).mapError
        fun e => { e with line := n + above.length }).map fun out => first ++ [out] := by
  cases hexp : (tbl.processLines n above).table.expand line with
  | ok out =>
    have hhandles : (tbl.processLines n above).table.Handles (n + above.length) line (some out) :=
      .text hdef hexp
    exact processLines_snoc_of_ok habove hhandles.processLine.1
  | error e =>
    have hrefuses : (tbl.processLines n above).table.Refuses (n + above.length) line e :=
      .text hdef hexp
    exact processLines_append_of_error habove hrefuses.processLine.1

/-- **The table that handled lines leave.** -/
theorem processLines_table (h : (tbl.processLines n lines).result = .ok outs) :
    (tbl.processLines n lines).table = tbl.defineAll (Definition.macros n lines) := by
  induction lines generalizing tbl n outs with
  | nil => rfl
  | cons line lines ih =>
    obtain ⟨out, rest, hline, hrest, rfl⟩ := exists_of_processLines_cons_eq_ok h
    rw [processLines_cons_of_ok hline, Definition.macros, defineAll_append,
      ← processLine_table_of_ok hline]
    exact ih hrest

/-- **A failure is that of the first line that fails.** The lines before it are
handled, and it fails under the table that they left. -/
theorem exists_of_processLines_eq_error (h : (tbl.processLines n lines).result = .error e) :
    ∃ above line below outs, lines = above ++ line :: below ∧
      (tbl.processLines n above).result = .ok outs ∧
        ((tbl.processLines n above).table.processLine line (n + above.length)).result =
          .error e := by
  induction lines generalizing tbl n with
  | nil => cases h
  | cons line lines ih =>
    cases hline : (tbl.processLine line n).result with
    | error e' =>
      -- the first line is the one, and nothing stands before it
      rw [processLines_cons_of_error hline] at h
      cases h
      refine ⟨[], line, lines, [], rfl, rfl, ?_⟩
      have hn : n + ([] : List Text).length = n := Int.add_zero n
      rw [hn]
      exact hline
    | ok out =>
      rw [processLines_cons_of_ok hline] at h
      obtain ⟨above, bad, below, outs, rfl, habove, hbad⟩ := ih (Failure.map_eq_error_iff.1 h)
      -- the line belongs to those above, and moves the number of the bad one on
      refine ⟨line :: above, bad, below, out.toList ++ outs, rfl, ?_, ?_⟩
      · rw [processLines_cons_of_ok hline]
        exact Failure.map_eq_ok_iff.2 ⟨outs, habove, rfl⟩
      · rw [processLines_cons_of_ok hline, number_cons]
        exact hbad

/-- Of lines that are numbered from `n` on those that are handled: all of them,
or those above the one that fails. -/
def handledLines {α : Type} (n : Int) (lines : List Text) : Except Failure α → List Text
  | .ok _ => lines
  | .error e => lines.take (e.line - n).toNat

theorem handledLines_isPrefix {α : Type} (n : Int) (lines : List Text) (r : Except Failure α) :
    handledLines n lines r <+: lines := by
  cases r with
  | ok _ => exact List.prefix_refl lines
  | error e => exact List.take_prefix _ lines

theorem handledLines_map {α β : Type} (n : Int) (lines : List Text) (f : α → β)
    (r : Except Failure α) : handledLines n lines (r.map f) = handledLines n lines r := by
  cases r <;> rfl

/-- **The table that lines leave**, whether or not one of them fails. -/
theorem processLines_table_eq (tbl : Table) (n : Int) (lines : List Text) :
    (tbl.processLines n lines).table = tbl.defineAll
      (Definition.macros n (handledLines n lines (tbl.processLines n lines).result)) := by
  cases hresult : (tbl.processLines n lines).result with
  | ok outs => exact processLines_table hresult
  | error e =>
    obtain ⟨above, line, below, outs, rfl, habove, hline⟩ :=
      exists_of_processLines_eq_error hresult
    obtain ⟨e', -, rfl⟩ := refuses_of_processLine_eq_error hline
    have hnumber : (n + above.length - n).toNat = above.length := by omega
    rw [processLines_append_table habove hline, processLines_table habove, handledLines, hnumber,
      List.take_left]

/-- No line changes what is predeclared. -/
@[simp] theorem processLines_predeclared (tbl : Table) (n : Int) (lines : List Text) :
    (tbl.processLines n lines).table.predeclared = tbl.predeclared := by
  induction lines generalizing tbl n with
  | nil => rfl
  | cons line lines ih =>
    cases hline : (tbl.processLine line n).result with
    | ok out =>
      rw [processLines_cons_of_ok hline]
      exact (ih _ (n + 1)).trans (processLine_predeclared tbl line n)
    | error e =>
      rw [processLines_cons_of_error hline]
      exact processLine_predeclared tbl line n

/-- A failure has the number of one of the lines. -/
theorem exists_getElem?_of_processLines_eq_error
    (h : (tbl.processLines n lines).result = .error e) :
    ∃ (k : Nat) (line : Text), lines[k]? = some line ∧ e.line = n + k := by
  obtain ⟨above, line, below, outs, rfl, -, hline⟩ := exists_of_processLines_eq_error h
  obtain ⟨e', -, rfl⟩ := refuses_of_processLine_eq_error hline
  exact ⟨above.length, line, by simp, rfl⟩

/-- Lines that fail do so whatever is below them. -/
theorem processLines_append_eq_error (h : (tbl.processLines n above).result = .error e)
    (below : List Text) : (tbl.processLines n (above ++ below)).result = .error e := by
  obtain ⟨above, line, rest, first, rfl, habove, hline⟩ := exists_of_processLines_eq_error h
  rw [List.append_assoc, List.cons_append, processLines_append_of_error habove hline]

/-- So where lines are handled, those above any of them are. -/
theorem exists_of_processLines_append_eq_ok
    (h : (tbl.processLines n (above ++ below)).result = .ok outs) :
    ∃ first, (tbl.processLines n above).result = .ok first := by
  cases hresult : (tbl.processLines n above).result with
  | ok first => exact ⟨first, rfl⟩
  | error e =>
    rw [processLines_append_eq_error hresult below] at h
    cases h

/-! ## Documents -/

/-- **The table that a document leaves**, whether or not one of its lines
fails. -/
theorem process_table_eq (tbl : Table) (document : Text) :
    (tbl.process document).table = tbl.defineAll (Definition.macros 1
      (handledLines 1 (Text.lines document) (tbl.process document).result)) := by
  rw [process, handledLines_map]
  exact processLines_table_eq tbl 1 (Text.lines document)

/-- **Lines are processed as the document that they make up.** No lines at all
make up the empty document, whose one line gives an empty output. -/
theorem process_joinLines (tbl : Table) (h : ∀ line ∈ lines, '\n' ∉ line) :
    (tbl.process (Text.joinLines lines)).result =
        (tbl.processLines 1 lines).result.map Text.joinLines ∧
      (tbl.process (Text.joinLines lines)).table = (tbl.processLines 1 lines).table := by
  cases lines with
  | nil =>
    have hempty : tbl.Handles 1 [] (some []) := .text rfl expandRest_nil
    have hlines : Text.lines (Text.joinLines []) = [[]] := rfl
    rw [process, hlines, processLines_cons_of_ok hempty.processLine.1, hempty.processLine.2]
    exact ⟨rfl, rfl⟩
  | cons line lines =>
    rw [process, Text.lines_joinLines h (List.cons_ne_nil line lines)]
    exact ⟨rfl, rfl⟩

end Table

end LineMacro
