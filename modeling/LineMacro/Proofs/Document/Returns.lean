import LineMacro.Proofs.Definition.Return
import LineMacro.Proofs.Document.Outputs
import LineMacro.Proofs.Expansion.Append
import LineMacro.Text.Return
/-!
# Documents — carriage returns at the ends of lines

A document whose lines end in carriage returns, all or some of them, is
processed as if it had none (`process_withoutReturns`). The same macros are
defined, the same line fails for the same cause, and every output has the return
of its line at its end. The one thing that can be told apart is a definition
line without a name, whose return is one more blank before the place where the
name should stand.
-/

namespace LineMacro

/-- What the return that a line ends in adds to the column of its failure: it is
a blank before the name of a definition, if that is missing. -/
def Definition.delay (line : Text) : Nat :=
  if Definition.isNameless line ∧ line.getLast? = some '\r' then 1 else 0

namespace Table

variable {tbl : Table} {n : Int} {line : Text} {lines : List Text} {out : Option Text}
variable {outs : List (Option Text)} {e : Failure}

/-! ## One line -/

theorem cleanCut_return (tbl : Table) (line : Text) : CleanCut tbl line ['\r'] := by
  refine ⟨fun c _ d hd => Or.inr ?_, fun _ _ _ _ _ _ _ => by decide⟩
  obtain rfl : '\r' = d := Option.some.inj hd
  decide

/-- **A return behind a text** stays where it is. It is part of no word, opens
no argument list and closes none. -/
theorem expand_append_return (tbl : Table) (line : Text) :
    tbl.expand (line ++ ['\r']) = (tbl.expand line).map (· ++ ['\r']) := by
  have hread : tbl.read '\r' [] = .plain ['\r'] [] := reads_iff.1 (.gap (by decide))
  have hsize : (line ++ ['\r']).length = line.length + ['\r'].length := List.length_append
  rw [expand, expandInside, hsize,
    expandRest_append (cleanCut_return tbl line) (Or.inr (by decide)), expandRest_plain hread,
    expandRest_nil, expand, expandInside]
  cases tbl.expandRest 0 line.length line <;> rfl

/-- **A line that is handled** is handled with its return as well. -/
theorem Handles.append_return (h : tbl.Handles n line out) (hline : '\r' ∉ line) :
    tbl.Handles n (line ++ ['\r']) (out.map (· ++ ['\r'])) := by
  cases h with
  | definition hdef hread =>
    have hname : Definition.isNameless line = false := by
      refine Bool.eq_false_iff.2 fun hname => ?_
      rw [Definition.read_of_isNameless hname] at hread
      cases hread
    exact .definition ((Definition.isDefinition_append_return line).trans hdef)
      ((Definition.read_append_return hdef hname hline).trans hread)
  | text hdef hexp =>
    refine .text ((Definition.isDefinition_append_return line).trans hdef) ?_
    rw [expand_append_return, hexp]
    rfl

/-- **A line that fails** fails with its return as well. -/
theorem Refuses.append_return (h : tbl.Refuses n line e) (hline : '\r' ∉ line) :
    tbl.Refuses n (line ++ ['\r']) (e.movedBy (Definition.delay (line ++ ['\r']))) := by
  have hdefinition := Definition.isDefinition_append_return line
  cases hname : Definition.isNameless line with
  | true =>
    have hdelay : Definition.delay (line ++ ['\r']) = 1 :=
      if_pos ⟨(Definition.isNameless_append_return line).trans hname, List.getLast?_concat⟩
    cases h with
    | definition hdef hread =>
      rw [Definition.read_of_isNameless hname] at hread
      cases hread
      refine .definition (hdefinition.trans hdef) ?_
      rw [Definition.read_of_isNameless ((Definition.isNameless_append_return line).trans hname),
        hdelay, List.length_append]
      rfl
    | text hdef =>
      rw [Definition.isDefinition_of_isNameless hname] at hdef
      cases hdef
  | false =>
    have hdelay : Definition.delay (line ++ ['\r']) = 0 := by
      rw [Definition.delay, Definition.isNameless_append_return, hname, if_neg (by simp)]
    have hmoved : e.movedBy 0 = e := by simp [Failure.movedBy]
    rw [hdelay, hmoved]
    cases h with
    | definition hdef hread =>
      exact .definition (hdefinition.trans hdef)
        ((Definition.read_append_return hdef hname hline).trans hread)
    | text hdef hexp =>
      refine .text (hdefinition.trans hdef) ?_
      rw [expand_append_return, hexp]
      rfl

/-- The return of a line has no part in the macro that the line defines. -/
theorem macro?_append_return (hline : '\r' ∉ line) :
    Definition.macro? (line ++ ['\r']) n = Definition.macro? line n := by
  rw [Definition.macro?, Definition.macro?, Definition.isDefinition_append_return]
  cases hdef : Definition.isDefinition line with
  | false => rfl
  | true =>
    cases hname : Definition.isNameless line with
    | false => rw [Definition.read_append_return hdef hname hline]
    | true =>
      rw [Definition.read_of_isNameless hname,
        Definition.read_of_isNameless ((Definition.isNameless_append_return line).trans hname)]
      rfl

/-! ## A line and what is left of it -/

/-- No return, no delay. -/
theorem movedBy_delay_of_not_mem (hline : '\r' ∉ line) :
    e.movedBy (Definition.delay line) = e := by
  have hlast : line.getLast? ≠ some '\r' := fun hlast => hline (List.mem_of_getLast? hlast)
  rw [Definition.delay, if_neg fun hdelay => hlast hdelay.2]
  simp [Failure.movedBy]

section

variable (h : '\r' ∉ line.dropLast)

include h

theorem Handles.of_withoutReturns (hline : tbl.Handles n (Text.withoutReturns line) out) :
    tbl.Handles n line (out.map (· ++ Text.ending line)) := by
  obtain ⟨t, ht, rfl | rfl⟩ := Text.exists_of_not_mem_dropLast h
  · rw [Text.withoutReturns_of_not_mem ht] at hline
    simpa [Text.ending_of_not_mem ht] using hline
  · rw [Text.withoutReturns_append_return ht] at hline
    rw [Text.ending_append_return]
    exact hline.append_return ht

theorem Refuses.of_withoutReturns (hline : tbl.Refuses n (Text.withoutReturns line) e) :
    tbl.Refuses n line (e.movedBy (Definition.delay line)) := by
  obtain ⟨t, ht, rfl | rfl⟩ := Text.exists_of_not_mem_dropLast h
  · rw [Text.withoutReturns_of_not_mem ht] at hline
    rwa [movedBy_delay_of_not_mem ht]
  · rw [Text.withoutReturns_append_return ht] at hline
    exact hline.append_return ht

theorem macro?_withoutReturns :
    Definition.macro? (Text.withoutReturns line) n = Definition.macro? line n := by
  obtain ⟨t, ht, rfl | rfl⟩ := Text.exists_of_not_mem_dropLast h
  · rw [Text.withoutReturns_of_not_mem ht]
  · rw [Text.withoutReturns_append_return ht, macro?_append_return ht]

/-- **What a line does**, seen from what the line without its return does. -/
theorem processLine_withoutReturns (tbl : Table) (n : Int) :
    (tbl.processLine line n).table = (tbl.processLine (Text.withoutReturns line) n).table ∧
      (∀ out, (tbl.processLine (Text.withoutReturns line) n).result = .ok out →
        (tbl.processLine line n).result = .ok (out.map (· ++ Text.ending line))) ∧
      ∀ e, (tbl.processLine (Text.withoutReturns line) n).result = .error e →
        (tbl.processLine line n).result = .error (e.movedBy (Definition.delay line)) := by
  obtain ⟨out, hout⟩ | ⟨e, he⟩ := tbl.handles_or_refuses n (Text.withoutReturns line)
  · obtain ⟨hresult, htable⟩ := hout.processLine
    obtain ⟨hresult', htable'⟩ := (hout.of_withoutReturns h).processLine
    rw [hresult, hresult', htable, htable', macro?_withoutReturns h]
    refine ⟨rfl, ?_, nofun⟩
    rintro out' heq
    cases heq
    rfl
  · obtain ⟨hresult, htable⟩ := he.processLine
    obtain ⟨hresult', htable'⟩ := (he.of_withoutReturns h).processLine
    rw [hresult, hresult', htable, htable']
    refine ⟨rfl, nofun, ?_⟩
    rintro e' heq
    cases heq
    rfl

end

/-! ## Any number of lines -/

/-- The outputs of lines with the returns that the lines end in. -/
def withEndings (lines : List Text) (outs : List (Option Text)) : List (Option Text) :=
  List.zipWith (fun line out => out.map (· ++ Text.ending line)) lines outs

section

variable (h : ∀ line ∈ lines, '\r' ∉ line.dropLast)

include h

/-- **The same macros are defined**, on success and on failure. -/
theorem processLines_table_withoutReturns :
    (tbl.processLines n lines).table =
      (tbl.processLines n (lines.map Text.withoutReturns)).table := by
  induction lines generalizing tbl n with
  | nil => rfl
  | cons line lines ih =>
    obtain ⟨htable, hok, herror⟩ := processLine_withoutReturns (h line List.mem_cons_self) tbl n
    have hlines : ∀ l ∈ lines, '\r' ∉ l.dropLast := fun l hl => h l (List.mem_cons_of_mem line hl)
    rw [List.map_cons]
    cases hline : (tbl.processLine (Text.withoutReturns line) n).result with
    | error e =>
      rw [processLines_cons_of_error hline, processLines_cons_of_error (herror e hline)]
      exact htable
    | ok out =>
      rw [processLines_cons_of_ok hline, processLines_cons_of_ok (hok out hline), htable]
      exact ih hlines

/-- **Every output has the return of its line.** -/
theorem Outputs.of_withoutReturns (houts : Outputs tbl n (lines.map Text.withoutReturns) outs) :
    Outputs tbl n lines (withEndings lines outs) := by
  induction lines generalizing tbl n outs with
  | nil =>
    cases houts
    exact .nil
  | cons line lines ih =>
    obtain ⟨htable, hok, -⟩ := processLine_withoutReturns (h line List.mem_cons_self) tbl n
    cases houts with
    | cons hline hrest =>
      rw [← htable] at hrest
      exact .cons (hok _ hline) (ih (fun l hl => h l (List.mem_cons_of_mem line hl)) hrest)

/-- **The same line fails**, for the same cause. -/
theorem processLines_eq_error_of_withoutReturns
    (herr : (tbl.processLines n (lines.map Text.withoutReturns)).result = .error e) :
    ∃ above line below, lines = above ++ line :: below ∧ e.line = n + above.length ∧
      (tbl.processLines n lines).result = .error (e.movedBy (Definition.delay line)) := by
  induction lines generalizing tbl n with
  | nil => cases herr
  | cons line lines ih =>
    obtain ⟨htable, hok, herror⟩ := processLine_withoutReturns (h line List.mem_cons_self) tbl n
    have hlines : ∀ l ∈ lines, '\r' ∉ l.dropLast := fun l hl => h l (List.mem_cons_of_mem line hl)
    rw [List.map_cons] at herr
    cases hline : (tbl.processLine (Text.withoutReturns line) n).result with
    | error e' =>
      rw [processLines_cons_of_error hline] at herr
      cases herr
      obtain ⟨e', -, rfl⟩ := refuses_of_processLine_eq_error hline
      refine ⟨[], line, lines, rfl, (Int.add_zero n).symm, ?_⟩
      rw [processLines_cons_of_error (herror _ hline)]
    | ok out =>
      rw [processLines_cons_of_ok hline, ← htable] at herr
      obtain ⟨above, bad, below, rfl, hnumber, hbad⟩ := ih hlines (Failure.map_eq_error_iff.1 herr)
      refine ⟨line :: above, bad, below, rfl, ?_, ?_⟩
      · rw [hnumber, number_cons]
      · rw [processLines_cons_of_ok (hok out hline)]
        exact Failure.map_eq_error_iff.2 hbad

end

/-! ## The document -/

/-- **Carriage returns at the ends of lines do not count.** Let a document have
carriage returns at the ends of lines only. From any table it is processed like
the document without them: both succeed or both fail, and the same table is
left. On success each output of a line is the one without returns, followed by
the return that the line ends in. On failure the same line fails for the same
cause, and at the same column but for a definition line without a name. -/
theorem process_withoutReturns (tbl : Table) {document : Text}
    (h : Text.ReturnsEndLines document) :
    let plain := Text.withoutReturns document
    (tbl.process document).table = (tbl.process plain).table ∧
      ((∃ out, (tbl.process document).result = .ok out) ↔
        ∃ out, (tbl.process plain).result = .ok out) ∧
      (∀ out, (tbl.process plain).result = .ok out →
        ∃ outs, Outputs tbl 1 (Text.lines plain) outs ∧
          out = Text.joinLines (outs.filterMap id) ∧
            Outputs tbl 1 (Text.lines document) (withEndings (Text.lines document) outs) ∧
              (tbl.process document).result =
                .ok (Text.joinLines ((withEndings (Text.lines document) outs).filterMap id))) ∧
      ∀ e, (tbl.process plain).result = .error e →
        ∃ above line below, Text.lines document = above ++ line :: below ∧
          e.line = above.length + 1 ∧
            (tbl.process document).result =
              .error { e with column := e.column + Definition.delay line } := by
  intro plain
  have hplain : Text.lines plain = (Text.lines document).map Text.withoutReturns :=
    Text.lines_withoutReturns document
  have hok : ∀ outs, Outputs tbl 1 (Text.lines plain) outs →
      Outputs tbl 1 (Text.lines document) (withEndings (Text.lines document) outs) := by
    intro outs houts
    rw [hplain] at houts
    exact houts.of_withoutReturns h
  have herror : ∀ e, (tbl.process plain).result = .error e →
      ∃ above line below, Text.lines document = above ++ line :: below ∧
        e.line = above.length + 1 ∧
          (tbl.process document).result =
            .error { e with column := e.column + Definition.delay line } := by
    intro e he
    rw [process, Failure.map_eq_error_iff, hplain] at he
    obtain ⟨above, line, below, hlines, hnumber, hline⟩ :=
      processLines_eq_error_of_withoutReturns h he
    refine ⟨above, line, below, hlines, ?_, ?_⟩
    · rw [hnumber, Int.add_comm]
    · rw [process, Failure.map_eq_error_iff]
      exact hline
  refine ⟨?_, ⟨?_, ?_⟩, ?_, herror⟩
  · rw [process, process, hplain]
    exact processLines_table_withoutReturns h
  · rintro ⟨out, hout⟩
    cases hresult : (tbl.process plain).result with
    | ok out' => exact ⟨out', rfl⟩
    | error e =>
      -- then the document with returns would fail as well
      obtain ⟨_, _, _, -, -, hfails⟩ := herror e hresult
      rw [hout] at hfails
      cases hfails
  · rintro ⟨out, hout⟩
    obtain ⟨outs, houts, -⟩ := process_eq_ok_iff.1 hout
    exact ⟨_, process_eq_ok_iff.2 ⟨_, hok outs houts, rfl⟩⟩
  · intro out hout
    obtain ⟨outs, houts, rfl⟩ := process_eq_ok_iff.1 hout
    exact ⟨outs, houts, rfl, hok outs houts, process_eq_ok_iff.2 ⟨_, hok outs houts, rfl⟩⟩

/-- Returns end a body with a backslash, a macro that is not called and the
definition line that fails, and one line of the four has none. -/
theorem process_withoutReturns_nameless :
    let tbl : Table := { entries := [{ name := ['k'], body := ['v'] }] }
    let document := "#define f(x) <x>\\\r\nf(k) f\r\nk f\n#define \r".toList
    let e : Failure := { line := 4, column := 9, fault := .invalidName }
    Text.ReturnsEndLines document ∧
      (tbl.process (Text.withoutReturns document)).result = .error e ∧
        ∃ above line below, Text.lines document = above ++ line :: below ∧
          e.line = above.length + 1 ∧
            (tbl.process document).result =
              .error { e with column := e.column + Definition.delay line } := by
  have hreturns : Text.ReturnsEndLines
      "#define f(x) <x>\\\r\nf(k) f\r\nk f\n#define \r".toList := by
    unfold Text.ReturnsEndLines
    decide
  have herr : (({ entries := [{ name := ['k'], body := ['v'] }] } : Table).process
      (Text.withoutReturns "#define f(x) <x>\\\r\nf(k) f\r\nk f\n#define \r".toList)).result =
        .error { line := 4, column := 9, fault := .invalidName } := by decide +kernel
  exact ⟨hreturns, herr, (process_withoutReturns _ hreturns).2.2.2 _ herr⟩

end Table

end LineMacro
