import LineMacro.Proofs.Document.LastDefinition
/-!
# Sessions — steps that fail

A session keeps one table through lines and documents, and goes on after any of
them has failed. A line that fails changes nothing, and a document that fails
has changed what the lines above the failing one change by themselves
(`Step.after_completed`). So a session stands where it would stand if only what
was completed had been processed, and what comes later goes by that table alone
(`session_of_failures`).
-/

namespace LineMacro

/-- The table after steps, whether or not some of them failed. -/
def Table.after (tbl : Table) : List Step → Table
  | [] => tbl
  | s :: rest => (s.process tbl).table.after rest

namespace Step

/-- Lines as steps of their own, numbered from `n` on. -/
def ofLines (n : Int) : List Text → List Step
  | [] => []
  | text :: rest => .line text n :: ofLines (n + 1) rest

/-- What a step completes: all of it, or the lines above the one at which it
fails. -/
def completed (tbl : Table) : Step → List Step
  | .line text n =>
    match (tbl.processLine text n).result with
    | .ok _ => [.line text n]
    | .error _ => []
  | .document text =>
    match (tbl.process text).result with
    | .ok _ => [.document text]
    | .error e => ofLines 1 ((Text.lines text).take (e.line - 1).toNat)

end Step

/-- What the steps of a session complete, one after another. -/
def settled (tbl : Table) : List Step → List Step
  | [] => []
  | s :: rest => s.completed tbl ++ settled (s.process tbl).table rest

variable {tbl : Table} {line : Text} {lines outs : List Text} {n : Int} {s : Step}
variable {steps later : List Step}

/-! ## Sessions in parts -/

namespace Table

theorem after_append (tbl : Table) (steps later : List Step) :
    tbl.after (steps ++ later) = (tbl.after steps).after later := by
  induction steps generalizing tbl with
  | nil => rfl
  | cons s steps ih => exact ih (s.process tbl).table

end Table

/-- **Later steps go by the table alone.** -/
theorem session_append (tbl : Table) (steps later : List Step) :
    session tbl (steps ++ later) = session tbl steps ++ session (tbl.after steps) later := by
  induction steps generalizing tbl with
  | nil => rfl
  | cons s steps ih => exact congrArg (s.process tbl :: ·) (ih (s.process tbl).table)

/-! ## One line -/

namespace Table

theorem processLine_table_of_error {e : Failure}
    (h : (tbl.processLine line n).result = .error e) : (tbl.processLine line n).table = tbl := by
  obtain ⟨e', hrefuses, -⟩ := refuses_of_processLine_eq_error h
  exact hrefuses.processLine.2

/-- A line that is no definition leaves the table alone. -/
theorem processLine_table_of_text (h : Definition.isDefinition line = false) (n : Int) :
    (tbl.processLine line n).table = tbl := by
  obtain ⟨out, hhandles⟩ | ⟨e, hrefuses⟩ := tbl.handles_or_refuses n line
  · rw [hhandles.processLine.2, Definition.macro?_eq_none_of_text h]
    rfl
  · exact hrefuses.processLine.2

/-- **A definition changes one entry**, and no other, nor their order. -/
theorem exists_of_processLine_eq_ok {out : Option Text}
    (hdef : Definition.isDefinition line = true) (h : (tbl.processLine line n).result = .ok out) :
    ∃ m, Definition.read line n = .ok m ∧ (tbl.processLine line n).table.find? m.name = some m ∧
      (tbl.processLine line n).table.predeclared = tbl.predeclared ∧
        Keyed.erase Macro.name m.name (tbl.processLine line n).table.entries =
          Keyed.erase Macro.name m.name tbl.entries := by
  cases handles_of_processLine_eq_ok h with
  | text htext =>
    rw [hdef] at htext
    cases htext
  | @definition m _ hread =>
    have htable : (tbl.processLine line n).table = tbl.define m := by
      rw [processLine_table_of_ok h, Definition.macro?, if_pos hdef, hread]
      rfl
    rw [htable]
    refine ⟨m, hread, ?_, rfl, Keyed.erase_put m tbl.entries⟩
    rw [find?_define, if_pos rfl]

/-! ## Lines one by one -/

/-- Lines that are handled one by one leave what they leave together. -/
theorem after_ofLines (h : (tbl.processLines n lines).result = .ok outs) :
    tbl.after (Step.ofLines n lines) = (tbl.processLines n lines).table := by
  induction lines generalizing tbl n outs with
  | nil => rfl
  | cons line lines ih =>
    obtain ⟨out, rest, hline, hrest, -⟩ := exists_of_processLines_cons_eq_ok h
    rw [processLines_cons_of_ok hline]
    exact ih hrest

theorem isOk_of_mem_session_ofLines (h : (tbl.processLines n lines).result = .ok outs) :
    ∀ o ∈ session tbl (Step.ofLines n lines), o.result.isOk = true := by
  induction lines generalizing tbl n outs with
  | nil => exact fun o ho => absurd ho List.not_mem_nil
  | cons line lines ih =>
    obtain ⟨out, rest, hline, hrest, -⟩ := exists_of_processLines_cons_eq_ok h
    have hstep : (Step.process tbl (.line line n)).result.isOk = true := by
      rw [Step.process, hline]
      rfl
    exact List.forall_mem_cons.2 ⟨hstep, ih hrest⟩

/-- **A document that fails** does so at one of its lines. Those above it are
handled, one by one as well as together, and leave its table. -/
theorem exists_of_process_eq_error {document : Text} {e : Failure}
    (h : (tbl.process document).result = .error e) :
    ∃ k : Nat, e.line = k + 1 ∧ k < (Text.lines document).length ∧
      (∀ o ∈ session tbl (Step.ofLines 1 ((Text.lines document).take k)), o.result.isOk = true) ∧
        (tbl.process document).table =
          tbl.after (Step.ofLines 1 ((Text.lines document).take k)) := by
  obtain ⟨above, line, below, outs, hlines, habove, hline⟩ :=
    exists_of_processLines_eq_error (Failure.map_eq_error_iff.1 h)
  obtain ⟨e', -, rfl⟩ := refuses_of_processLine_eq_error hline
  have htake : (Text.lines document).take above.length = above := by rw [hlines, List.take_left]
  refine ⟨above.length, Int.add_comm _ _, ?_, ?_, ?_⟩
  · rw [hlines, List.length_append, List.length_cons]
    omega
  · rw [htake]
    exact isOk_of_mem_session_ofLines habove
  · rw [htake, after_ofLines habove, process, hlines]
    exact processLines_append_table habove hline below

end Table

/-! ## One step -/

namespace Step

/-- What a step does not fail at it completes as a whole. -/
theorem completed_of_ok {out : Option Text} (h : (s.process tbl).result = .ok out) :
    s.completed tbl = [s] := by
  cases s with
  | line text n =>
    have hline : (tbl.processLine text n).result = .ok out := h
    rw [completed, hline]
  | document text =>
    obtain ⟨text', hdocument, -⟩ := Failure.map_eq_ok_iff.1 h
    rw [completed, hdocument]

/-- **What a step completes** does not fail by itself, and leaves the table that
the step leaves. -/
theorem after_completed (tbl : Table) (s : Step) :
    tbl.after (s.completed tbl) = (s.process tbl).table ∧
      ∀ o ∈ session tbl (s.completed tbl), o.result.isOk = true := by
  cases hresult : (s.process tbl).result with
  | ok out =>
    rw [completed_of_ok hresult]
    refine ⟨rfl, fun o ho => ?_⟩
    obtain rfl := List.mem_singleton.1 ho
    rw [hresult]
    rfl
  | error e =>
    cases s with
    | line text n =>
      have hline : (tbl.processLine text n).result = .error e := hresult
      rw [completed, hline]
      exact ⟨(Table.processLine_table_of_error hline).symm, fun o ho => absurd ho List.not_mem_nil⟩
    | document text =>
      have hdocument := Failure.map_eq_error_iff.1 hresult
      obtain ⟨k, hnumber, -, hok, htable⟩ := Table.exists_of_process_eq_error hdocument
      have hk : (e.line - 1).toNat = k := by omega
      simp only [completed, hdocument, hk]
      exact ⟨htable.symm, hok⟩

end Step

/-! ## A whole session -/

/-- **The session stands where it would stand** if only what it completed had
been processed. -/
theorem after_settled (tbl : Table) (steps : List Step) :
    tbl.after (settled tbl steps) = tbl.after steps := by
  induction steps generalizing tbl with
  | nil => rfl
  | cons s steps ih =>
    rw [settled, Table.after_append, (Step.after_completed tbl s).1, ih]
    rfl

theorem isOk_of_mem_session_settled (tbl : Table) (steps : List Step) :
    ∀ o ∈ session tbl (settled tbl steps), o.result.isOk = true := by
  induction steps generalizing tbl with
  | nil => exact fun o ho => absurd ho List.not_mem_nil
  | cons s steps ih =>
    obtain ⟨hafter, hok⟩ := Step.after_completed tbl s
    intro o ho
    rw [settled, session_append, hafter, List.mem_append] at ho
    exact ho.elim (hok o) (ih _ o)

/-- **The steps that succeed give the same** without those that fail. -/
theorem filter_session_sublist (tbl : Table) (steps : List Step) :
    ((session tbl steps).filter fun o => o.result.isOk).Sublist
      (session tbl (settled tbl steps)) := by
  induction steps generalizing tbl with
  | nil => exact List.Sublist.refl []
  | cons s steps ih =>
    rw [settled, session_append, (Step.after_completed tbl s).1, session]
    cases hresult : (s.process tbl).result with
    | ok out =>
      rw [Step.completed_of_ok hresult, List.filter_cons_of_pos (by rw [hresult]; rfl)]
      exact (ih _).cons_cons _
    | error e =>
      rw [List.filter_cons_of_neg (by rw [hresult]; exact Bool.false_ne_true)]
      exact (ih _).trans (List.sublist_append_right _ _)

/-- **A failure leaves what was completed.** Wherever a session has got to, a
line that fails leaves the table as it is, and so does any line that is no
definition. A definition changes the entry of its own name only. A document that
fails leaves the table that the lines above the failing one leave when they are
processed one by one. So far as the steps that have succeeded are concerned, and
whatever comes later, the session might have consisted of what it completed
alone, in which nothing fails. -/
theorem session_of_failures (tbl : Table) (steps : List Step) :
    let t := tbl.after steps
    (∀ line n e, (t.processLine line n).result = .error e → (t.processLine line n).table = t) ∧
    (∀ line n, Definition.isDefinition line = false → (t.processLine line n).table = t) ∧
    (∀ line n out, Definition.isDefinition line = true →
      (t.processLine line n).result = .ok out →
        ∃ m, Definition.read line n = .ok m ∧ (t.processLine line n).table.find? m.name = some m ∧
          (t.processLine line n).table.predeclared = t.predeclared ∧
            Keyed.erase Macro.name m.name (t.processLine line n).table.entries =
              Keyed.erase Macro.name m.name t.entries) ∧
    (∀ document e, (t.process document).result = .error e →
      ∃ k : Nat, e.line = k + 1 ∧ k < (Text.lines document).length ∧
        (∀ o ∈ session t (Step.ofLines 1 ((Text.lines document).take k)), o.result.isOk = true) ∧
          (t.process document).table = t.after (Step.ofLines 1 ((Text.lines document).take k))) ∧
    (∀ o ∈ session tbl (settled tbl steps), o.result.isOk = true) ∧
    ((session tbl steps).filter fun o => o.result.isOk).Sublist
      (session tbl (settled tbl steps)) ∧
    ∀ later, session tbl (steps ++ later) = session tbl steps ++ session t later ∧
      session tbl (settled tbl steps ++ later) =
        session tbl (settled tbl steps) ++ session t later := by
  refine ⟨fun line n e => Table.processLine_table_of_error,
    fun line n h => Table.processLine_table_of_text h n,
    fun line n out => Table.exists_of_processLine_eq_ok,
    fun document e => Table.exists_of_process_eq_error, isOk_of_mem_session_settled tbl steps,
    filter_session_sublist tbl steps, fun later => ⟨session_append tbl steps later, ?_⟩⟩
  rw [session_append, after_settled]

/-- A document fails below its definition of a call, and then a line. The call
is there for a second document, which redefines the seeded macro before it fails
as well. -/
theorem session_of_failures_twice :
    let tbl : Table := { entries := [{ name := ['k'], body := ['v'] }] }
    let steps := [Step.document "#define f(x) <x>\nf(k) f(\n#define f w".toList,
      Step.line "#define _ w".toList 7]
    let t := tbl.after steps
    let document := "#define k u\nf(k)\n#define k(".toList
    let e : Failure := { line := 3, column := 10, fault := .unclosedParameters ['k'] }
    (t.process document).result = .error e ∧
      (∃ k : Nat, e.line = k + 1 ∧ k < (Text.lines document).length ∧
        (∀ o ∈ session t (Step.ofLines 1 ((Text.lines document).take k)), o.result.isOk = true) ∧
          (t.process document).table = t.after (Step.ofLines 1 ((Text.lines document).take k))) ∧
        (t.processLine "#define k u".toList 1).result = .ok none ∧
          (∃ m, Definition.read "#define k u".toList 1 = .ok m ∧
            Keyed.erase Macro.name m.name (t.processLine "#define k u".toList 1).table.entries =
              Keyed.erase Macro.name m.name t.entries) ∧
            (t.processLine "f(".toList 1).result =
                .error { line := 1, column := 1, fault := .unclosedArguments ['f'] } ∧
              (t.processLine "f(".toList 1).table = t := by
  have hfails : ((({ entries := [{ name := ['k'], body := ['v'] }] } : Table).after
      [Step.document "#define f(x) <x>\nf(k) f(\n#define f w".toList,
        Step.line "#define _ w".toList 7]).process "#define k u\nf(k)\n#define k(".toList).result =
          .error { line := 3, column := 10, fault := .unclosedParameters ['k'] } := by
    decide +kernel
  have hdefines : ((({ entries := [{ name := ['k'], body := ['v'] }] } : Table).after
      [Step.document "#define f(x) <x>\nf(k) f(\n#define f w".toList,
        Step.line "#define _ w".toList 7]).processLine "#define k u".toList 1).result =
          .ok none := by decide +kernel
  have hopen : ((({ entries := [{ name := ['k'], body := ['v'] }] } : Table).after
      [Step.document "#define f(x) <x>\nf(k) f(\n#define f w".toList,
        Step.line "#define _ w".toList 7]).processLine "f(".toList 1).result =
          .error { line := 1, column := 1, fault := .unclosedArguments ['f'] } := by decide +kernel
  obtain ⟨herror, -, hdefinition, hdocument, -⟩ := session_of_failures
    { entries := [{ name := ['k'], body := ['v'] }] }
    [Step.document "#define f(x) <x>\nf(k) f(\n#define f w".toList,
      Step.line "#define _ w".toList 7]
  obtain ⟨m, hread, -, -, hothers⟩ := hdefinition _ _ _ (by decide) hdefines
  exact ⟨hfails, hdocument _ _ hfails, hdefines, ⟨m, hread, hothers⟩, hopen, herror _ _ _ hopen⟩

end LineMacro
