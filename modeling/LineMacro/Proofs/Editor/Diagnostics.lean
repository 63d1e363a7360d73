import LineMacro.Editor
import LineMacro.Proofs.Document.PointsInto
/-!
# Editor answers — where a failure is shown

The editor underlines the failure of a document where it points
(`diagnostics_of_process`). The failure names a line and a column of the document,
so the bounds that keep a position from running below zero are never needed, and
the stretch shown reaches from the column to the end of its line, or over one
place behind the line where the line has ended already.
-/

namespace LineMacro

namespace Editor

variable {document line : Text} {e : Failure}

/-- The diagnostic shows the failure where it points, on a line of the
document. -/
structure Diagnostic.Shows (d : Diagnostic) (e : Failure) (document line : Text) : Prop where
  message : d.message = e.message
  /-- It is an error, and it is told who says so. -/
  severity : d.severity = .error
  source : d.source = "prepr".toList
  line_eq : d.line = e.line - 1
  start_eq : d.span.start = e.column - 1
  line_nonneg : 0 ≤ d.line
  line_lt : d.line < (Text.lines document).length
  text_eq : (Text.lines document)[d.line.toNat]? = some line
  start_nonneg : 0 ≤ d.span.start
  start_le : d.span.start ≤ line.length
  start_lt_stop : d.span.start < d.span.stop
  /-- It reaches to the end of the line, or one place further if it starts
  there. -/
  stop_eq : d.span.stop =
    if d.span.start = line.length then (line.length : Int) + 1 else line.length

/-- **What is shown for a failure that points into the document.** Its position
is that of the failure, counted from 0. -/
theorem diagnose_eq (h : e.PointsInto document line) :
    diagnose (Text.lines document) e =
      { line := e.line - 1
        span := ⟨e.column - 1, max (line.length : Int) e.column⟩
        message := e.message
        severity := .error
        source := diagnosticSource } := by
  have hline := h.one_le_line
  have hcolumn := h.one_le_column
  have hmaxLine : max (e.line - 1) 0 = e.line - 1 := by omega
  have hmaxColumn : max (e.column - 1) 0 = e.column - 1 := by omega
  rw [diagnose, hmaxLine, hmaxColumn, h.line_eq, Option.getD_some, Int.sub_add_cancel]

theorem shows_diagnose (h : e.PointsInto document line) :
    (diagnose (Text.lines document) e).Shows e document line := by
  have hline := h.one_le_line
  have hlast := h.line_le
  have hcolumn := h.one_le_column
  have hinside := h.column_le
  rw [diagnose_eq h]
  constructor <;> dsimp only
  case source => rfl
  case line_nonneg => omega
  case line_lt => omega
  case text_eq => exact h.line_eq
  case start_nonneg => omega
  case start_le => omega
  case start_lt_stop => omega
  case stop_eq => split <;> omega

/-- **The editor shows the failure of a document, and shows it in place.** There
is nothing to show exactly if the document can be processed. Otherwise there is
one item, with the message of the failure, and it stands where the failure points,
on a line of the document and within it. -/
theorem diagnostics_of_process (document : Text) :
    (diagnostics document = [] ↔
      ∃ out, (({} : Table).process document).result = .ok out) ∧
    ∀ e, (({} : Table).process document).result = .error e →
      ∃ d line, diagnostics document = [d] ∧ d.Shows e document line := by
  -- a run with nothing predeclared and nothing seeded processes the document from no macros
  have hrun : (run document [] []).result = (({} : Table).process document).result := rfl
  rw [diagnostics, hrun]
  cases hresult : (({} : Table).process document).result with
  | ok out => exact ⟨⟨fun _ => ⟨out, rfl⟩, fun _ => rfl⟩, nofun⟩
  | error e =>
    refine ⟨⟨nofun, fun ⟨out, hout⟩ => nomatch hout⟩, fun e' he => ?_⟩
    obtain rfl : e = e' := Except.error.inj he
    obtain ⟨line, hpoints⟩ := exists_pointsInto (by simp) (hrun.trans hresult)
    exact ⟨_, line, rfl, shows_diagnose hpoints⟩

/-- A definition without a name, below a line that is expanded. Its line has ended
where the name is missing, so what is shown lies behind the line. -/
theorem diagnostics_of_process_nameless :
    let document := "#define f(x) <x>\nf(1)\n#define \n".toList
    let e : Failure := { line := 3, column := 9, fault := .invalidName }
    (({} : Table).process document).result = .error e ∧
      ∃ d, diagnostics document = [d] ∧ d.Shows e document "#define ".toList ∧
        d.span = ⟨8, 9⟩ := by
  have herr : (({} : Table).process "#define f(x) <x>\nf(1)\n#define \n".toList).result =
      .error { line := 3, column := 9, fault := .invalidName } := by decide +kernel
  have hat : (Text.lines "#define f(x) <x>\nf(1)\n#define \n".toList)[2]? =
      some "#define ".toList := by decide
  obtain ⟨d, line, hone, hshows⟩ :=
    (diagnostics_of_process "#define f(x) <x>\nf(1)\n#define \n".toList).2 _ herr
  have hline := hshows.text_eq
  rw [hshows.line_eq] at hline
  obtain rfl : "#define ".toList = line := Option.some.inj (hat.symm.trans hline)
  have hstop := hshows.stop_eq
  rw [hshows.start_eq] at hstop
  exact ⟨herr, d, hone, hshows, congrArg₂ Span.mk hshows.start_eq hstop⟩

end Editor

end LineMacro
