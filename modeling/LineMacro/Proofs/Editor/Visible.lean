import LineMacro.Editor
import LineMacro.Proofs.Document.Failure
import LineMacro.Proofs.Document.LastDefinition
/-!
# Editor answers — the macros that a line can use

The editor replays the definition lines above a line and passes over those that
fail, while a run handles every line and ends at the first failure. Up to there
both have the same table (`visibleAt_eq_processAbove`): text lines define
nothing, and a line that fails changes nothing. Further down the editor goes on,
and of every name still shows the last definition that could be read.
-/

namespace LineMacro

/-- The line at which the run of a document by itself stops: the one that fails,
or the one after the last. -/
def stopLine (document : Text) : Int :=
  match (run document [] []).result with
  | .ok _ => (Text.lines document).length + 1
  | .error e => e.line

namespace Editor

/-! ## Replaying -/

theorem replay_eq_defineAll (tbl : Table) (line : Text) (n : Int) :
    replay tbl line n = tbl.defineAll (Definition.macro? line n).toList := by
  rw [replay, Definition.macro?]
  split
  · cases Definition.read line n <;> rfl
  · rfl

/-- **Replaying installs what the lines define.** -/
theorem replayAll_eq_defineAll (tbl : Table) (n : Int) (lines : List Text) :
    replayAll tbl n lines = tbl.defineAll (Definition.macros n lines) := by
  induction lines generalizing tbl n with
  | nil => rfl
  | cons line lines ih =>
    rw [replayAll, ih, Definition.macros, Table.defineAll_append, replay_eq_defineAll]

theorem visibleAt_natCast (document : Text) (k : Nat) :
    visibleAt document k =
      ({} : Table).defineAll (Definition.macros 1 ((Text.lines document).take k)) := by
  rw [visibleAt, Position.upTo_natCast, replayAll_eq_defineAll]

/-! ## The run up to where it stops -/

/-- The lines above the place where a run stops are handled, and the run ends
with the table that they leave. -/
theorem exists_of_stopLine (document : Text) :
    ∃ above below first, Text.lines document = above ++ below ∧
      stopLine document = above.length + 1 ∧ (processAbove [] [] above).result = .ok first ∧
        (run document [] []).table = (processAbove [] [] above).table := by
  have hnames : ∀ d ∈ ([] : List (Text × Text)), isName d.1 = true := by simp
  rw [stopLine, run_result hnames, run_table hnames, ← processAbove]
  cases hresult : (processAbove [] [] (Text.lines document)).result with
  | ok first => exact ⟨Text.lines document, [], first, (List.append_nil _).symm, rfl, hresult, rfl⟩
  | error e =>
    obtain ⟨above, line, below, first, hlines, habove, hline⟩ :=
      Table.exists_of_processLines_eq_error hresult
    have htable := Table.processLines_append_table habove hline below
    obtain ⟨e', -, rfl⟩ := Table.refuses_of_processLine_eq_error hline
    refine ⟨above, line :: below, first, hlines, Int.add_comm _ _, habove, ?_⟩
    rw [hlines]
    exact htable

/-- **The editor and a run agree**, as far as the run goes. At every line up to
the one where the run of the document stops, the editor shows the table that the
lines above it leave in a run, and what the run ends with is shown at that line.
At any line, also further down, the editor has of each name the last definition
above the line that can be read, and lists the names in the order of their first
ones. -/
theorem visibleAt_eq_processAbove (document : Text) :
    (∀ k : Nat, (k : Int) ≤ stopLine document - 1 →
      (∃ outs, (processAbove [] [] ((Text.lines document).take k)).result = .ok outs) ∧
        visibleAt document k = (processAbove [] [] ((Text.lines document).take k)).table) ∧
    visibleAt document (stopLine document - 1) = (run document [] []).table ∧
    ∀ k : Nat, (visibleAt document k).predeclared = [] ∧
      (∀ name m, (visibleAt document k).find? name = some m ↔
        Definition.LastOf name ((Text.lines document).take k) m) ∧
      (visibleAt document k).entries.map Macro.name =
        ((Definition.macros 1 ((Text.lines document).take k)).map Macro.name).eraseDups := by
  obtain ⟨above, below, first, hlines, hstop, habove, htable⟩ := exists_of_stopLine document
  have hshown : ∀ k : Nat, (k : Int) ≤ stopLine document - 1 →
      (∃ outs, (processAbove [] [] ((Text.lines document).take k)).result = .ok outs) ∧
        visibleAt document k = (processAbove [] [] ((Text.lines document).take k)).table := by
    intro k hk
    have hle : k ≤ above.length := by omega
    have htake : (Text.lines document).take k = above.take k := by
      rw [hlines, List.take_append_of_le_length hle]
    rw [← List.take_append_drop k above] at habove
    obtain ⟨outs, houts⟩ := Table.exists_of_processLines_append_eq_ok habove
    rw [visibleAt_natCast, htake]
    exact ⟨⟨outs, houts⟩, (Table.processLines_table houts).symm⟩
  refine ⟨hshown, ?_, fun k => ?_⟩
  · have hlast : stopLine document - 1 = (above.length : Nat) := by omega
    obtain ⟨-, hvisible⟩ := hshown above.length (by omega)
    rw [hlast, hvisible, htable, hlines, List.take_left]
  · rw [visibleAt_natCast]
    refine ⟨Table.defineAll_predeclared _ _, fun name m => ?_, Table.names_defineAll [] _⟩
    have hnone : ({} : Table).find? name = none := rfl
    rw [Table.find?_defineAll, hnone, Option.or_none, Definition.last?_macros_eq_some_iff]

/-- The run stops at the fourth line, below a macro that was redefined with a
parameter. The editor goes on and finds the definition on the fifth. -/
theorem visibleAt_eq_processAbove_redefined :
    let document := "#define k v\nk k(1)\n#define k(x) x\n#define _ w\n#define k u".toList
    (3 : Nat) ≤ stopLine document - 1 ∧
      visibleAt document 3 = (processAbove [] [] ((Text.lines document).take 3)).table ∧
        visibleAt document 3 = (run document [] []).table ∧
          Definition.LastOf ['k'] ((Text.lines document).take 5)
            { name := ['k'], body := ['u'], line := 5 } := by
  have hstop : stopLine
      "#define k v\nk k(1)\n#define k(x) x\n#define _ w\n#define k u".toList = 4 := by
    decide +kernel
  have hfind : (visibleAt "#define k v\nk k(1)\n#define k(x) x\n#define _ w\n#define k u".toList
      (5 : Nat)).find? ['k'] = some { name := ['k'], body := ['u'], line := 5 } := by
    decide +kernel
  obtain ⟨hshown, hrun, hlast⟩ := visibleAt_eq_processAbove
    "#define k v\nk k(1)\n#define k(x) x\n#define _ w\n#define k u".toList
  rw [hstop] at hshown hrun
  dsimp only
  rw [hstop]
  exact ⟨by decide, (hshown 3 (by decide)).2, hrun, ((hlast 5).2.1 _ _).1 hfind⟩

end Editor

end LineMacro
