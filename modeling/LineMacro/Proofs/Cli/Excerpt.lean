import LineMacro.Proofs.Cli.Settings
import LineMacro.Proofs.Report.Caret
import LineMacro.Proofs.Report.Header
import LineMacro.Proofs.Report.Wrapping
/-!
# Command line — failures are shown with an excerpt

A job is made of names (`isName_of_plan`), so seeding them cannot fail, and what
fails is a line of the source. The failure then points into the source, and its
report never has to leave a part out (`failure_of_plan`): the header tells the place
and the message, there is a line to show, there is a column to point at, and the caret
stands below a character of the line or just behind the last one. What is printed of
it (`Failure.ShownInFull`) is told twice: where there is room for each part it is three
lines, and where a part takes several lines it is still every character of the three
that can be seen.
-/

namespace LineMacro

variable {e : Failure} {source line path : Text}

namespace Failure

open Report in
/-- The report of the failure has all of its parts, and they are printed. -/
structure ShownInFull (e : Failure) (path source line : Text) : Prop where
  /-- The header, the line that the failure names, and the caret, one below the
  other. -/
  report_eq : failure e path source =
    display (header e.message e.toPlace path) ++ display (sourceLine line) ++
      display (caretLine e.column)
  /-- The place in the header has three parts. -/
  locate_eq : e.locate path =
    [':'].intercalate [path, Text.decimal e.line, Text.decimal e.column]
  /-- The header is the place, and the message as it is. -/
  header_eq : header e.message e.toPlace path =
    embedded (shown (e.locate path) ++ [':']) ++ (" error: ".toList ++ e.message)
  /-- A path that means nothing to the terminal is in the header as it is, and so are
  the numbers, unless the line spells a code. -/
  header_eq_of_plain : path.all isPlain = true →
    header e.message e.toPlace path = headerWith (lineMark e.line) e path
  /-- The line is set in by two. -/
  sourceLine_eq : sourceLine line = ' ' :: ' ' :: verbatim line
  /-- Only where there are colons can it have codes. -/
  verbatim_eq : ':' ∉ line → verbatim line = line.filter fun c => !movesCursor c
  /-- The caret is set in by the characters before the column, and these are
  characters of the line. -/
  caretLine_eq : ∃ k ≤ line.length, e.column = k + 1 ∧
    caretLine e.column = ' ' :: ' ' :: (List.replicate k ' ' ++ ['^'])
  /-- Nothing keeps the caret from being set where there is room for the line. -/
  caretTrouble?_eq : ∀ room : Int, line.length < room → line.length < countLimit →
    caretTrouble? room e.toPlace source = none
  /-- Whatever can be seen of the three parts is printed, on however many lines. -/
  withoutBlanks_eq : SteadyLines (header e.message e.toPlace path) →
    SteadyLines (sourceLine line) →
      Text.withoutBlanks (failure e path source) =
        Text.withoutBlanks (header e.message e.toPlace path) ++
          Text.withoutBlanks (verbatim line) ++ ['^']
  /-- Where there is room for each part, what is printed is these lines. -/
  lines_eq : path.all isPlain = true → Text.room (fullHeader e path) ≤ terminalWidth →
    verbatim line = line → OneCellEach line → cellOf line line.length < terminalWidth →
      Text.lines (failure e path source) =
        [headerWith (lineMark e.line) e path, cellsFrom 0 (' ' :: ' ' :: line),
          caretLine e.column, []] ∧
        Shows (cellsFrom 0 (' ' :: ' ' :: line)) line

namespace PointsInto

open Report

theorem report_eq (h : e.PointsInto source line) (path : Text) :
    failure e path source =
      display (header e.message e.toPlace path) ++ display (sourceLine line) ++
        display (caretLine e.column) := by
  rw [Report.failure, Report.error, h.excerpt_eq]
  simp

/-- A caret is printed, however far to the right. -/
theorem withoutBlanks_display_caretLine (h : e.PointsInto source line) :
    Text.withoutBlanks (display (caretLine e.column)) = ['^'] := by
  obtain ⟨k, -, -, hcaret⟩ := h.exists_caretLine_eq
  have hspaces : ∀ c ∈ ' ' :: ' ' :: List.replicate k ' ', c = ' ' :=
    List.forall_mem_cons.2 ⟨rfl, List.forall_mem_cons.2 ⟨rfl, fun _ => List.eq_of_mem_replicate⟩⟩
  have hsplit : caretLine e.column = (' ' :: ' ' :: List.replicate k ' ') ++ ['^'] := hcaret
  have hsteady : SteadyLines (caretLine e.column) := by
    intro c hc
    have hmem := (List.mem_filter.1 hc).1
    rw [hsplit, List.mem_append, List.mem_singleton] at hmem
    rcases hmem with hmem | rfl
    · rw [hspaces c hmem]
      decide
    · decide
  rw [withoutBlanks_display hsteady, hsplit, Text.withoutBlanks_append,
    Text.withoutBlanks_of_blanks fun c hc => hspaces c hc ▸ rfl]
  rfl

/-- **All three parts are printed**, all of them that can be seen. -/
theorem withoutBlanks_failure (h : e.PointsInto source line)
    (hheader : SteadyLines (header e.message e.toPlace path))
    (hline : SteadyLines (sourceLine line)) :
    Text.withoutBlanks (failure e path source) =
      Text.withoutBlanks (header e.message e.toPlace path) ++
        Text.withoutBlanks (verbatim line) ++ ['^'] := by
  rw [h.report_eq path, Text.withoutBlanks_append, Text.withoutBlanks_append,
    withoutBlanks_display hheader, withoutBlanks_display hline,
    h.withoutBlanks_display_caretLine, sourceLine_eq]
  rfl

/-- **Where there is room** the report is three lines. -/
theorem lines_failure (h : e.PointsInto source line)
    (hname : ∀ c ∈ e.fault.name, Text.isWordChar c = true) (hpath : path ≠ [])
    (hplain : path.all isPlain = true) (hheader : Text.room (fullHeader e path) ≤ terminalWidth)
    (hverbatim : verbatim line = line) (hone : OneCellEach line)
    (hroom : cellOf line line.length < terminalWidth) :
    Text.lines (failure e path source) =
      [headerWith (lineMark e.line) e path, cellsFrom 0 (' ' :: ' ' :: line),
        caretLine e.column, []] := by
  have hprints := printsAsItIs_of_plain hplain
  have hcolon : ':' ∉ path := not_mem_of_plain hplain (by decide)
  have hfeed := not_mem_headerWith h hname (by decide) hprints.noFeed
  obtain ⟨k, -, hk, hcaret⟩ := h.exists_caretLine_eq
  rw [Report.failure, Report.error, List.flatMap_cons,
    display_header h hname hcolon hpath hprints hheader, List.append_assoc, List.singleton_append,
    Text.lines_append, Text.lines_of_not_mem hfeed, lines_excerpt_eq h hk hverbatim hone hroom,
    hcaret]
  rfl

theorem shownInFull (h : e.PointsInto source line)
    (hname : ∀ c ∈ e.fault.name, Text.isWordChar c = true) (hpath : path ≠ []) :
    e.ShownInFull path source line where
  report_eq := h.report_eq path
  locate_eq := h.locate_eq hpath
  header_eq := header_eq_embedded hname path
  header_eq_of_plain := by
    intro hplain
    have hheader := header_eq h hname (not_mem_of_plain hplain (by decide)) hpath
    rwa [embedded_of_plain hplain] at hheader
  sourceLine_eq := sourceLine_eq line
  verbatim_eq := verbatim_of_not_mem
  caretLine_eq := h.exists_caretLine_eq
  caretTrouble?_eq := fun _ => h.caretTrouble?_eq
  withoutBlanks_eq := h.withoutBlanks_failure
  lines_eq := fun hplain hheader hverbatim hone hroom =>
    ⟨h.lines_failure hname hpath hplain hheader hverbatim hone hroom, shows_cellsFrom line⟩

end PointsInto

end Failure

namespace Cli

/-! ## The name of the input -/

/-- A path that was read is never written as nothing. -/
theorem Path.text_ofText_ne_nil (w : Text) : (ofText w).text ≠ [] := by
  rw [text]
  split
  · simp
  · rename_i h
    intro hnil
    rw [List.append_eq_nil_iff] at hnil
    cases hparts : (ofText w).parts with
    | nil => exact h ⟨hnil.1, hparts⟩
    | cons part parts =>
      -- a step is not empty, so neither is a path that begins with it
      have hstep : isStep part = true :=
        isStep_of_mem_ofText (hparts ▸ List.mem_cons_self : part ∈ (ofText w).parts)
      have hpart : part = [] := by
        have hjoined := hnil.2
        rw [hparts, List.intercalate] at hjoined
        cases parts <;> simp_all
      rw [hpart] at hstep
      cases hstep

/-- What each step keeps up, the whole run does. -/
theorem foldlM_invariant {α σ ε : Type} {act : σ → α → Except ε σ} (P : σ → Prop)
    (hstep : ∀ s a s', P s → act s a = .ok s' → P s') (l : List α) {s s' : σ} (hs : P s)
    (h : l.foldlM act s = .ok s') : P s' := by
  induction l generalizing s with
  | nil =>
    rw [← Except.ok.inj h]
    exact hs
  | cons a l ih =>
    rw [List.foldlM_cons] at h
    cases hact : act s a with
    | error stop =>
      rw [hact] at h
      cases h
    | ok next =>
      rw [hact] at h
      exact ih (hstep s a next hs hact) h

theorem Reading.foldlM_of_settle {ι σ : Type} {r : Reading ι}
    {act : σ → Event ι → Except Stop σ} {s s' : σ} (h : r.settle act s = .ok s') :
    r.events.foldlM act s = .ok s' := by
  rw [settle] at h
  cases hfold : r.events.foldlM act s with
  | error stop =>
    rw [hfold] at h
    cases h
  | ok next =>
    rw [hfold] at h
    dsimp only [bind, Except.bind] at h
    split at h
    · exact h
    · cases h
    · cases h

namespace Expand

variable {s s' : Settings} {j : Job} {words : List Text}

/-- The input is a path that was read from a word. -/
def Settings.ReadsPath (s : Settings) : Prop := ∀ p, s.input = some p → ∃ w, p = .ofText w

/-- **Step.** An event sets no other input, or the one it was read from. -/
theorem Settings.ReadsPath.take {e : Event Key} (hs : s.ReadsPath) (h : s.take e = .ok s') :
    s'.ReadsPath := by
  have hinput : s'.input = s.input ∨ ∃ w, s'.input = some (.ofText w) := by
    rw [Settings.take.eq_def] at h
    split at h <;> cases h
    case h_1 w => exact Or.inr ⟨w, rfl⟩
    all_goals exact Or.inl rfl
  intro p hp
  rcases hinput with heq | ⟨w, heq⟩
  · exact hs p (heq.symm.trans hp)
  · exact ⟨w, Option.some.inj (hp.symm.trans heq)⟩

/-- **Run.** -/
theorem readsPath_of_settingsOf (h : settingsOf words = .ok s) : s.ReadsPath := by
  have hnone : ({} : Settings).ReadsPath := by
    intro p hp
    cases hp
  exact foldlM_invariant Settings.ReadsPath (fun _ _ _ => Settings.ReadsPath.take) _ hnone
    (Reading.foldlM_of_settle h)

/-! ## Jobs -/

theorem isName_of_plan (hplan : plan words = .ok j) : ∀ d ∈ j.definitions, isName d.1 = true := by
  obtain ⟨s, raw, -, hnamed, hraw, rfl⟩ := exists_of_plan hplan
  have hasks := (Settings.asks_iff hraw).2 ⟨fun _ => Iff.rfl, rfl⟩
  exact fun d hd => hnamed.isName_of_asks hasks d (Keyed.mem_ofList hd)

/-- The input has a name under which it is reported. -/
theorem display_ne_nil_of_plan (hplan : plan words = .ok j) : j.display ≠ [] := by
  obtain ⟨s, raw, hsettings, -, -, rfl⟩ := exists_of_plan hplan
  rw [Job.display]
  split
  · rename_i p hp
    obtain ⟨hinput, -⟩ := Option.filter_eq_some_iff.1 hp
    obtain ⟨w, rfl⟩ := readsPath_of_settingsOf hsettings p hinput
    exact Path.text_ofText_ne_nil w
  · decide

/-- **A failure is shown in full.** The names of a job that a command line asks for
can all be seeded, whatever the source; so if the run fails, it is in a line of the
source. The report, with which everything that is told then ends, has the header
with path, line and column and the message, the line, and the caret, and all three are
printed. -/
theorem failure_of_plan (source : Text) (hplan : plan words = .ok j) :
    (seeded j.predeclared j.definitions).result = .ok () ∧
      ∀ e, (run source j.predeclared j.definitions).result = .error e →
        ∃ line, e.PointsInto source line ∧ e.line ≤ (Text.lines source).length ∧
          e.ShownInFull j.display source line ∧
          ∀ obstacle refuses,
            Report.failure e j.display source <:+ (j.finish obstacle refuses source).err := by
  have hnames := isName_of_plan hplan
  refine ⟨(seeded_of_isName hnames).1, fun e herr => ?_⟩
  obtain ⟨line, hpoints⟩ := exists_pointsInto hnames herr
  have hname : ∀ c ∈ e.fault.name, Text.isWordChar c = true := fun c =>
    isWordChar_of_run_eq_error hnames herr
  refine ⟨line, hpoints, hpoints.line_le, hpoints.shownInFull hname
    (display_ne_nil_of_plan hplan), fun obstacle refuses => ?_⟩
  rw [Job.finish, herr]
  exact List.suffix_append _ _

/-- A name that is both seeded and predeclared, and a call that is not closed on the last
line. -/
theorem failure_of_plan_unclosed :
    let words := ["-D", "A=1", "-P", "A", "./in.txt"].map String.toList
    let source := "#define f(x) x\nA f(".toList
    let e : Failure := { line := 2, column := 3, fault := .unclosedArguments ['f'] }
    ∃ j, plan words = .ok j ∧ (run source j.predeclared j.definitions).result = .error e ∧
      e.ShownInFull "in.txt".toList source "A f(".toList ∧
      Text.lines (Report.failure e "in.txt".toList source) =
        ["in.txt:2:3: error: unterminated argument list in invocation of macro 'f'".toList,
          "  A f(".toList,
          "    ^".toList,
          []] ∧
      Text.withoutBlanks (Report.failure e "in.txt".toList source) =
        "in.txt:2:3:error:unterminatedargumentlistininvocationofmacro'f'Af(^".toList := by
  let e : Failure := { line := 2, column := 3, fault := .unclosedArguments ['f'] }
  let j : Job :=
    { input := some ⟨[], ["in.txt".toList]⟩
      target := .standard
      definitions := [("A".toList, "1".toList)]
      predeclared := ["A".toList]
      listMacros := false
      verbose := false }
  have hplan : plan (["-D", "A=1", "-P", "A", "./in.txt"].map String.toList) = .ok j := by
    decide +kernel
  have herr : (run "#define f(x) x\nA f(".toList ["A".toList] [("A".toList, "1".toList)]).result =
      .error e := by decide +kernel
  have hat : (Text.lines "#define f(x) x\nA f(".toList)[1]? = some "A f(".toList := by decide
  obtain ⟨-, hfails⟩ := failure_of_plan "#define f(x) x\nA f(".toList hplan
  obtain ⟨line, hpoints, -, hshown, -⟩ := hfails _ herr
  obtain rfl : "A f(".toList = line := Option.some.inj (hat.symm.trans hpoints.line_eq)
  have hpath : j.display = "in.txt".toList := by decide +kernel
  rw [hpath] at hshown
  have hroom : Text.room (Report.fullHeader e "in.txt".toList) ≤ Report.terminalWidth := by
    decide +kernel
  have hverbatim : Report.verbatim "A f(".toList = "A f(".toList := hshown.verbatim_eq (by decide)
  have hheader := hshown.header_eq_of_plain (by decide)
  have hwritten : Report.headerWith (Report.lineMark e.line) e "in.txt".toList =
      "in.txt:2:3: error: unterminated argument list in invocation of macro 'f'".toList := by
    decide +kernel
  rw [hwritten] at hheader
  obtain ⟨hlines, -⟩ := hshown.lines_eq (by decide) hroom hverbatim (by decide) (by decide)
  rw [hwritten] at hlines
  have hseen := hshown.withoutBlanks_eq (by rw [hheader]; decide +kernel)
    (by rw [hshown.sourceLine_eq, hverbatim]; decide)
  rw [hheader, hverbatim] at hseen
  exact ⟨j, hplan, herr, hshown, hlines, hseen.trans (by decide +kernel)⟩

end Expand

end Cli

end LineMacro
