import LineMacro.Proofs.Definition.Characters
import LineMacro.Proofs.Document.LastDefinition
import LineMacro.Proofs.Document.Seeds
/-!
# Documents — the history of a run

Whatever a run defines leaves a record, and nothing else does but the failure that
ends it. What the record says depends on all that the run defined before
(`RecordOf`): whether the name is predeclared, and else which of the earlier macros
of the name is the latest. The table keeps no more of these than that one, and it is
enough (`recordOf_iff`). So one more definition adds its record to a history
(`Recorded.define`), and with it seeding does and lines do, as far as they are
handled; a line that fails adds none of its own.
-/

namespace LineMacro

/-- The record of a macro, by what the run has defined before it. -/
inductive RecordOf (predeclared : List Text) (earlier : List Macro) (m : Macro) : Record → Prop
  /-- The name is predeclared. -/
  | shadowed :
      m.name ∈ predeclared → RecordOf predeclared earlier m (.shadowed m.name)
  /-- The name was defined before, and `old` is the latest macro of it. -/
  | redefined {above below : List Macro} {old : Macro} :
      m.name ∉ predeclared → earlier = above ++ old :: below → old.name = m.name →
      (∀ d ∈ below, d.name ≠ m.name) →
      RecordOf predeclared earlier m (.redefined m.name m.line old.line)
  /-- The name is new. -/
  | defined :
      m.name ∉ predeclared → (∀ d ∈ earlier, d.name ≠ m.name) →
      RecordOf predeclared earlier m (.defined m.signature m.line)

/-- The history of macros that are defined one after another: one record of each. -/
inductive Recorded (predeclared : List Text) : List Macro → Log → Prop
  | nil : Recorded predeclared [] []
  | snoc {earlier : List Macro} {history : Log} {m : Macro} {r : Record} :
      Recorded predeclared earlier history → RecordOf predeclared earlier m r →
      Recorded predeclared (earlier ++ [m]) (history ++ [r])

/-- The definition lines among the lines, which are numbered from `n` on, give one
macro each. -/
inductive Definition.Define : Int → List Text → List Macro → Prop
  | nil {n : Int} : Define n [] []
  | text {n : Int} {line : Text} {lines : List Text} {ms : List Macro} :
      isDefinition line = false → Define (n + 1) lines ms → Define n (line :: lines) ms
  | definition {n : Int} {line : Text} {lines : List Text} {m : Macro} {ms : List Macro} :
      isDefinition line = true → read line n = .ok m → m.line = n →
      Define (n + 1) lines ms → Define n (line :: lines) (m :: ms)

/-- What is recorded of the end of a run: the failure, if it is one. -/
def recordOfEnd {α : Type} : Except Failure α → Log
  | .ok _ => []
  | .error e => [.failed e]

variable {document : Text} {predeclared : List Text} {definitions seeds : List (Text × Text)}
variable {earlier : List Macro} {history : Log} {m : Macro} {r : Record}
variable {n : Int} {line : Text} {lines above : List Text} {outs : List Text} {e : Failure}

/-! ## One definition -/

/-- **The record of a definition** is the one that the table of the earlier ones
gives. -/
theorem recordOf_iff :
    RecordOf predeclared earlier m r ↔
      r = (({ predeclared } : Table).defineAll earlier).record m := by
  have hpre : (({ predeclared } : Table).defineAll earlier).isPredeclared m.name = true ↔
      m.name ∈ predeclared := by
    rw [Table.isPredeclared_iff, Table.defineAll_predeclared]
  rw [Table.record, Table.find?_defineAll_empty]
  constructor
  · rintro (hmem | ⟨hmem, hearlier, hname, hbelow⟩ | ⟨hmem, hnew⟩)
    · rw [if_pos (hpre.2 hmem)]
    · rw [if_neg (hpre.not.2 hmem), Keyed.last?_eq_some_iff.2 ⟨hname, _, _, hearlier, hbelow⟩]
    · rw [if_neg (hpre.not.2 hmem), Keyed.last?_eq_none_iff_forall.2 hnew]
  · rintro rfl
    split
    · rename_i hmem
      exact .shadowed (hpre.1 hmem)
    · rename_i hmem
      cases hlast : Keyed.last? Macro.name m.name earlier with
      | some old =>
        obtain ⟨hname, above, below, hearlier, hbelow⟩ := Keyed.last?_eq_some_iff.1 hlast
        exact .redefined (hpre.not.1 hmem) hearlier hname hbelow
      | none => exact .defined (hpre.not.1 hmem) (Keyed.last?_eq_none_iff_forall.1 hlast)

/-- **One more definition** adds its record. -/
theorem Recorded.define (h : Recorded predeclared earlier history) (m : Macro) :
    Recorded predeclared (earlier ++ [m])
      (history ++ [(({ predeclared } : Table).defineAll earlier).record m]) :=
  h.snoc (recordOf_iff.2 rfl)

/-- There is a record for each definition. -/
theorem Recorded.length_eq (h : Recorded predeclared earlier history) :
    history.length = earlier.length := by
  induction h with
  | nil => rfl
  | snoc _ _ ih => rw [List.length_append, List.length_append, ih]; rfl

/-- Macros have one history only. -/
theorem Recorded.unique {history' : Log} (h : Recorded predeclared earlier history)
    (h' : Recorded predeclared earlier history') : history = history' := by
  induction h generalizing history' with
  | nil => exact (List.length_eq_zero_iff.1 h'.length_eq).symm
  | @snoc earlier history m r _ hr ih =>
    generalize hall : earlier ++ [m] = all at h'
    cases h' with
    | nil => exact absurd hall (by simp)
    | snoc hearlier' hr' =>
      obtain ⟨rfl, hm⟩ := List.append_inj' hall rfl
      obtain rfl := List.singleton_inj.1 hm
      rw [ih hearlier', recordOf_iff.1 hr, recordOf_iff.1 hr']

theorem RecordOf.isPrefix_render (h : RecordOf predeclared earlier m r) :
    "DEBUG:prepr.macros:macro ".toList <+: r.render := by
  cases h
  all_goals
    unfold Record.render
    simp only [List.append_assoc]
    exact List.prefix_append _ _

/-- All of it is told by the table of macros. -/
theorem Recorded.isPrefix_render (h : Recorded predeclared earlier history) :
    ∀ r ∈ history, "DEBUG:prepr.macros:macro ".toList <+: r.render := by
  induction h with
  | nil => exact fun r hr => absurd hr List.not_mem_nil
  | snoc _ hr ih =>
    intro r' hr'
    rcases List.mem_append.1 hr' with hr' | hr'
    · exact ih r' hr'
    · rw [List.mem_singleton.1 hr']
      exact hr.isPrefix_render

/-! ## Seeded macros -/

theorem Table.seed_log_cons_of_isName (tbl : Table) (seeds : List (Text × Text)) {d : Text × Text}
    (h : isName d.1 = true) :
    (tbl.seed (d :: seeds)).log =
      tbl.record (Macro.ofSeed d) :: ((tbl.define (Macro.ofSeed d)).seed seeds).log := by
  have hname : Definition.requireName d.1 {} = .ok d.1 := if_pos h
  rw [seed, hname]
  rfl

/-- Seeding adds one record for each seeded macro. -/
theorem Recorded.seed (h : Recorded predeclared earlier history)
    (hnames : ∀ d ∈ seeds, isName d.1 = true) :
    Recorded predeclared (earlier ++ seeds.map Macro.ofSeed)
      (history ++ ((({ predeclared } : Table).defineAll earlier).seed seeds).log) := by
  induction seeds generalizing earlier history with
  | nil =>
    have hlog : ((({ predeclared } : Table).defineAll earlier).seed []).log = [] := rfl
    rw [List.map_nil, hlog, List.append_nil, List.append_nil]
    exact h
  | cons d seeds ih =>
    have hnext := ih (h.define (Macro.ofSeed d)) fun d hd => hnames d (List.mem_cons_of_mem _ hd)
    rw [Table.defineAll_append, List.append_assoc, List.append_assoc] at hnext
    rw [Table.seed_log_cons_of_isName _ _ (hnames d List.mem_cons_self), List.map_cons]
    exact hnext

/-! ## Lines -/

namespace Table

variable {tbl : Table} {out : Option Text}

/-- What a handled line adds: the record of the macro it defines. -/
theorem Handles.processLine_log (h : tbl.Handles n line out) :
    (tbl.processLine line n).log = (Definition.macro? line n).toList.map tbl.record := by
  cases h with
  | definition hdef hread =>
    rw [Table.processLine, if_pos hdef, hread, Definition.macro?, if_pos hdef, hread]
    rfl
  | text hdef hexp =>
    rw [Table.processLine, hdef, hexp, Definition.macro?, hdef]
    rfl

/-- A line that fails adds nothing. -/
theorem Refuses.processLine_log (h : tbl.Refuses n line e) :
    (tbl.processLine line n).log = [] := by
  cases h with
  | definition hdef hread => rw [Table.processLine, if_pos hdef, hread]
  | text hdef hexp =>
    rw [Table.processLine, hdef, hexp]
    rfl

/-- So the history of lines is that of those above the one that fails. -/
theorem processLines_append_log (habove : (tbl.processLines n above).result = .ok outs)
    (hline : ((tbl.processLines n above).table.processLine line (n + above.length)).result =
      .error e) (below : List Text) :
    (tbl.processLines n (above ++ line :: below)).log = (tbl.processLines n above).log := by
  obtain ⟨e', hrefuses, rfl⟩ := refuses_of_processLine_eq_error hline
  rw [processLines_append habove, processLines_cons_of_error hline, hrefuses.processLine_log]
  exact List.append_nil _

/-- Of handled lines each definition line gives a macro. -/
theorem define_macros (h : (tbl.processLines n lines).result = .ok outs) :
    Definition.Define n lines (Definition.macros n lines) := by
  induction lines generalizing tbl n outs with
  | nil => exact .nil
  | cons line lines ih =>
    obtain ⟨out, rest, hline, hrest, rfl⟩ := exists_of_processLines_cons_eq_ok h
    rw [Definition.macros]
    cases handles_of_processLine_eq_ok hline with
    | definition hdef hread =>
      rw [Definition.macro?_eq_some_iff.2 ⟨hdef, hread⟩]
      exact .definition hdef hread (Definition.read_eq_ok hread).2.1 (ih hrest)
    | text hdef =>
      rw [Definition.macro?_eq_none_of_text hdef]
      exact .text hdef (ih hrest)

end Table

/-- Handled lines add one record for each macro they define. -/
theorem Recorded.processLines (h : Recorded predeclared earlier history)
    (hok : ((({ predeclared } : Table).defineAll earlier).processLines n lines).result =
      .ok outs) :
    Recorded predeclared (earlier ++ Definition.macros n lines)
      (history ++ ((({ predeclared } : Table).defineAll earlier).processLines n lines).log) := by
  induction lines generalizing earlier history n outs with
  | nil =>
    have hlog : ((({ predeclared } : Table).defineAll earlier).processLines n []).log = [] := rfl
    rw [Definition.macros, hlog, List.append_nil, List.append_nil]
    exact h
  | cons line lines ih =>
    obtain ⟨out, rest, hline, hrest, rfl⟩ := Table.exists_of_processLines_cons_eq_ok hok
    have hhandles := Table.handles_of_processLine_eq_ok hline
    rw [hhandles.processLine.2, ← Table.defineAll_append] at hrest
    -- the line adds the record of its macro, if it has one
    have hhere : Recorded predeclared (earlier ++ (Definition.macro? line n).toList)
        (history ++ ((({ predeclared } : Table).defineAll earlier).processLine line n).log) := by
      rw [hhandles.processLine_log]
      cases Definition.macro? line n with
      | none => simpa using h
      | some m => exact h.define m
    have hnext := ih hhere hrest
    rw [Table.defineAll_append, List.append_assoc, List.append_assoc] at hnext
    rw [Table.processLines_cons_of_ok hline, hhandles.processLine.2]
    exact hnext

/-- **Lines add the history of those that are handled**, whether or not one of them
fails. -/
theorem Recorded.exists_processLines (h : Recorded predeclared earlier history) (n : Int)
    (lines : List Text) :
    let o := (({ predeclared } : Table).defineAll earlier).processLines n lines
    ∃ ms, Definition.Define n (Table.handledLines n lines o.result) ms ∧
      Recorded predeclared (earlier ++ ms) (history ++ o.log) := by
  intro o
  cases hresult : o.result with
  | ok outs => exact ⟨_, Table.define_macros hresult, h.processLines hresult⟩
  | error e =>
    obtain ⟨above, line, below, outs, rfl, habove, hline⟩ :=
      Table.exists_of_processLines_eq_error hresult
    have hlog : o.log = _ := Table.processLines_append_log habove hline below
    obtain ⟨e', -, rfl⟩ := Table.refuses_of_processLine_eq_error hline
    have hnumber : (n + above.length - n).toNat = above.length := by omega
    rw [hlog, Table.handledLines, hnumber, List.take_left]
    exact ⟨_, Table.define_macros habove, h.processLines habove⟩

/-! ## Documents -/

theorem run_log (h : ∀ d ∈ definitions, isName d.1 = true) :
    let o := (seeded predeclared definitions).table.process document
    (run document predeclared definitions).log =
      (seeded predeclared definitions).log ++ o.log ++ recordOfEnd o.result := by
  intro o
  rw [run, (seeded_of_isName h).1]
  dsimp only
  cases ((seeded predeclared definitions).table.process document).result <;> rfl

/-- **The history of a run is exact.** It has one record for each seeded macro, then
one for each definition line above the line that fails, or for each in the document,
and then the failure if there is one. Each record says of its macro what it was to
the run: shadowed by a predeclared name, put in the place of the latest macro of its
name, or new; and no other history says so. -/
theorem run_log_of_recorded (document : Text) (predeclared : List Text)
    (definitions : List (Text × Text)) (hnames : ∀ d ∈ definitions, isName d.1 = true) :
    let o := run document predeclared definitions
    let seeds := Keyed.ofList Prod.fst definitions
    ∃ defined history,
      Definition.Define 1 (Table.handledLines 1 (Text.lines document) o.result) defined ∧
        Recorded predeclared (seeds.map Macro.ofSeed ++ defined) history ∧
          (∀ other, Recorded predeclared (seeds.map Macro.ofSeed ++ defined) other →
            other = history) ∧
          (∀ r ∈ history, "DEBUG:prepr.macros:macro ".toList <+: r.render) ∧
            o.log = history ++ recordOfEnd o.result := by
  intro o seeds
  have hseeds : Recorded predeclared (seeds.map Macro.ofSeed)
      (seeded predeclared definitions).log :=
    Recorded.nil.seed fun d hd => hnames d (Keyed.mem_ofList hd)
  obtain ⟨defined, hdefined, hhistory⟩ := hseeds.exists_processLines 1 (Text.lines document)
  rw [← (seeded_of_isName hnames).2] at hdefined hhistory
  refine ⟨defined, _, ?_, hhistory, fun other hother => hother.unique hhistory,
    hhistory.isPrefix_render, ?_⟩
  · rw [run_result hnames, Table.handledLines_map]
    exact hdefined
  · rw [run_log hnames, run_result hnames]
    rfl

/-- A seeded macro is redefined, and so is one of the document, with another in
between; a predeclared name is seeded and defined; and the last line but one fails. -/
theorem run_log_of_recorded_redefined :
    let document :=
      "#define f(x) <x>\n#define k f(v)\nk\n#define f g\n#define p k\nf #d\n#define _\nk".toList
    let definitions := [("k".toList, "v".toList), ("p".toList, [])]
    let o := run document [['p']] definitions
    (∀ d ∈ definitions, isName d.1 = true) ∧
      o.log = [.defined ['k'] 0, .shadowed ['p'], .defined "f(x)".toList 1, .redefined ['k'] 2 0,
        .redefined ['f'] 4 1, .shadowed ['p'],
        .failed { line := 7, column := 9, fault := .invalidName }] ∧
      ∃ defined history,
        Definition.Define 1 (Table.handledLines 1 (Text.lines document) o.result) defined ∧
          Recorded [['p']]
              ((Keyed.ofList Prod.fst definitions).map Macro.ofSeed ++ defined) history ∧
            o.log = history ++ recordOfEnd o.result := by
  have hnames : ∀ d ∈ [("k".toList, "v".toList), ("p".toList, [])], isName d.1 = true := by decide
  obtain ⟨defined, history, hdefined, hhistory, -, -, hlog⟩ := run_log_of_recorded
    "#define f(x) <x>\n#define k f(v)\nk\n#define f g\n#define p k\nf #d\n#define _\nk".toList
    [['p']] _ hnames
  exact ⟨hnames, by decide +kernel, defined, history, hdefined, hhistory, hlog⟩

end LineMacro
