import LineMacro.Proofs.Document.Numbers
import LineMacro.Proofs.Document.Seeds
/-!
# Documents — definitions of predeclared names

A definition under a predeclared name is never seen. So a run comes to the same
as one that knows of no predeclared names and leaves such definitions out, both
the seeded ones and the lines of the document (`run_withoutShadowed`). The two
tables differ in those names alone (`Shadows`): a line that is left out keeps
this, as it changes nothing that can be seen, and a line that both runs process
keeps it under either number.
-/

namespace LineMacro

namespace Definition

/-- Whether a line is a well-formed definition of one of the names. -/
def isShadowed (names : List Text) (line : Text) : Bool :=
  (macro? line 0).any fun m => names.contains m.name

/-- The lines without the well-formed definitions of the names. -/
def unshadowed (names : List Text) (lines : List Text) : List Text :=
  lines.filter fun line => !isShadowed names line

variable {names : List Text} {line : Text}

theorem isShadowed_iff (n : Int) :
    isShadowed names line = true ↔ ∃ m, macro? line n = some m ∧ m.name ∈ names := by
  rw [isShadowed, Option.any_eq_true]
  constructor
  · rintro ⟨m, hm, hname⟩
    exact ⟨_, macro?_at hm n, by simpa using hname⟩
  · rintro ⟨m, hm, hname⟩
    exact ⟨_, macro?_at hm 0, by simpa using hname⟩

theorem unshadowed_cons_of_isShadowed (h : isShadowed names line = true) (below : List Text) :
    unshadowed names (line :: below) = unshadowed names below :=
  List.filter_cons_of_neg (by simp [h])

theorem unshadowed_cons_of_not_isShadowed (h : isShadowed names line = false)
    (below : List Text) :
    unshadowed names (line :: below) = line :: unshadowed names below :=
  List.filter_cons_of_pos (by simp [h])

theorem unshadowed_append (names above below : List Text) :
    unshadowed names (above ++ below) = unshadowed names above ++ unshadowed names below :=
  List.filter_append above below

end Definition

open Definition (isShadowed unshadowed isShadowed_iff unshadowed_cons_of_isShadowed
  unshadowed_cons_of_not_isShadowed unshadowed_append)

/-- The document without the lines that define one of the names. -/
def withoutShadowed (names : List Text) (document : Text) : Text :=
  Text.joinLines (unshadowed names (Text.lines document))

/-- The seeded macros without those of the names. -/
def seedsWithout (names : List Text) (definitions : List (Text × Text)) : List (Text × Text) :=
  definitions.filter fun d => !names.contains d.1

namespace Table

variable {tbl tbl' : Table} {names : List Text} {n : Int} {line : Text} {lines outs : List Text}
variable {e : Failure}

/-- Every word means the same in both tables, and the first one has the names
predeclared besides those of the second. -/
structure Shadows (names : List Text) (tbl tbl' : Table) : Prop where
  same : SameMeaning tbl tbl'
  predeclared : ∀ w, tbl.isPredeclared w = true ↔ w ∈ names ∨ tbl'.isPredeclared w = true

/-! ## One line -/

theorem isPredeclared_processLine (tbl : Table) (line : Text) (n : Int) (w : Text) :
    (tbl.processLine line n).table.isPredeclared w = tbl.isPredeclared w := by
  rw [isPredeclared, isPredeclared, processLine_predeclared]

/-- **A line that is left out** is handled, and what it changes is not seen. -/
theorem Shadows.processLine_of_isShadowed (h : Shadows names tbl tbl')
    (hline : isShadowed names line = true) (n : Int) :
    (tbl.processLine line n).result = .ok none ∧
      Shadows names (tbl.processLine line n).table tbl' := by
  obtain ⟨m, hm, hname⟩ := (isShadowed_iff n).1 hline
  obtain ⟨hdef, hread⟩ := Definition.macro?_eq_some_iff.1 hm
  have hhandles : tbl.Handles n line none := .definition hdef hread
  refine ⟨hhandles.processLine.1, ?_, fun w => ?_⟩
  · rw [hhandles.processLine.2, hm]
    exact h.same.define_left ((h.predeclared m.name).2 (Or.inl hname))
  · rw [isPredeclared_processLine]
    exact h.predeclared w

/-- **Any other line** leaves tables of this kind behind. -/
theorem Shadows.processLine (h : Shadows names tbl tbl')
    (hline : isShadowed names line = false) (n n' : Int) :
    Shadows names (tbl.processLine line n).table (tbl'.processLine line n').table := by
  refine ⟨h.same.processLine (fun m hm => ?_) n', fun w => ?_⟩
  · have hname : m.name ∉ names := fun hname => by
      rw [(isShadowed_iff n).2 ⟨m, hm, hname⟩] at hline
      cases hline
    rw [Bool.eq_iff_iff, h.predeclared, or_iff_right hname]
  · rw [isPredeclared_processLine, isPredeclared_processLine]
    exact h.predeclared w

/-! ## Any number of lines -/

/-- **The tables stay alike**, on success and on failure. -/
theorem Shadows.processLines (h : Shadows names tbl tbl') (n n' : Int) (lines : List Text) :
    Shadows names (tbl.processLines n lines).table
      (tbl'.processLines n' (unshadowed names lines)).table := by
  induction lines generalizing tbl tbl' n n' with
  | nil => exact h
  | cons line lines ih =>
    cases hline : isShadowed names line with
    | true =>
      obtain ⟨hok, hrest⟩ := h.processLine_of_isShadowed hline n
      rw [processLines_cons_of_ok hok, unshadowed_cons_of_isShadowed hline]
      exact ih hrest (n + 1) n'
    | false =>
      have hrest := h.processLine hline n n'
      rw [unshadowed_cons_of_not_isShadowed hline]
      cases hresult : (tbl.processLine line n).result with
      | ok out =>
        rw [processLines_cons_of_ok hresult,
          processLines_cons_of_ok (h.same.processLine_eq_ok hresult n')]
        exact ih hrest (n + 1) (n' + 1)
      | error e =>
        rw [processLines_cons_of_error hresult,
          processLines_cons_of_error (h.same.processLine_eq_error hresult n')]
        exact hrest

/-- **The same outputs**: a line that is left out has none. -/
theorem Shadows.processLines_eq_ok (h : Shadows names tbl tbl')
    (hok : (tbl.processLines n lines).result = .ok outs) (n' : Int) :
    (tbl'.processLines n' (unshadowed names lines)).result = .ok outs := by
  induction lines generalizing tbl tbl' n n' outs with
  | nil => exact hok
  | cons line lines ih =>
    obtain ⟨out, rest, hresult, hrest, rfl⟩ := exists_of_processLines_cons_eq_ok hok
    cases hline : isShadowed names line with
    | true =>
      obtain ⟨hnone, hshadows⟩ := h.processLine_of_isShadowed hline n
      obtain rfl : out = none := Except.ok.inj (hresult.symm.trans hnone)
      rw [unshadowed_cons_of_isShadowed hline]
      exact ih hshadows hrest n'
    | false =>
      rw [unshadowed_cons_of_not_isShadowed hline,
        processLines_cons_of_ok (h.same.processLine_eq_ok hresult n')]
      exact Failure.map_eq_ok_iff.2 ⟨rest, ih (h.processLine hline n n') hrest (n' + 1), rfl⟩

/-- **The same line fails**, and for the same cause. It is not one of those that
are left out, but its number is smaller by as many of them as are above it. -/
theorem Shadows.processLines_eq_error (h : Shadows names tbl tbl')
    (herr : (tbl.processLines n lines).result = .error e) (n' : Int) :
    ∃ above line below, lines = above ++ line :: below ∧ isShadowed names line = false ∧
      e.line = n + above.length ∧
        (tbl'.processLines n' (unshadowed names lines)).result =
          .error { e with line := n' + (unshadowed names above).length } := by
  induction lines generalizing tbl tbl' n n' with
  | nil => cases herr
  | cons line lines ih =>
    cases hline : isShadowed names line with
    | true =>
      obtain ⟨hnone, hshadows⟩ := h.processLine_of_isShadowed hline n
      rw [processLines_cons_of_ok hnone] at herr
      obtain ⟨above, bad, below, rfl, hbad, hnumber, hresult⟩ :=
        ih hshadows (Failure.map_eq_error_iff.1 herr) n'
      refine ⟨line :: above, bad, below, rfl, hbad, ?_, ?_⟩
      · rw [hnumber, number_cons]
      · rw [unshadowed_cons_of_isShadowed hline, unshadowed_cons_of_isShadowed hline]
        exact hresult
    | false =>
      rw [unshadowed_cons_of_not_isShadowed hline]
      cases hresult : (tbl.processLine line n).result with
      | error e' =>
        rw [processLines_cons_of_error hresult] at herr
        cases herr
        obtain ⟨e', -, rfl⟩ := refuses_of_processLine_eq_error hresult
        refine ⟨[], line, lines, rfl, hline, (Int.add_zero n).symm, ?_⟩
        rw [processLines_cons_of_error (h.same.processLine_eq_error hresult n')]
        exact congrArg (fun k => Except.error { e' with line := k }) (Int.add_zero n').symm
      | ok out =>
        rw [processLines_cons_of_ok hresult] at herr
        obtain ⟨above, bad, below, rfl, hbad, hnumber, hrest⟩ :=
          ih (h.processLine hline n n') (Failure.map_eq_error_iff.1 herr) (n' + 1)
        refine ⟨line :: above, bad, below, rfl, hbad, ?_, ?_⟩
        · rw [hnumber, number_cons]
        · rw [processLines_cons_of_ok (h.same.processLine_eq_ok hresult n'),
            unshadowed_cons_of_not_isShadowed hline, number_cons]
          exact Failure.map_eq_error_iff.2 hrest

end Table

/-! ## The seeded macros -/

variable {predeclared names : List Text} {definitions : List (Text × Text)}

/-- Seeded macros of other names are found as before. -/
theorem last?_seedsWithout {w : Text} (h : w ∉ names) :
    Keyed.last? Macro.name w ((seedsWithout names definitions).map Macro.ofSeed) =
      Keyed.last? Macro.name w (definitions.map Macro.ofSeed) := by
  rw [Keyed.last?_map, Keyed.last?_map, Keyed.last?, Keyed.last?, Keyed.find?, Keyed.find?,
    seedsWithout, ← List.filter_reverse, List.find?_filter]
  refine congrArg (fun p => Option.map Macro.ofSeed (List.find? p definitions.reverse)) ?_
  funext d
  by_cases hd : d.1 = w
  · simp [Macro.ofSeed, hd, h]
  · simp [Macro.ofSeed, hd]

theorem last?_seedsWithout_of_mem {w : Text} (h : w ∈ names) :
    Keyed.last? Macro.name w ((seedsWithout names definitions).map Macro.ofSeed) = none := by
  rw [Keyed.last?, Keyed.find?, List.find?_eq_none]
  intro m hm hname
  obtain ⟨d, hd, rfl⟩ := List.mem_map.1 (List.mem_reverse.1 hm)
  have hkept := (List.mem_filter.1 hd).2
  have hw : d.1 = w := of_decide_eq_true hname
  simp [hw, h] at hkept

theorem isName_of_mem_seedsWithout (hnames : ∀ d ∈ definitions, isName d.1 = true) :
    ∀ d ∈ seedsWithout names definitions, isName d.1 = true :=
  fun d hd => hnames d (List.mem_filter.1 hd).1

/-- **Where the two runs start.** -/
theorem shadows_seeded (hnames : ∀ d ∈ definitions, isName d.1 = true)
    (predeclared : List Text) :
    Table.Shadows predeclared (seeded predeclared definitions).table
      (seeded [] (seedsWithout predeclared definitions)).table := by
  have hnames' : ∀ d ∈ seedsWithout predeclared definitions, isName d.1 = true :=
    isName_of_mem_seedsWithout hnames
  refine ⟨.of_lookup_eq fun w => ?_, fun w => ?_⟩
  · rw [lookup_seeded hnames, lookup_seeded hnames', visible_nil, visible_nil,
      List.contains_nil, if_neg Bool.false_ne_true]
    by_cases hw : w ∈ predeclared
    · rw [if_pos (List.contains_iff_mem.2 hw), last?_seedsWithout_of_mem hw]
    · rw [if_neg (mt List.contains_iff_mem.1 hw), last?_seedsWithout hw]
  · rw [Table.isPredeclared_iff, Table.isPredeclared_iff, (seeded_of_isName hnames).2,
      (seeded_of_isName hnames').2]
    simp

/-! ## The run -/

theorem not_mem_of_mem_unshadowed {document line : Text}
    (h : line ∈ unshadowed names (Text.lines document)) : '\n' ∉ line :=
  Text.not_mem_of_mem_lines (List.mem_filter.1 h).1

theorem lines_withoutShadowed {document : Text}
    (h : unshadowed names (Text.lines document) ≠ []) :
    Text.lines (withoutShadowed names document) = unshadowed names (Text.lines document) :=
  Text.lines_joinLines (fun _ hline => not_mem_of_mem_unshadowed hline) h

/-- A document without shadowed lines is run line by line. -/
theorem run_withoutShadowed_eq (hnames : ∀ d ∈ definitions, isName d.1 = true)
    (predeclared names : List Text) (document : Text) :
    (run (withoutShadowed names document) predeclared definitions).result =
        ((seeded predeclared definitions).table.processLines 1
          (unshadowed names (Text.lines document))).result.map Text.joinLines ∧
      (run (withoutShadowed names document) predeclared definitions).table =
        ((seeded predeclared definitions).table.processLines 1
          (unshadowed names (Text.lines document))).table := by
  obtain ⟨hresult, htable⟩ := (seeded predeclared definitions).table.process_joinLines
    fun _ hline => not_mem_of_mem_unshadowed hline
  rw [run_result hnames, run_table hnames, ← hresult, ← htable]
  exact ⟨rfl, rfl⟩

section

variable {document : Text}

/-- What the run gives it gives without the shadowed definitions. -/
theorem run_withoutShadowed_eq_ok (hnames : ∀ d ∈ definitions, isName d.1 = true) {out : Text}
    (h : (run document predeclared definitions).result = .ok out) :
    (run (withoutShadowed predeclared document) []
      (seedsWithout predeclared definitions)).result = .ok out := by
  rw [run_result hnames] at h
  obtain ⟨outs, houts, rfl⟩ := Failure.map_eq_ok_iff.1 h
  rw [(run_withoutShadowed_eq (isName_of_mem_seedsWithout hnames) [] predeclared document).1,
    (shadows_seeded hnames predeclared).processLines_eq_ok houts 1]
  rfl

/-- The line where it fails is one of those that are left, and fails there as
well. -/
theorem run_withoutShadowed_eq_error (hnames : ∀ d ∈ definitions, isName d.1 = true) {e : Failure}
    (h : (run document predeclared definitions).result = .error e) :
    ∃ above line below, Text.lines document = above ++ line :: below ∧
      e.line = above.length + 1 ∧
        Text.lines (withoutShadowed predeclared document) =
          unshadowed predeclared above ++ line :: unshadowed predeclared below ∧
            (run (withoutShadowed predeclared document) []
              (seedsWithout predeclared definitions)).result =
                .error { e with line := (unshadowed predeclared above).length + 1 } := by
  rw [run_result hnames, Failure.map_eq_error_iff] at h
  obtain ⟨above, line, below, hlines, hline, hnumber, hfails⟩ :=
    (shadows_seeded hnames predeclared).processLines_eq_error h 1
  have hkept : unshadowed predeclared (Text.lines document) =
      unshadowed predeclared above ++ line :: unshadowed predeclared below := by
    rw [hlines, unshadowed_append, unshadowed_cons_of_not_isShadowed hline]
  refine ⟨above, line, below, hlines, hnumber.trans (Int.add_comm 1 _), ?_, ?_⟩
  · rw [lines_withoutShadowed (hkept ▸ List.append_ne_nil_of_right_ne_nil _ (by simp)), hkept]
  · rw [(run_withoutShadowed_eq (isName_of_mem_seedsWithout hnames) [] predeclared document).1,
      Failure.map_eq_error_iff, hfails, Int.add_comm]

/-- The two tables differ in nothing but the predeclared names. -/
theorem shadows_run (hnames : ∀ d ∈ definitions, isName d.1 = true) (document : Text)
    (predeclared : List Text) :
    Table.Shadows predeclared (run document predeclared definitions).table
      (run (withoutShadowed predeclared document) []
        (seedsWithout predeclared definitions)).table := by
  rw [run_table hnames,
    (run_withoutShadowed_eq (isName_of_mem_seedsWithout hnames) [] predeclared document).2]
  exact (shadows_seeded hnames predeclared).processLines 1 1 (Text.lines document)

end

theorem run_predeclared (hnames : ∀ d ∈ definitions, isName d.1 = true) (document : Text)
    (predeclared : List Text) :
    (run document predeclared definitions).table.predeclared = predeclared := by
  rw [run_table hnames, Table.processLines_predeclared, (seeded_of_isName hnames).2,
    Table.defineAll_predeclared]

/-- **Predeclaring a name is the same as never defining it.** A run succeeds
exactly if the run without predeclared names does, on the document and the
seeded macros that are left when all definitions of those names are taken away,
and gives the same output. If it fails, the other one fails at the same line and
for the same cause. Either way every other name has the same parameters and the
same body in the tables that the two leave. -/
theorem run_withoutShadowed (document : Text) (predeclared : List Text)
    (definitions : List (Text × Text)) (hnames : ∀ d ∈ definitions, isName d.1 = true) :
    let o := run document predeclared definitions
    let o' := run (withoutShadowed predeclared document) [] (seedsWithout predeclared definitions)
    (∀ out, o.result = .ok out ↔ o'.result = .ok out) ∧
    (∀ e, o.result = .error e → ∃ above line below,
      Text.lines document = above ++ line :: below ∧ e.line = above.length + 1 ∧
        Text.lines (withoutShadowed predeclared document) =
          unshadowed predeclared above ++ line :: unshadowed predeclared below ∧
            o'.result = .error { e with line := (unshadowed predeclared above).length + 1 }) ∧
    ∀ name, name ∉ predeclared →
      (o.table.find? name).map Macro.unnumbered = (o'.table.find? name).map Macro.unnumbered := by
  intro o o'
  refine ⟨fun out => ⟨fun hout => run_withoutShadowed_eq_ok hnames hout, fun hout => ?_⟩,
    fun e he => run_withoutShadowed_eq_error hnames he, fun name hname => ?_⟩
  · cases hresult : o.result with
    | ok out' => exact (run_withoutShadowed_eq_ok hnames hresult).symm.trans hout
    | error e =>
      -- then the run without the definitions would fail as well
      obtain ⟨_, _, _, -, -, -, hfails⟩ := run_withoutShadowed_eq_error hnames hresult
      rw [hout] at hfails
      cases hfails
  · have hfree : o.table.isPredeclared name = false := by
      rw [Bool.eq_false_iff, Ne, Table.isPredeclared_iff, run_predeclared hnames]
      exact hname
    have hfree' : o'.table.isPredeclared name = false := by
      rw [Bool.eq_false_iff, Ne, Table.isPredeclared_iff,
        run_predeclared (isName_of_mem_seedsWithout hnames)]
      exact List.not_mem_nil
    rw [← Table.meaning_of_not_isPredeclared hfree, ← Table.meaning_of_not_isPredeclared hfree']
    exact (shadows_run hnames document predeclared).same name

/-- A predeclared name is seeded, defined, used as a call inside an argument and
left standing in a body, until a definition of it fails that is not well
formed. -/
theorem run_withoutShadowed_malformed :
    let document := "#define p(x) [x]\n#define f(x) <x p>\nf(p(k)) k\n#define p(".toList
    let definitions := [("p".toList, "v".toList), ("k".toList, "w".toList)]
    let e : Failure := { line := 4, column := 10, fault := .unclosedParameters ['p'] }
    let o' := run (withoutShadowed [['p']] document) [] (seedsWithout [['p']] definitions)
    (∀ d ∈ definitions, isName d.1 = true) ∧ (run document [['p']] definitions).result = .error e ∧
      withoutShadowed [['p']] document = "#define f(x) <x p>\nf(p(k)) k\n#define p(".toList ∧
        ∃ above line below, Text.lines document = above ++ line :: below ∧
          e.line = above.length + 1 ∧
            Text.lines (withoutShadowed [['p']] document) =
              unshadowed [['p']] above ++ line :: unshadowed [['p']] below ∧
                o'.result = .error { e with line := (unshadowed [['p']] above).length + 1 } := by
  have hnames : ∀ d ∈ [("p".toList, "v".toList), ("k".toList, "w".toList)],
      isName d.1 = true := by decide
  have herr : (run "#define p(x) [x]\n#define f(x) <x p>\nf(p(k)) k\n#define p(".toList [['p']]
      [("p".toList, "v".toList), ("k".toList, "w".toList)]).result =
        .error { line := 4, column := 10, fault := .unclosedParameters ['p'] } := by decide +kernel
  have hleft : withoutShadowed [['p']]
      "#define p(x) [x]\n#define f(x) <x p>\nf(p(k)) k\n#define p(".toList =
        "#define f(x) <x p>\nf(p(k)) k\n#define p(".toList := by decide +kernel
  obtain ⟨-, herror, -⟩ := run_withoutShadowed
    "#define p(x) [x]\n#define f(x) <x p>\nf(p(k)) k\n#define p(".toList [['p']] _ hnames
  exact ⟨hnames, herr, hleft, herror _ herr⟩

end LineMacro
