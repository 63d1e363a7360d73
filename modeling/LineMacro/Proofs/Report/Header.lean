import LineMacro.Proofs.Document.PointsInto
import LineMacro.Proofs.Document.Wording
import LineMacro.Proofs.Report.Inline
import LineMacro.Proofs.Report.OneLine
/-!
# Reports — the header of a failure

A header names a place by the path, the line and the column, with colons between
them. A terminal that looks for the codes of symbols takes the line with its two
colons for one, and there are such codes (`symbolOr_decimal`): the first line of a
report has `💯` in place of the line 100 and `🔢` in place of the line 1234, and both
colons are gone with it. Nothing else in the header can be a code, for the colons of
the line leave none for the column, and no message has one (`head?_lines_failure`).
-/

namespace LineMacro

variable {n : Nat} {e : Failure} {document line path t : Text} {c : Char}

/-! ## Numbers -/

namespace Text

theorem isDigit_of_mem_decimal (hc : c ∈ decimal n) : c.isDigit = true :=
  Nat.isDigit_of_mem_toDigits (by decide) (by decide) hc

/-- What has another character is no number. -/
theorem decimal_ne_of_mem (hc : c ∈ t) (hdigit : c.isDigit = false) : decimal n ≠ t := by
  rintro rfl
  rw [isDigit_of_mem_decimal hc] at hdigit
  cases hdigit

theorem isWordChar_of_isDigit (h : c.isDigit = true) : isWordChar c = true := by
  simp [isWordChar, Char.isAlphanum, h]

theorem decimal_injective {k : Nat} (h : decimal n = decimal k) : n = k := by
  have hvalue := congrArg (Nat.ofDigitChars 10 · 0) h
  simpa [decimal, Nat.ofDigitChars_ten_toDigits] using hvalue

end Text

namespace Report

/-- Word characters mean nothing to the printer. -/
theorem isPlain_of_isWordChar (h : Text.isWordChar c = true) : isPlain c = true := by
  refine isPlain_iff.2 ⟨fun hmem => ?_, ?_⟩
  · have hnone : [':', '[', ']', '\\', '\n', '\t'].all (fun d => !Text.isWordChar d) = true := rfl
    have hc := List.all_eq_true.1 hnone c hmem
    rw [h] at hc
    cases hc
  · have hrange := Text.toNat_le_of_isWordChar h
    simp only [movesCursor, Bool.or_eq_false_iff, beq_eq_false_iff_ne]
    omega

/-! ## Codes that are numbers -/

namespace Symbol

/-- Digits are small as they are. -/
theorem small_of_isDigit (h : c.isDigit = true) : small c = c := by
  change (decide (48 ≤ c.toNat) && decide (c.toNat ≤ 57)) = true at h
  rw [Bool.and_eq_true, decide_eq_true_eq, decide_eq_true_eq] at h
  have hupper : ¬ (c.val ≥ 'A'.val ∧ c.val ≤ 'Z'.val) := by
    rintro ⟨hfirst, -⟩
    change 65 ≤ c.toNat at hfirst
    omega
  have hkelvin : c ≠ '\u212A' := by
    rintro rfl
    exact absurd h (by decide)
  have hangstrom : c ≠ '\u212B' := by
    rintro rfl
    exact absurd h (by decide)
  rw [small, if_neg hkelvin, if_neg hangstrom, if_neg (by omega)]
  exact dif_neg hupper

/-- No number chooses a look. -/
theorem cutEnding?_looks_decimal (n : Nat) : cutEnding? looks (Text.decimal n) = none := by
  have hhyphen : ∀ e ∈ looks, '-' ∈ e.1 := by decide
  have hnone : ∀ e ∈ looks, ¬ e.1.isSuffixOf (Text.decimal n) = true := by
    intro e he hsuffix
    have hmem := (List.isSuffixOf_iff_suffix.1 hsuffix).mem (hhyphen e he)
    exact Text.decimal_ne_of_mem hmem (by decide) rfl
  rw [cutEnding?, List.find?_eq_none.2 hnone]
  rfl

theorem ofWord?_decimal (n : Nat) :
    ofWord? (Text.decimal n) = find? (Text.decimal n) numerals := by
  have hsmall : (Text.decimal n).map small = Text.decimal n := by
    rw [List.map_congr_left fun c hc => small_of_isDigit (Text.isDigit_of_mem_decimal hc),
      List.map_id']
  have hnumeral : (Text.decimal n).all isNumeral = true := by
    rw [List.all_eq_true]
    intro c hc
    rw [isNumeral, Text.isDigit_of_mem_decimal hc, Bool.true_or, Bool.true_or]
  rw [ofWord?, cutEnding?_looks_decimal]
  dsimp only
  rw [hsmall, ofCode?, if_pos hnumeral]

end Symbol

/-- A line between its colons as a terminal shows it. -/
def lineMark (n : Int) : Text :=
  if n = 100 then ['💯'] else if n = 1234 then ['🔢'] else ':' :: (Text.decimal n ++ [':'])

/-- **The numbers that are codes.** -/
theorem symbolOr_decimal (n : Nat) : symbolOr (Text.decimal n) = lineMark n := by
  by_cases hundred : n = 100
  · subst hundred
    rfl
  by_cases hthousand : n = 1234
  · subst hthousand
    rfl
  -- the other two codes start with a sign
  have hnone : ∀ e ∈ Symbol.numerals, ¬ decide (e.1 = Text.decimal n) = true := by
    intro e he heq
    rw [decide_eq_true_eq] at heq
    simp only [Symbol.numerals, List.mem_cons, List.not_mem_nil, or_false] at he
    rcases he with rfl | rfl | rfl | rfl
    · exact hundred (Text.decimal_injective (k := 100) heq.symm)
    · exact hthousand (Text.decimal_injective (k := 1234) heq.symm)
    · exact Text.decimal_ne_of_mem (c := '+') (by decide) (by decide) heq.symm
    · exact Text.decimal_ne_of_mem (c := '-') (by decide) (by decide) heq.symm
  have hfind : Symbol.find? (Text.decimal n) Symbol.numerals = none := by
    rw [Symbol.find?, List.find?_eq_none.2 hnone]
    rfl
  rw [symbolOr, Symbol.ofWord?_decimal, hfind, lineMark, if_neg (by omega), if_neg (by omega)]
  rfl

/-! ## The header -/

theorem isPlain_of_mem_decimal (hc : c ∈ Text.decimal n) : isPlain c = true :=
  isPlain_of_isWordChar (Text.isWordChar_of_isDigit (Text.isDigit_of_mem_decimal hc))

theorem all_isPlain_decimal (n : Nat) : (Text.decimal n).all isPlain = true :=
  List.all_eq_true.2 fun _ hc => isPlain_of_mem_decimal hc

theorem mem_lineMark (hc : c ∈ lineMark n) : c ∈ ['💯', '🔢', ':'] ∨ c ∈ Text.decimal n := by
  unfold lineMark at hc
  split at hc
  · rw [List.mem_singleton.1 hc]
    exact Or.inl List.mem_cons_self
  · split at hc
    · rw [List.mem_singleton.1 hc]
      exact Or.inl (by decide)
    · rw [List.mem_cons, List.mem_append, List.mem_singleton] at hc
      rcases hc with rfl | hc | rfl
      · exact Or.inl (by decide)
      · exact Or.inr hc
      · exact Or.inl (by decide)

/-- **The numbers behind a path.** The line is looked up as a code, and then no colon
is left to start one at the column. -/
theorem verbatim_numbers (l k : Nat) :
    verbatim (':' :: (Text.decimal l ++ ':' :: (Text.decimal k ++ [':']))) =
      lineMark l ++ (Text.decimal k ++ [':']) := by
  have hline : ∀ c ∈ Text.decimal l, Text.isBlank c = false := fun c hc =>
    Text.isBlank_of_isWordChar (Text.isWordChar_of_isDigit (Text.isDigit_of_mem_decimal hc))
  have hcolon : ∀ n : Nat, ':' ∉ Text.decimal n := fun n =>
    not_mem_of_plain (all_isPlain_decimal n) (by decide)
  have hsymbols : withSymbols (':' :: (Text.decimal l ++ ':' :: (Text.decimal k ++ [':']))) =
      lineMark l ++ (Text.decimal k ++ [':']) := by
    rw [withSymbols, withSymbolsFrom, if_pos rfl, withSymbolsFrom_word (hcolon l) hline,
      withSymbols_append (hcolon k), ← symbolOr_decimal]
    rfl
  rw [verbatim, hsymbols, List.filter_eq_self]
  intro c hc
  rw [List.mem_append, List.mem_append, List.mem_singleton] at hc
  rw [Bool.not_eq_true']
  have hstays : ∀ d ∈ ['💯', '🔢', ':'], movesCursor d = false :=
    List.forall_mem_cons.2 ⟨rfl, List.forall_mem_cons.2 ⟨rfl, List.forall_mem_singleton.2 rfl⟩⟩
  rcases hc with hc | hc | rfl
  · exact (mem_lineMark hc).elim (hstays c) fun hd => (isPlain_iff.1 (isPlain_of_mem_decimal hd)).2
  · exact (isPlain_iff.1 (isPlain_of_mem_decimal hc)).2
  · rfl

theorem all_isPlain_message (hname : ∀ c ∈ e.fault.name, Text.isWordChar c = true) :
    e.message.all isPlain = true := by
  have hmarks : Fault.marks.all isPlain = true := rfl
  rw [List.all_eq_true]
  intro c hc
  have hworded := List.all_eq_true.1 (Fault.all_message hname) c hc
  rw [Fault.isWorded, Bool.or_eq_true, List.contains_iff_mem] at hworded
  exact hworded.elim isPlain_of_isWordChar (List.all_eq_true.1 hmarks c)

/-- No bracket is in the numbers, so a path does not go on in them. -/
theorem embedded_numbers (hcolon : ':' ∉ path) (l k : Nat) :
    embedded (path ++ ':' :: (Text.decimal l ++ ':' :: (Text.decimal k ++ [':']))) =
      embedded path ++ (lineMark l ++ (Text.decimal k ++ [':'])) := by
  have hopen : ∀ n : Nat, '[' ∉ Text.decimal n := fun n =>
    not_mem_of_plain (all_isPlain_decimal n) (by decide)
  have hclose : ∀ n : Nat, ']' ∉ Text.decimal n := fun n =>
    not_mem_of_plain (all_isPlain_decimal n) (by decide)
  rw [embedded_append hcolon (by simp [hopen]) (by simp [hclose]), verbatim_numbers]

/-- No backslash is at the end of a place, so the place is put into the header as it
is. -/
theorem shown_append_decimal (t : Text) (n : Nat) :
    shown (t ++ Text.decimal n) = t ++ Text.decimal n := by
  refine shown_of_getLast?_ne fun hlast => ?_
  have hsome : (Text.decimal n).getLast?.isSome := List.getLast?_isSome.2 Nat.toDigits_ne_nil
  obtain ⟨d, hd⟩ := Option.isSome_iff_exists.1 hsome
  rw [List.getLast?_append, hd, Option.some_or, Option.some_inj] at hlast
  exact not_mem_of_plain (all_isPlain_decimal n) (by decide) (hlast ▸ List.mem_of_getLast? hd)

/-- A header after a path, with the line and its two colons written as given. -/
def headerWith (mark : Text) (e : Failure) (path : Text) : Text :=
  path ++ (mark ++ (Text.decimal e.column ++ (": error: ".toList ++ e.message)))

/-- The header that names the whole place: path, line and column, and the message. -/
def fullHeader (e : Failure) (path : Text) : Text :=
  [':'].intercalate [path, Text.decimal e.line, Text.decimal e.column] ++
    (": error: ".toList ++ e.message)

theorem fullHeader_eq (e : Failure) (path : Text) :
    fullHeader e path = headerWith (':' :: (Text.decimal e.line ++ [':'])) e path := by
  simp [fullHeader, headerWith, List.intercalate]

/-- The line is named in full unless it spells a code. -/
theorem lineMark_eq_iff (n : Int) :
    lineMark n = ':' :: (Text.decimal n ++ [':']) ↔ n ≠ 100 ∧ n ≠ 1234 := by
  unfold lineMark
  split
  · rename_i hn
    exact iff_of_false (fun h => by cases (List.cons.inj h).1) fun h => h.1 hn
  · rename_i hn
    split
    · rename_i hn'
      exact iff_of_false (fun h => by cases (List.cons.inj h).1) fun h => h.2 hn'
    · rename_i hn'
      exact iff_of_true rfl ⟨hn, hn'⟩

/-- So is the whole place. -/
theorem headerWith_lineMark_eq_iff (e : Failure) (path : Text) :
    headerWith (lineMark e.line) e path = fullHeader e path ↔ e.line ≠ 100 ∧ e.line ≠ 1234 := by
  rw [fullHeader_eq, headerWith, headerWith, List.append_cancel_left_eq,
    List.append_cancel_right_eq, lineMark_eq_iff]

/-- A symbol takes no more room than the number it stands for. -/
theorem room_lineMark_le (n : Int) :
    Text.room (lineMark n) ≤ Text.room (':' :: (Text.decimal n ++ [':'])) := by
  unfold lineMark
  split
  · rename_i hn
    subst hn
    decide
  · split
    · rename_i hn
      subst hn
      decide
    · exact Nat.le_refl _

theorem room_headerWith_le (e : Failure) (path : Text) :
    Text.room (headerWith (lineMark e.line) e path) ≤ Text.room (fullHeader e path) := by
  have hmark := room_lineMark_le e.line
  rw [fullHeader_eq]
  simp only [headerWith, Text.room_append] at hmark ⊢
  omega

/-- **The message ends the header**, as it is, whatever the path. -/
theorem header_eq_embedded (hname : ∀ c ∈ e.fault.name, Text.isWordChar c = true) (path : Text) :
    header e.message e.toPlace path =
      embedded (shown (e.locate path) ++ [':']) ++ (" error: ".toList ++ e.message) := by
  have hplain := all_isPlain_message hname
  have hmessage : shown e.message = e.message :=
    shown_of_getLast?_ne fun hlast =>
      not_mem_of_plain hplain (by decide) (List.mem_of_getLast? hlast)
  have hspace : (' ' :: e.message).all isPlain = true := by
    rw [List.all_cons, hplain]
    rfl
  rw [header, hmessage, embedded_of_plain hspace, List.append_assoc]
  rfl

section

/-! The failure points into a document and names a word, and the path has no colons:
such is the failure of a run, and it is all that is used of it. -/

variable (hpoints : e.PointsInto document line)
variable (hname : ∀ c ∈ e.fault.name, Text.isWordChar c = true)
variable (hcolon : ':' ∉ path)
include hpoints hname hcolon

/-- **The header of a failure**, after a path without colons. -/
theorem header_eq (hpath : path ≠ []) :
    header e.message e.toPlace path = headerWith (lineMark e.line) e (embedded path) := by
  obtain ⟨l, k, hl, hk⟩ := hpoints.exists_natCast
  have hlocate : e.locate path = (path ++ ':' :: (Text.decimal l ++ [':'])) ++ Text.decimal k := by
    rw [hpoints.locate_eq hpath, hl, hk]
    simp [List.intercalate]
  have hnumbers := embedded_numbers hcolon l k
  rw [header_eq_embedded hname, hlocate, shown_append_decimal, headerWith, hl, hk]
  simp only [List.append_assoc, List.cons_append, List.nil_append] at hnumbers ⊢
  rw [hnumbers]
  simp

omit hcolon in
/-- A header has no line feeds and tabs but those of its path. -/
theorem not_mem_headerWith (hc : c ∈ ['\n', '\t']) (hnone : c ∉ path) :
    c ∉ headerWith (lineMark e.line) e path := by
  have hmeaning : c ∈ [':', '[', ']', '\\', '\n', '\t'] :=
    List.mem_append_right [':', '[', ']', '\\'] hc
  have hdecimal : ∀ n : Nat, c ∉ Text.decimal n := fun n =>
    not_mem_of_plain (all_isPlain_decimal n) hmeaning
  have hmark : ∀ n : Nat, c ∉ lineMark n := by
    intro n hmem
    rcases mem_lineMark hmem with hsymbol | hdigit
    · rcases List.mem_pair.1 hc with rfl | rfl <;> exact absurd hsymbol (by decide)
    · exact hdecimal n hdigit
  have hmessage := not_mem_of_plain (all_isPlain_message hname) hmeaning
  obtain ⟨l, k, hl, hk⟩ := hpoints.exists_natCast
  rw [headerWith, hl, hk]
  simp only [List.mem_append, not_or]
  refine ⟨hnone, hmark l, hdecimal k, ?_, hmessage⟩
  rcases List.mem_pair.1 hc with rfl | rfl <;> decide

/-! ## The first line -/

/-- A terminal prints the path as it is. -/
structure PrintsAsItIs (path : Text) : Prop where
  embedded_eq : embedded path = path
  noFeed : '\n' ∉ path
  noTab : '\t' ∉ path

omit hpoints hname hcolon in
theorem printsAsItIs_of_plain (h : path.all isPlain = true) : PrintsAsItIs path :=
  ⟨embedded_of_plain h, not_mem_of_plain h (by decide), not_mem_of_plain h (by decide)⟩

/-- **A header for which there is room** is printed on one line. -/
theorem display_header (hpath : path ≠ []) (hprints : PrintsAsItIs path)
    (hroom : Text.room (fullHeader e path) ≤ terminalWidth) :
    display (header e.message e.toPlace path) = headerWith (lineMark e.line) e path ++ ['\n'] := by
  have hheader := header_eq hpoints hname hcolon hpath
  rw [hprints.embedded_eq] at hheader
  rw [hheader, display_of_room (not_mem_headerWith hpoints hname (by decide) hprints.noFeed)
    (not_mem_headerWith hpoints hname (by decide) hprints.noTab)
    (Nat.le_trans (room_headerWith_le e path) hroom)]

/-- **The header is the first line** of the report, where there is room for it. -/
theorem head?_lines_failure_eq (hpath : path ≠ []) (hprints : PrintsAsItIs path)
    (hroom : Text.room (fullHeader e path) ≤ terminalWidth) (source : Text) :
    (Text.lines (failure e path source)).head? =
      some (headerWith (lineMark e.line) e path) := by
  have hfeed := not_mem_headerWith hpoints hname (by decide) hprints.noFeed
  rw [failure, error, List.flatMap_cons, display_header hpoints hname hcolon hpath hprints hroom,
    List.append_assoc, List.singleton_append, Text.lines_append, Text.lines_of_not_mem hfeed]
  rfl

end

/-- **The first line of a report names the whole place, but for two lines.** It is the
header with the path as it is and the line between its colons, or the symbol of a code
in their place; so it is the full header exactly if the line is neither 100 nor 1234,
whatever the document, the column and the message. -/
theorem head?_lines_failure {predeclared : List Text} {definitions : List (Text × Text)}
    (hnames : ∀ d ∈ definitions, isName d.1 = true)
    (herr : (run document predeclared definitions).result = .error e) (hpath : path ≠ [])
    (hcolon : ':' ∉ path) (hprints : PrintsAsItIs path)
    (hroom : Text.room (fullHeader e path) ≤ terminalWidth) (source : Text) :
    (Text.lines (failure e path source)).head? = some (headerWith (lineMark e.line) e path) ∧
      ((Text.lines (failure e path source)).head? = some (fullHeader e path) ↔
        e.line ≠ 100 ∧ e.line ≠ 1234) := by
  obtain ⟨line, hpoints⟩ := exists_pointsInto hnames herr
  have hname : ∀ c ∈ e.fault.name, Text.isWordChar c = true := fun c =>
    isWordChar_of_run_eq_error hnames herr
  have hfirst := head?_lines_failure_eq hpoints hname hcolon hpath hprints hroom source
  refine ⟨hfirst, ?_⟩
  rw [hfirst, Option.some_inj, headerWith_lineMark_eq_iff]

/-- A path with what looks like a style, and a message with a name. -/
theorem head?_lines_failure_brackets :
    let document := "f\n#define f(x".toList
    let path := "notes [b].txt".toList
    let e : Failure := { line := 2, column := 10, fault := .unclosedParameters ['f'] }
    (run document [] []).result = .error e ∧ PrintsAsItIs path ∧
      (Text.lines (failure e path document)).head? = some (fullHeader e path) ∧
      fullHeader e path = ("notes [b].txt:2:10: error: " ++
        "unterminated parameter list in definition of macro 'f'").toList := by
  have herr : (run "f\n#define f(x".toList [] []).result =
      .error { line := 2, column := 10, fault := .unclosedParameters ['f'] } := by decide +kernel
  have hprints : PrintsAsItIs "notes [b].txt".toList := ⟨by decide +kernel, by decide, by decide⟩
  have hroom : Text.room (fullHeader
      { line := 2, column := 10, fault := .unclosedParameters ['f'] } "notes [b].txt".toList) ≤
        terminalWidth := by decide +kernel
  have hfirst := head?_lines_failure (List.forall_mem_nil _) herr (by decide) (by decide)
    hprints hroom "f\n#define f(x".toList
  exact ⟨herr, hprints, hfirst.2.2 ⟨by decide, by decide⟩, rfl⟩

/-- **The header does not always name the line**, not even where nothing else in it is
changed: a definition without a name on the line 100. -/
theorem not_forall_head?_lines_failure :
    ¬ ∀ (document path : Text) (e : Failure), (run document [] []).result = .error e →
      path ≠ [] → ':' ∉ path → PrintsAsItIs path →
      Text.room (fullHeader e path) ≤ terminalWidth →
      (Text.lines (failure e path document)).head? = some (fullHeader e path) := by
  intro hall
  have herr : (run (List.replicate 99 '\n' ++ "#define _".toList) [] []).result =
      .error { line := 100, column := 9, fault := .invalidName } := by decide +kernel
  have hprints : PrintsAsItIs "in.txt".toList := ⟨by decide +kernel, by decide, by decide⟩
  have hroom : Text.room (fullHeader { line := 100, column := 9, fault := .invalidName }
      "in.txt".toList) ≤ terminalWidth := by decide +kernel
  obtain ⟨line, hpoints⟩ := exists_pointsInto (List.forall_mem_nil _) herr
  have hfirst := head?_lines_failure_eq hpoints (List.forall_mem_nil _) (by decide) (by decide)
    hprints hroom (List.replicate 99 '\n' ++ "#define _".toList)
  have hfull := hall _ _ _ herr (by decide) (by decide) hprints hroom
  rw [hfirst, Option.some_inj, headerWith_lineMark_eq_iff] at hfull
  exact hfull.1 rfl

end Report

end LineMacro
