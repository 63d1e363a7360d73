import LineMacro.Proofs.Document.OutputLines
import LineMacro.Proofs.Document.Visible
import LineMacro.Proofs.Editor.Visible
import LineMacro.Proofs.Editor.Word
/-!
# Editor answers — what is shown for a word

What the editor shows for a word is the macro that the expander would use for it
there. The editor reads off the word that touches the position, which is one of
those that the expander reads, and looks it up in the table that the lines above
leave when the document is processed (`hover_eq_lookup`).
-/

namespace LineMacro

variable {document line before word after : Text} {lines above : List Text} {k c : Nat}
variable {outs : List Text} {m : Macro} {span : Editor.Span}

namespace Definition

/-- The number of the last definition of a name is that of a line which defines
it. -/
theorem LastOf.exists_line (h : LastOf word lines m) :
    ∃ (j : Nat) (l : Text), j < lines.length ∧ m.line = j + 1 ∧ lines[j]? = some l ∧
      macro? l m.line = some m := by
  obtain @⟨top, rest, l, _, hl, -, -⟩ := h
  have hnumber : m.line = top.length + 1 := (read_eq_ok (macro?_eq_some_iff.1 hl).2).2.1
  exact ⟨top.length, l, by simp, hnumber, by simp, hnumber ▸ hl⟩

end Definition

/-- Without predeclared names and seeded macros a name stands for its last
definition. -/
theorem visible_eq_some_iff :
    visible [] [] above word = some m ↔ Definition.LastOf word above m := by
  have hnone : Keyed.last? Macro.name word (([] : List (Text × Text)).map Macro.ofSeed) = none :=
    rfl
  rw [visible, if_neg (by simp), hnone, Option.or_none, Definition.last?_macros_eq_some_iff]

namespace Editor

theorem eq_keyword_iff : '#' :: word = Definition.keyword ↔ word = "define".toList := by
  have hkeyword : Definition.keyword = '#' :: "define".toList := by decide
  rw [hkeyword, List.cons_inj_right]

/-- **What is shown** on a line of the document where the word touches the
position. -/
theorem hover_eq (hline : (Text.lines document)[k]? = some line)
    (h : Touches line (min c line.length) before word after)
    (hspan : wordAt line c = .ok span) (hstart : span.start = before.length)
    (hstop : span.stop = (before.length + word.length : Nat)) :
    hover document k c = .ok
      (if word = [] then none
      else if word = "define".toList ∧ before = ['#'] then some ⟨directiveDescription, span⟩
      else ((visibleAt document k).lookup word).map fun m => ⟨describe m, span⟩) := by
  obtain ⟨hk, hget⟩ := List.getElem?_eq_some_iff.1 hline
  have hinside : ¬ ((Text.lines document).length : Int) ≤ k := by omega
  have htext : Position.get k (Text.lines document) = .ok line := by
    rw [Position.get_natCast hk, hget]
  simp only [hover, hinside, htext, hspan, bind, Except.bind, pure, Except.pure, if_false, hstart,
    hstop, Touches.start_eq_stop_iff, h.between_eq, h.upTo_eq, eq_keyword_iff]
  split_ifs <;> rfl

/-- A line that is no definition is expanded under the table that the lines above
it leave, whatever is below it. -/
theorem run_of_expand (hline : (Text.lines document)[k]? = some line)
    (habove : (processAbove [] [] ((Text.lines document).take k)).result = .ok outs)
    (hdef : Definition.isDefinition line = false) :
    let tbl := (processAbove [] [] ((Text.lines document).take k)).table
    (processAbove [] [] ((Text.lines document).take (k + 1))).result =
        ((tbl.expand line).mapError fun e => { e with line := k + 1 }).map (outs ++ [·]) ∧
      (∀ e, tbl.expand line = .error e →
        (run document [] []).result = .error { e with line := k + 1 }) ∧
      ∀ out, (run document [] []).result = .ok out → ∃ o, tbl.expand line = .ok o ∧
        (Text.lines out)[(Definition.textLines ((Text.lines document).take k)).length]? =
          some o := by
  intro tbl
  obtain ⟨hk, hget⟩ := List.getElem?_eq_some_iff.1 hline
  have hlength : ((Text.lines document).take k).length = k := List.length_take_of_le hk.le
  have hlines : Text.lines document =
      (Text.lines document).take k ++ line :: (Text.lines document).drop (k + 1) := by
    rw [← hget, ← List.drop_eq_getElem_cons hk, List.take_append_drop]
  have hsnoc : (processAbove [] [] ((Text.lines document).take (k + 1))).result =
      ((tbl.expand line).mapError fun e => { e with line := k + 1 }).map (outs ++ [·]) := by
    have htext := Table.processLines_snoc_of_text habove hdef
    rw [hlength, Int.add_comm 1] at htext
    rw [List.take_add_one, hline]
    exact htext
  refine ⟨hsnoc, fun e herr => ?_, fun out hout => ?_⟩
  · -- the lines below the one that fails are not reached
    have hnames : ∀ d ∈ ([] : List (Text × Text)), isName d.1 = true := by simp
    rw [herr] at hsnoc
    have hall := Table.processLines_append_eq_error hsnoc ((Text.lines document).drop (k + 1))
    rw [List.take_append_drop] at hall
    rw [run_result hnames, Failure.map_eq_error_iff]
    exact hall
  · obtain ⟨-, hgives⟩ := lines_of_run_eq_ok (by simp) hout
    exact hgives _ _ _ hlines hdef

/-- **What the editor shows is what the expander would use.** Let the lines above
a line of the document be handled. At every position of the line the editor finds
the word that touches it, which is one that the expander looks up as a whole. For
the directive at the start of the line it shows what the directive is for; else it
shows something exactly if there is a word, and the table that the lines above
leave has a macro for it, which it then describes. The macro is the last
definition of the word above the line, and carries its number; what is shown for it
is its signature, its body as code, and this number, counted from 1. If the line is
no definition, it is under this table that it is expanded. -/
theorem hover_eq_lookup (document : Text) (k c : Nat) {line : Text} {outs : List Text}
    (hline : (Text.lines document)[k]? = some line)
    (habove : (processAbove [] [] ((Text.lines document).take k)).result = .ok outs) :
    let above := (Text.lines document).take k
    let tbl := (processAbove [] [] above).table
    ∃ before word after span, Touches line (min c line.length) before word after ∧
      wordAt line c = .ok span ∧
      span = ⟨before.length, (before.length + word.length : Nat)⟩ ∧
      Position.between span.start span.stop line = word ∧
      (span.start ≠ span.stop → Table.WordOf line word) ∧
      (word = "define".toList ∧ before = ['#'] →
        hover document k c = .ok (some ⟨directiveDescription, span⟩)) ∧
      (¬ (word = "define".toList ∧ before = ['#']) →
        (hover document k c = .ok none ↔ span.start = span.stop ∨ tbl.lookup word = none) ∧
        ∀ m, span.start ≠ span.stop → tbl.lookup word = some m →
          hover document k c = .ok (some ⟨describe m, span⟩)) ∧
      (∀ m, tbl.lookup word = some m → Definition.LastOf word above m ∧
        ∃ (j : Nat) (l : Text), j < k ∧ m.line = j + 1 ∧ above[j]? = some l ∧
          Definition.macro? l m.line = some m ∧
          describe m = "**".toList ++ m.signature ++ "**\n\n\x60\x60\x60\n".toList ++
            (if m.body = [] then [' '] else m.body) ++
            "\n\x60\x60\x60\n\n_defined at line ".toList ++ Text.decimal (j + 1) ++ ['_']) ∧
      (Definition.isDefinition line = false →
        (processAbove [] [] ((Text.lines document).take (k + 1))).result =
          ((tbl.expand line).mapError fun e => { e with line := k + 1 }).map (outs ++ [·]) ∧
        (∀ e, tbl.expand line = .error e →
          (run document [] []).result = .error { e with line := k + 1 }) ∧
        ∀ out, (run document [] []).result = .ok out → ∃ o, tbl.expand line = .ok o ∧
          (Text.lines out)[(Definition.textLines above).length]? = some o) := by
  intro above tbl
  obtain ⟨before, word, after, htouches, hspan⟩ := exists_wordAt_eq line c
  have htable : visibleAt document k = tbl :=
    (visibleAt_natCast document k).trans (Table.processLines_table habove).symm
  have hshown := hover_eq hline htouches hspan rfl rfl
  rw [htable] at hshown
  refine ⟨before, word, after, _, htouches, hspan, rfl, htouches.between_eq, fun hne => ?_, ?_,
    ?_, ?_, ?_⟩
  · exact htouches.wordOf (mt Touches.start_eq_stop_iff.2 hne)
  · rintro ⟨rfl, rfl⟩
    rw [hshown]
    rfl
  · intro hdirective
    rw [hshown, if_neg hdirective, Touches.start_eq_stop_iff]
    by_cases hword : word = []
    · simp [hword]
    · cases hlookup : tbl.lookup word <;> simp [hword]
  · intro m hm
    have hlast : Definition.LastOf word above m :=
      visible_eq_some_iff.1 ((lookup_processAbove (by simp) habove word).symm.trans hm)
    obtain ⟨j, l, hj, hnumber, hl, hmacro⟩ := hlast.exists_line
    refine ⟨hlast, j, l, hj.trans_le (List.length_take_le k _), hnumber, hl, hmacro, ?_⟩
    rw [describe, hnumber]
  · exact run_of_expand hline habove

/-- The position just behind a name that was redefined with a parameter. The line
fails further on, at a call that is not closed. -/
theorem hover_eq_lookup_redefined :
    let document := "#define k v\n#define k(x) <x>\na_k k(1) k(".toList
    let above := ["#define k v".toList, "#define k(x) <x>".toList]
    let m : Macro := { name := ['k'], parameters := [['x']], body := "<x>".toList, line := 2 }
    (Text.lines document)[2]? = some "a_k k(1) k(".toList ∧
      (processAbove [] [] above).result = .ok [] ∧
        hover document (2 : Nat) (5 : Nat) = .ok (some
          ⟨"**k(x)**\n\n\x60\x60\x60\n<x>\n\x60\x60\x60\n\n_defined at line 2_".toList, 4, 5⟩) ∧
          Definition.LastOf ['k'] above m ∧
            (run document [] []).result =
              .error { line := 3, column := 10, fault := .unclosedArguments ['k'] } := by
  have hline : (Text.lines "#define k v\n#define k(x) <x>\na_k k(1) k(".toList)[2]? =
      some "a_k k(1) k(".toList := by decide
  have htake : (Text.lines "#define k v\n#define k(x) <x>\na_k k(1) k(".toList).take 2 =
      ["#define k v".toList, "#define k(x) <x>".toList] := by decide
  have hok : (processAbove [] [] ["#define k v".toList, "#define k(x) <x>".toList]).result =
      .ok [] := by decide +kernel
  have hlookup : (processAbove [] []
      ["#define k v".toList, "#define k(x) <x>".toList]).table.lookup ['k'] =
        some { name := ['k'], parameters := [['x']], body := "<x>".toList, line := 2 } := by
    decide +kernel
  have hexp : (processAbove [] []
      ["#define k v".toList, "#define k(x) <x>".toList]).table.expand "a_k k(1) k(".toList =
        .error { column := 10, fault := .unclosedArguments ['k'] } := by decide +kernel
  have hat : wordAt "a_k k(1) k(".toList (5 : Nat) = .ok ⟨4, 5⟩ := by decide +kernel
  obtain ⟨before, word, after, span, -, hspan, -, hword, -, -, hshown, hlast, hexpand⟩ :=
    hover_eq_lookup "#define k v\n#define k(x) <x>\na_k k(1) k(".toList 2 5 hline (htake ▸ hok)
  rw [htake] at hshown hlast hexpand
  obtain rfl : span = ⟨4, 5⟩ := Except.ok.inj (hspan.symm.trans hat)
  obtain rfl : ['k'] = word := by rw [← hword]; decide
  have hdirective : ¬ (['k'] = "define".toList ∧ before = ['#']) := fun h =>
    absurd h.1 (by decide)
  have hhover := (hshown hdirective).2 _ (by decide) hlookup
  obtain ⟨hdefined, j, -, -, hnumber, -, -, hdescribed⟩ := hlast _ hlookup
  obtain rfl : 1 = j := by
    dsimp only at hnumber
    omega
  rw [hdescribed] at hhover
  exact ⟨hline, hok, hhover, hdefined, (hexpand (by decide)).2.1 _ hexp⟩

end Editor

end LineMacro
