import LineMacro.Proofs.Definition.Parts
/-!
# Definition lines — the grammar

Which lines define a macro, which do not and where they fail, read off the parts of
a line (`Parts`) one phase after another: a name that is none, a parameter list that
is not closed, and otherwise a macro (`Front.read_eq_invalidName_iff`,
`Front.read_eq_unclosedParameters_iff`, `Front.exists_read_eq_ok`). No other failure
is possible, and a line that defines a macro is made of what was read and of the
characters that the grammar drops (`read_grammar`).
-/

namespace LineMacro

namespace Definition

variable {line blanks name rest list t space backslashes ending : Text} {n : Int} {m : Macro}

/-- A line fails at the place of the name exactly if no name stands there. -/
theorem Front.read_eq_invalidName_iff (h : Front line blanks name rest) :
    read line n = .error { line := n, column := 8 + blanks.length, fault := .invalidName } ↔
      isName name = false := by
  have hcolumn : (keyword.length + blanks.length + 1 : Int) = 8 + blanks.length := by
    change (7 + blanks.length + 1 : Int) = 8 + blanks.length
    omega
  rw [h.read_eq, hcolumn]
  split
  · rename_i hname
    refine iff_of_false (fun heq => ?_) (ne_false_of_eq_true hname)
    split at heq
    · cases heq
    · exact absurd (congrArg Failure.fault (Except.error.inj heq)) nofun
  · rename_i hname
    exact iff_of_true rfl (Bool.eq_false_iff.2 hname)

/-- Behind a name, it fails at the parenthesis exactly if the list is not closed. -/
theorem Front.read_eq_unclosedParameters_iff (h : Front line blanks name rest)
    (hname : isName name = true) :
    read line n = .error { line := n, column := 8 + blanks.length + name.length,
                           fault := .unclosedParameters name } ↔ Unclosed rest := by
  have hcolumn : (keyword.length + blanks.length + 1 + name.length : Int) =
      8 + blanks.length + name.length := by
    change (7 + blanks.length + 1 + name.length : Int) = 8 + blanks.length + name.length
    omega
  rw [h.read_eq, if_pos hname, hcolumn, ← readParameters?_eq_none_iff]
  cases readParameters? rest with
  | none => exact iff_of_true rfl rfl
  | some read => exact iff_of_false nofun nofun

/-- A line is put together from its parts, those that are dropped included. -/
theorem Front.line_eq_parts (h : Front line blanks name rest) {ps : List Text} {body : Text}
    (hlisted : Listed rest list ps t) (htail : Tail t space body backslashes ending) :
    line = keyword ++ (blanks ++ (name ++
      (list ++ (space ++ (body ++ (backslashes ++ ending)))))) := by
  rw [h.line_eq, hlisted.rest_eq, htail.eq]

/-- Behind a name and a list that is closed, a macro is read. -/
theorem Front.exists_read_eq_ok (h : Front line blanks name rest) (hname : isName name = true)
    (hclosed : ¬ Unclosed rest) (n : Int) :
    ∃ m list t space backslashes ending, read line n = .ok m ∧ m.name = name ∧ m.line = n ∧
      Listed rest list m.parameters t ∧ Tail t space m.body backslashes ending := by
  obtain ⟨list, ps, t, hlisted⟩ := (unclosed_or_listed rest).resolve_left hclosed
  obtain ⟨space, backslashes, ending, htail⟩ := exists_tail t
  refine ⟨{ name, parameters := ps, body := readBody t, line := n }, list, t, space, backslashes,
    ending, ?_, rfl, rfl, hlisted, htail⟩
  exact h.read_eq_ok_iff.2
    ⟨hname, rfl, rfl, list, t, space, backslashes, ending, hlisted, htail⟩

/-- **The grammar of definition lines.** Every definition line has a front. It fails at
column `8` and the blanks exactly if its name is empty, has a character that is none of
a word, or starts with `_`. If not, it fails at the parenthesis behind the name exactly
if that is not closed. If not, it defines a macro, and is the keyword, the blanks, the
name, the list, one space if there is one, the body, backslashes, and one carriage
return if there is one. -/
theorem read_grammar (hdef : isDefinition line = true) (n : Int) :
    (∃ blanks name rest, Front line blanks name rest) ∧
    ∀ blanks name rest, Front line blanks name rest →
      (read line n = .error { line := n, column := 8 + blanks.length, fault := .invalidName } ↔
        name = [] ∨ (∃ c ∈ name, Text.isWordChar c = false) ∨ name.head? = some '_') ∧
      (¬ (name = [] ∨ (∃ c ∈ name, Text.isWordChar c = false) ∨ name.head? = some '_') →
        (read line n = .error { line := n, column := 8 + blanks.length + name.length,
                                fault := .unclosedParameters name } ↔ Unclosed rest) ∧
        (¬ Unclosed rest → ∃ m list t space backslashes ending,
          read line n = .ok m ∧ m.name = name ∧ m.line = n ∧
          Listed rest list m.parameters t ∧ Tail t space m.body backslashes ending ∧
          line = keyword ++ (blanks ++ (name ++
            (list ++ (space ++ (m.body ++ (backslashes ++ ending)))))))) := by
  refine ⟨exists_front hdef, fun blanks name rest hfront =>
    ⟨hfront.read_eq_invalidName_iff.trans isName_eq_false_iff, fun hvalid => ?_⟩⟩
  rw [← isName_eq_false_iff, Bool.not_eq_false] at hvalid
  refine ⟨hfront.read_eq_unclosedParameters_iff hvalid, fun hclosed => ?_⟩
  obtain ⟨m, list, t, space, backslashes, ending, hread, hname, hline, hlisted, htail⟩ :=
    hfront.exists_read_eq_ok hvalid hclosed n
  exact ⟨m, list, t, space, backslashes, ending, hread, hname, hline, hlisted, htail,
    hfront.line_eq_parts hlisted htail⟩

/-- A wide blank before the name and a blank before a comma, in a list that is not
closed; and in one that is, before a body that is kept up to the last backslashes. -/
theorem read_grammar_wide_blank :
    Front "#define \u3000f$(a , ".toList " \u3000".toList "f$".toList "(a , ".toList ∧
    read "#define \u3000f$(a , ".toList 3 =
      .error { line := 3, column := 12, fault := .unclosedParameters "f$".toList } ∧
    Front "#define \u3000f$(a , )(x\\\r\\\\\r".toList " \u3000".toList "f$".toList
      "(a , )(x\\\r\\\\\r".toList ∧
    ∃ m, read "#define \u3000f$(a , )(x\\\r\\\\\r".toList 3 = .ok m ∧ m.name = "f$".toList ∧
      m.body = "(x\\\r".toList := by
  have hpart : ∀ c ∈ "f$".toList, c ≠ '(' ∧ Text.isBlank c = false := fun c hc =>
    isNamePart_iff.1 (List.all_eq_true.1 rfl c hc)
  have hvalid : ¬ isName "f$".toList = false := by decide
  have hopen : Front "#define \u3000f$(a , ".toList " \u3000".toList "f$".toList
      "(a , ".toList := by
    refine ⟨rfl, List.all_eq_true.1 rfl, ?_, hpart, ?_⟩
    · rintro c ⟨⟩
      rfl
    · rintro c ⟨⟩
      exact Or.inl rfl
  have hclosed : Front "#define \u3000f$(a , )(x\\\r\\\\\r".toList " \u3000".toList "f$".toList
      "(a , )(x\\\r\\\\\r".toList := by
    refine ⟨rfl, List.all_eq_true.1 rfl, ?_, hpart, ?_⟩
    · rintro c ⟨⟩
      rfl
    · rintro c ⟨⟩
      exact Or.inl rfl
  rw [isName_eq_false_iff] at hvalid
  have herror := ((read_grammar (by decide) 3).2 _ _ _ hopen).2 hvalid
  have hmacro := ((read_grammar (by decide) 3).2 _ _ _ hclosed).2 hvalid
  obtain ⟨m, list, t, space, backslashes, ending, hread, hname, -⟩ := hmacro.2 (by
    rintro ⟨inside, hinside, hnone⟩
    cases hinside
    exact hnone (by decide))
  refine ⟨hopen, herror.1.2 ⟨"a , ".toList, rfl, by decide⟩, hclosed, m, hread, hname, ?_⟩
  have hbody : read "#define \u3000f$(a , )(x\\\r\\\\\r".toList 3 =
      .ok { name := "f$".toList, parameters := ["a".toList, []], body := "(x\\\r".toList,
            line := 3 } := by decide
  rw [hread] at hbody
  exact congrArg Macro.body (Except.ok.inj hbody)

end Definition

end LineMacro
