import LineMacro.Proofs.Definition.Characters
import LineMacro.Proofs.Text.Padding
/-!
# Definition lines — reading what is written

The line that a macro writes is read back as that macro, if the macro can be
written at all (`Macro.Writable`): its name is one, its parameters are trimmed and
free of the characters that end them, and its body does not end in what is dropped
at the end of a line (`read_definition`). All that a line can define is of this
kind, but for a body that ends in a carriage return (`read_definition_inverse`).
-/

namespace LineMacro

/-- A macro of which nothing is lost on the line that defines it. -/
structure Macro.Writable (m : Macro) : Prop where
  isName : isName m.name = true
  /-- A list of one empty parameter would be blank. -/
  notBlank : m.parameters ≠ [[]]
  parameter : ∀ p ∈ m.parameters, Text.trim p = p ∧ ',' ∉ p ∧ ')' ∉ p
  /-- The body ends in nothing that would be dropped at the end of a line. -/
  noReturn : m.body.getLast? ≠ some '\r'
  noBackslash : m.body.getLast? ≠ some '\\'

namespace Definition

variable {line name rest list inside body t p : Text} {ps : List Text} {n : Int} {c : Char}
variable {m : Macro}

/-! ## Names -/

/-- What a name is made of, a reader takes for one. -/
theorem part_of_isName (h : isName name = true) (hc : c ∈ name) :
    c ≠ '(' ∧ Text.isBlank c = false := by
  have hword := isWordChar_of_isName h hc
  refine ⟨?_, Text.isBlank_of_isWordChar hword⟩
  rintro rfl
  exact absurd hword (by decide)

/-- No blank comes before the end of a name. -/
theorem isBlank_of_mem_head?_name (h : isName name = true) (hc : c ∈ (name ++ rest).head?) :
    Text.isBlank c = false := by
  obtain ⟨d, name, rfl⟩ := List.exists_cons_of_ne_nil (ne_nil_of_isName h)
  obtain rfl : d = c := Option.some.inj hc
  exact Text.isBlank_of_isWordChar (isWordChar_of_isName h List.mem_cons_self)

/-! ## Parameters -/

/-- Parameters are written with a comma between them, and a space before each but
the first. -/
theorem intercalate_comma_space (p : Text) (ps : List Text) :
    [',', ' '].intercalate (p :: ps) = [','].intercalate (p :: ps.map (' ' :: ·)) := by
  induction ps generalizing p with
  | nil => rw [List.map_nil, List.intercalate_singleton, List.intercalate_singleton]
  | cons q ps ih =>
    rw [List.intercalate_cons_cons, ih, List.map_cons, List.intercalate_cons_cons,
      List.intercalate_cons_cons_left]
    simp

theorem pads_cons_map (p : Text) (ps : List Text) :
    List.Forall₂ Text.Pads (p :: ps) (p :: ps.map (' ' :: ·)) :=
  .cons (Text.pads_self p)
    (List.forall₂_map_right_iff.2 (List.forall₂_same.2 fun q _ => Text.pads_cons_space q))

/-- A character of a joined list stands between its texts or in one of them. -/
theorem mem_intercalate (h : c ∈ [','].intercalate ps) : c = ',' ∨ ∃ p ∈ ps, c ∈ p := by
  induction ps with
  | nil => exact absurd h (by simp)
  | cons p ps ih =>
    by_cases hps : ps = []
    · subst hps
      rw [List.intercalate_singleton] at h
      exact Or.inr ⟨p, List.mem_cons_self, h⟩
    · rw [List.intercalate_cons_of_ne_nil hps, List.append_assoc, List.mem_append,
        List.mem_append, List.mem_singleton] at h
      rcases h with h | h | h
      · exact Or.inr ⟨p, List.mem_cons_self, h⟩
      · exact Or.inl h
      · exact (ih h).imp_right fun ⟨q, hq, hc⟩ => ⟨q, List.mem_cons_of_mem p hq, hc⟩

/-- **Parameters are read back** from between parentheses. -/
theorem listed_intercalate (hsingle : p :: ps ≠ [[]])
    (hparameter : ∀ q ∈ p :: ps, Text.trim q = q ∧ ',' ∉ q ∧ ')' ∉ q) (t : Text) :
    Listed ('(' :: ([',', ' '].intercalate (p :: ps) ++ ')' :: t))
      ('(' :: ([',', ' '].intercalate (p :: ps) ++ [')'])) (p :: ps) t := by
  have htrimmed : ∀ q ∈ p :: ps, Text.trim q = q := fun q hq => (hparameter q hq).1
  have hpads := pads_cons_map p ps
  have hpadded : ∀ q ∈ p :: ps.map (' ' :: ·), ',' ∉ q ∧ ')' ∉ q := by
    refine List.forall_mem_cons.2 ⟨(hparameter p List.mem_cons_self).2, fun q hq => ?_⟩
    obtain ⟨r, hr, rfl⟩ := List.mem_map.1 hq
    have hnone := (hparameter r (List.mem_cons_of_mem p hr)).2
    simpa using hnone
  rw [intercalate_comma_space]
  have hclose : ')' ∉ [','].intercalate (p :: ps.map (' ' :: ·)) := by
    intro hmem
    rcases mem_intercalate hmem with h | ⟨q, hq, hc⟩
    · cases h
    · exact (hpadded q hq).2 hc
  have hsome := Text.exists_not_blank_of_pads hpads htrimmed (List.cons_ne_nil p ps) hsingle
  have hlisted := Listed.pieces (t := t) hclose hsome
  rwa [List.splitOn_intercalate ',' (fun q hq => (hpadded q hq).1) (List.cons_ne_nil _ _),
    Text.map_trim_of_pads hpads htrimmed] at hlisted

/-- **The signature is a name and a parameter list**, and the list is read as the
parameters of the macro. -/
theorem exists_listed_signature (hsingle : m.parameters ≠ [[]])
    (hparameter : ∀ p ∈ m.parameters, Text.trim p = p ∧ ',' ∉ p ∧ ')' ∉ p) (t : Text) :
    ∃ list, m.signature = m.name ++ list ∧
      Listed (list ++ ' ' :: t) list m.parameters (' ' :: t) := by
  cases hps : m.parameters with
  | nil =>
    refine ⟨[], ?_, .absent ?_⟩
    · rw [Macro.signature, if_neg (by rw [Macro.isParameterized_iff, hps]; simp), List.append_nil]
    · rintro c ⟨⟩
      decide
  | cons p ps =>
    rw [hps] at hsingle hparameter
    have hlisted := listed_intercalate hsingle hparameter (' ' :: t)
    refine ⟨'(' :: ([',', ' '].intercalate (p :: ps) ++ [')']), ?_, ?_⟩
    · rw [Macro.signature, if_pos (Macro.isParameterized_iff.2 (by rw [hps]; simp)), hps]
    · simpa using hlisted

/-- **What a list gives can be written as a list.** -/
theorem Listed.parameter (h : Listed rest list ps t) :
    ps ≠ [[]] ∧ ∀ p ∈ ps, Text.trim p = p ∧ ',' ∉ p ∧ ')' ∉ p := by
  cases h with
  | absent => exact ⟨by simp, nofun⟩
  | blank => exact ⟨by simp, nofun⟩
  | @pieces inside t hclose hblank =>
    refine ⟨map_trim_splitOn_ne hblank, fun p hp => ?_⟩
    have hinside : p ⊆ inside :=
      subset_of_mem_parameters (by rwa [parameters_of_not_blank hblank])
    obtain ⟨piece, hpiece, rfl⟩ := List.mem_map.1 hp
    obtain ⟨lead, trail, hpad, -, -⟩ := Text.exists_trim_append piece
    refine ⟨Text.trim_trim piece, fun hcomma => ?_, fun hmem => hclose (hinside hmem)⟩
    refine Text.not_mem_of_mem_splitOn hpiece ?_
    rw [hpad]
    simp [hcomma]

/-! ## Bodies -/

/-- A body is read back if it ends in nothing that is dropped there. -/
theorem readBody_cons_space_iff :
    readBody (' ' :: body) = body ↔
      body.getLast? ≠ some '\r' ∧ body.getLast? ≠ some '\\' := by
  constructor
  · intro h
    obtain ⟨space, backslashes, ending, htail⟩ := exists_tail (' ' :: body)
    rw [h] at htail
    have hspace : space = [' '] := htail.space_eq
    have hnothing : backslashes ++ ending = [] := by
      have heq := htail.eq
      rw [hspace] at heq
      simpa using heq
    obtain ⟨rfl, rfl⟩ := List.append_eq_nil_iff.1 hnothing
    refine ⟨fun hreturn => ?_, htail.body_ends⟩
    have hending := htail.ending_eq
    rw [List.append_nil, List.append_nil, if_pos hreturn] at hending
    cases hending
  · rintro ⟨hreturn, hbackslash⟩
    have htail : Tail (' ' :: body) [' '] body [] [] := by
      refine ⟨by simp, rfl, ?_, nofun, hbackslash⟩
      rw [List.append_nil, List.append_nil, if_neg hreturn]
    exact htail.readBody_eq

/-! ## The line that a macro writes -/

theorem isDefinition_definition (m : Macro) : isDefinition m.definition = true := by
  have hkey : keyword.isPrefixOf m.definition = true :=
    List.isPrefixOf_iff_prefix.2 (List.prefix_append _ _)
  rw [isDefinition, hkey, Macro.definition, List.drop_left]
  rfl

/-- **The line of a macro is read** with the name and the parameters of the macro. -/
theorem read_definition_eq (hname : isName m.name = true) (hsingle : m.parameters ≠ [[]])
    (hparameter : ∀ p ∈ m.parameters, Text.trim p = p ∧ ',' ∉ p ∧ ')' ∉ p) (n : Int) :
    read m.definition n = .ok { m with body := readBody (' ' :: m.body), line := n } := by
  obtain ⟨list, hsignature, hlisted⟩ := exists_listed_signature hsingle hparameter m.body
  have hfront : Front m.definition [' '] m.name (list ++ ' ' :: m.body) := by
    refine ⟨?_, List.forall_mem_singleton.2 rfl, fun c => isBlank_of_mem_head?_name hname,
      fun c => part_of_isName hname, fun c hc => ?_⟩
    · simp [Macro.definition, hsignature]
    · rcases hlisted.mem_head? hc with hopen | hspace
      · exact Or.inl hopen
      · obtain rfl : ' ' = c := Option.some.inj hspace
        exact Or.inr rfl
  rw [hfront.read_eq, if_pos hname, hlisted.read_eq]

/-- **A macro is read back** off the line that it writes, with the number of the
line. -/
theorem read_definition (h : m.Writable) (n : Int) :
    read m.definition n = .ok { m with line := n } := by
  rw [read_definition_eq h.isName h.notBlank h.parameter,
    readBody_cons_space_iff.2 ⟨h.noReturn, h.noBackslash⟩]

/-- **What is read can be written**, but for a return at the end of the body. -/
theorem writable_of_read (hdef : isDefinition line = true) (h : read line n = .ok m)
    (hreturn : m.body.getLast? ≠ some '\r') : m.Writable := by
  obtain ⟨blanks, name, rest, hfront⟩ := exists_front hdef
  obtain ⟨hname, rfl, -, list, t, space, backslashes, ending, hlisted, htail⟩ :=
    hfront.read_eq_ok_iff.1 h
  exact ⟨hname, hlisted.parameter.1, hlisted.parameter.2, hreturn, htail.body_ends⟩

/-- **Reading undoes writing, and writing what was read loses nothing.** A macro that
can be written is read back off its line. A macro that was read off any line is read
back off its own, exactly if its body does not end in a carriage return. -/
theorem read_definition_inverse :
    (∀ (m : Macro) (n : Int), m.Writable →
      isDefinition m.definition = true ∧ read m.definition n = .ok { m with line := n }) ∧
    ∀ (line : Text) (n : Int) (m : Macro), isDefinition line = true → read line n = .ok m →
      (read m.definition n = .ok m ↔ m.body.getLast? ≠ some '\r') := by
  refine ⟨fun m n h => ⟨isDefinition_definition m, read_definition h n⟩,
    fun line n m hdef h => ⟨fun hback hreturn => ?_, fun hreturn => ?_⟩⟩
  · obtain ⟨blanks, name, rest, hfront⟩ := exists_front hdef
    obtain ⟨hname, rfl, rfl, list, t, space, backslashes, ending, hlisted, -⟩ :=
      hfront.read_eq_ok_iff.1 h
    rw [read_definition_eq hname hlisted.parameter.1 hlisted.parameter.2] at hback
    have hbody : readBody (' ' :: m.body) = m.body := congrArg Macro.body (Except.ok.inj hback)
    exact (readBody_cons_space_iff.1 hbody).1 hreturn
  · have hwritable := writable_of_read hdef h hreturn
    have hline : m.line = n := (read_eq_ok h).2.1
    rw [read_definition hwritable, ← hline]

/-- A parameter that opens a parenthesis, and a body that starts with a space and goes
on like a list; and a line with a return and backslashes inside the body and at the end
of it. -/
theorem read_definition_inverse_parameters :
    read (Macro.definition { name := "$f".toList, parameters := ["a".toList, [], "x (y".toList],
                             body := " (z) \\ w".toList, line := 0 }) 7 =
      .ok { name := "$f".toList, parameters := ["a".toList, [], "x (y".toList],
            body := " (z) \\ w".toList, line := 7 } ∧
    read (Macro.definition { name := "g".toList, parameters := [[], "b".toList],
                             body := "b\r\\\r\\x".toList, line := 4 }) 4 =
      .ok { name := "g".toList, parameters := [[], "b".toList], body := "b\r\\\r\\x".toList,
            line := 4 } := by
  constructor
  · refine (read_definition_inverse.1 _ 7 ⟨by decide, by decide, ?_, by decide, by decide⟩).2
    decide
  · exact (read_definition_inverse.2 "#define\tg(\u2003, b )b\r\\\r\\x\\\\\r".toList 4 _
      (by decide) (by decide)).2 (by decide)

end Definition

end LineMacro
