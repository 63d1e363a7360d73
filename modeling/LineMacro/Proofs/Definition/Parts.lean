import LineMacro.Definition
import Mathlib.Data.List.TakeWhile
/-!
# Definition lines — the parts of a line

A definition line falls into its parts in one way only: the keyword, blanks and
what stands for a name (`Front`), a parameter list (`Listed`), and a body between
one space and what is dropped from its end (`Tail`). None of the three is said
with the reader, and each is what the reader finds: `Front.read_eq`,
`readParameters?_eq_some_iff` and `Tail.readBody_eq`, and together
`Front.read_eq_ok_iff`.
-/

namespace LineMacro

namespace Definition

/-- The front of a definition line: all the blanks after the keyword, and the
longest stretch after them that a name could be. -/
structure Front (line blanks name rest : Text) : Prop where
  line_eq : line = keyword ++ (blanks ++ (name ++ rest))
  blank : ∀ c ∈ blanks, Text.isBlank c = true
  blanks_end : ∀ c ∈ (name ++ rest).head?, Text.isBlank c = false
  part : ∀ c ∈ name, c ≠ '(' ∧ Text.isBlank c = false
  name_ends : ∀ c ∈ rest.head?, c = '(' ∨ Text.isBlank c = true

/-- What follows a name starts with a parameter list, given as it is written and as
the parameters in it, and goes on with the last text. -/
inductive Listed : Text → Text → List Text → Text → Prop
  /-- There is no list, and no parameters. -/
  | absent {rest : Text} : (∀ c ∈ rest.head?, c ≠ '(') → Listed rest [] [] rest
  /-- The list is blank up to the first closing parenthesis. -/
  | blank {inside t : Text} : (∀ c ∈ inside, Text.isBlank c = true) →
      Listed ('(' :: (inside ++ ')' :: t)) ('(' :: (inside ++ [')'])) [] t
  /-- The list is cut at all its commas, and each piece is trimmed. -/
  | pieces {inside t : Text} : ')' ∉ inside → (∃ c ∈ inside, Text.isBlank c = false) →
      Listed ('(' :: (inside ++ ')' :: t)) ('(' :: (inside ++ [')']))
        ((inside.splitOn ',').map Text.trim) t

/-- A parameter list starts here and is not closed. -/
def Unclosed (rest : Text) : Prop := ∃ inside, rest = '(' :: inside ∧ ')' ∉ inside

/-- The end of a definition line: one space if there is one, the body, the
backslashes after it, and one carriage return if there is one. -/
structure Tail (t space body backslashes ending : Text) : Prop where
  eq : t = space ++ (body ++ (backslashes ++ ending))
  space_eq : space = if t.head? = some ' ' then [' '] else []
  ending_eq :
    ending = if (body ++ (backslashes ++ ending)).getLast? = some '\r' then ['\r'] else []
  backslash : ∀ c ∈ backslashes, c = '\\'
  /-- All backslashes at the end are taken. -/
  body_ends : body.getLast? ≠ some '\\'

variable {line blanks name rest t s inside list body space backslashes ending : Text}
variable {ps : List Text} {n : Int} {c : Char} {m : Macro}

/-! ## Names -/

theorem isNamePart_iff : isNamePart c = true ↔ c ≠ '(' ∧ Text.isBlank c = false := by
  rw [isNamePart, Bool.and_eq_true, bne_iff_ne, Bool.not_eq_true']

theorem isNamePart_eq_false_iff : isNamePart c = false ↔ c = '(' ∨ Text.isBlank c = true := by
  rw [← Bool.not_eq_true, isNamePart_iff, not_and_or, not_not, Bool.not_eq_false]

/-- What keeps a text from being a name. -/
theorem isName_eq_false_iff :
    isName name = false ↔
      name = [] ∨ (∃ c ∈ name, Text.isWordChar c = false) ∨ name.head? = some '_' := by
  cases name with
  | nil => exact iff_of_true rfl (Or.inl rfl)
  | cons c name =>
    rw [isName, Bool.and_eq_false_iff, List.all_eq_false, bne_eq_false_iff_eq, List.head?_cons,
      Option.some_inj]
    simp only [Bool.not_eq_true, reduceCtorEq, false_or]
    exact or_comm

/-! ## The front -/

/-- A definition line starts with the keyword. -/
theorem exists_eq_append_of_isDefinition (h : isDefinition line = true) :
    ∃ rest, line = keyword ++ rest := by
  rw [isDefinition, Bool.and_eq_true] at h
  obtain ⟨rest, hrest⟩ := List.isPrefixOf_iff_prefix.1 h.1
  exact ⟨rest, hrest.symm⟩

/-- The front of a definition line, found by taking all that can be taken. -/
theorem exists_front (h : isDefinition line = true) :
    ∃ blanks name rest, Front line blanks name rest := by
  obtain ⟨after, rfl⟩ := exists_eq_append_of_isDefinition h
  refine ⟨after.takeWhile Text.isBlank, (after.dropWhile Text.isBlank).takeWhile isNamePart,
    (after.dropWhile Text.isBlank).dropWhile isNamePart, ?_, ?_, ?_, ?_, ?_⟩
  · rw [List.takeWhile_append_dropWhile, List.takeWhile_append_dropWhile]
  · exact List.all_eq_true.1 List.all_takeWhile
  · rw [List.takeWhile_append_dropWhile]
    exact fun c hc => Text.eq_false_of_mem_head?_dropWhile hc
  · exact fun c hc => isNamePart_iff.1 (List.all_eq_true.1 List.all_takeWhile c hc)
  · exact fun c hc => isNamePart_eq_false_iff.1 (Text.eq_false_of_mem_head?_dropWhile hc)

theorem Front.takeWhile_eq (h : Front line blanks name rest) :
    (name ++ rest).takeWhile isNamePart = name :=
  Text.takeWhile_append_of_ends (fun c hc => isNamePart_iff.2 (h.part c hc))
    fun c hc => isNamePart_eq_false_iff.2 (h.name_ends c hc)

theorem Front.dropWhile_eq (h : Front line blanks name rest) :
    (name ++ rest).dropWhile isNamePart = rest :=
  Text.dropWhile_append_of_ends (fun c hc => isNamePart_iff.2 (h.part c hc))
    fun c hc => isNamePart_eq_false_iff.2 (h.name_ends c hc)

/-- **A line is read part by part**: the name first, then what follows it. -/
theorem Front.read_eq (h : Front line blanks name rest) (n : Int) :
    read line n =
      if isName name = true then
        match readParameters? rest with
        | some (ps, t) => .ok { name, parameters := ps, body := readBody t, line := n }
        | none => .error { line := n, column := keyword.length + blanks.length + 1 + name.length,
                           fault := .unclosedParameters name }
      else .error { line := n, column := keyword.length + blanks.length + 1,
                    fault := .invalidName } := by
  simp only [read, h.line_eq, List.drop_left, Text.takeWhile_append_of_ends h.blank h.blanks_end,
    Text.dropWhile_append_of_ends h.blank h.blanks_end, h.takeWhile_eq, h.dropWhile_eq,
    requireName]
  by_cases hname : isName name = true
  · simp only [hname, if_true]
    rfl
  · simp only [hname]
    rfl

/-! ## The parameter list -/

theorem readParameters?_of_closed (h : ')' ∉ inside) :
    readParameters? ('(' :: (inside ++ ')' :: t)) = some (parameters inside, t) := by
  have hinside : ∀ c ∈ inside, (c != ')') = true := fun c hc => by
    rw [bne_iff_ne]
    rintro rfl
    exact h hc
  have hclose : ∀ c ∈ (')' :: t).head?, (c != ')') = false := by
    rintro c ⟨⟩
    rfl
  rw [readParameters?, Text.takeWhile_append_of_ends hinside hclose,
    Text.dropWhile_append_of_ends hinside hclose]

theorem readParameters?_of_head?_ne (h : ∀ c ∈ rest.head?, c ≠ '(') :
    readParameters? rest = some ([], rest) := by
  cases rest with
  | nil => rfl
  | cons c rest =>
    have hc : c ≠ '(' := h c rfl
    simp [readParameters?, hc]

/-- Blanks between parentheses are no parameter. -/
theorem parameters_of_blank (h : ∀ c ∈ inside, Text.isBlank c = true) : parameters inside = [] := by
  have hcomma : ',' ∉ inside := fun hmem => absurd (h _ hmem) (by decide)
  have htrim : Text.trim inside = [] := by
    have hpad : Text.trim (inside ++ [] ++ []) = [] :=
      Text.trim_append_of_blanks h nofun (by simp) (by simp)
    simpa using hpad
  rw [parameters, List.splitOn_eq_singleton hcomma, List.map_singleton, htrim]
  rfl

/-- Anything else between them has a piece that is not blank. -/
theorem map_trim_splitOn_ne (h : ∃ c ∈ inside, Text.isBlank c = false) :
    (inside.splitOn ',').map Text.trim ≠ [[]] := by
  intro hnil
  obtain ⟨piece, hpiece, htrim⟩ := List.map_eq_singleton_iff.1 hnil
  -- the only piece is the whole inside, and trimming leaves nothing of it
  have hjoin : [','].intercalate (inside.splitOn ',') = inside := List.intercalate_splitOn ','
  rw [hpiece, List.intercalate_singleton] at hjoin
  obtain ⟨c, hc, hblank⟩ := h
  obtain ⟨lead, trail, hpad, hlead, htrail⟩ := Text.exists_trim_append piece
  rw [htrim, List.append_nil] at hpad
  rw [← hjoin, hpad] at hc
  have hall := (List.mem_append.1 hc).elim (hlead c) (htrail c)
  rw [hall] at hblank
  cases hblank

theorem parameters_of_not_blank (h : ∃ c ∈ inside, Text.isBlank c = false) :
    parameters inside = (inside.splitOn ',').map Text.trim := by
  rw [parameters, if_neg (map_trim_splitOn_ne h)]

theorem Listed.rest_eq (h : Listed rest list ps t) : rest = list ++ t := by
  cases h <;> simp

theorem Listed.mem_head? (h : Listed rest list ps t) (hc : c ∈ rest.head?) :
    c = '(' ∨ c ∈ t.head? := by
  cases h with
  | absent => exact Or.inr hc
  | blank => exact Or.inl (Option.some.inj hc).symm
  | pieces => exact Or.inl (Option.some.inj hc).symm

theorem Listed.read_eq (h : Listed rest list ps t) : readParameters? rest = some (ps, t) := by
  cases h with
  | absent hhead => exact readParameters?_of_head?_ne hhead
  | @blank inside t hblank =>
    have hclose : ')' ∉ inside := fun hmem => absurd (hblank _ hmem) (by decide)
    rw [readParameters?_of_closed hclose, parameters_of_blank hblank]
  | pieces hclose hblank => rw [readParameters?_of_closed hclose, parameters_of_not_blank hblank]

theorem Unclosed.read_eq (h : Unclosed rest) : readParameters? rest = none := by
  obtain ⟨inside, rfl, hopen⟩ := h
  have hall : inside.dropWhile (· != ')') = [] := by
    rw [List.dropWhile_eq_nil_iff]
    intro c hc
    rw [bne_iff_ne]
    rintro rfl
    exact hopen hc
  rw [readParameters?, hall]

theorem unclosed_or_listed (rest : Text) : Unclosed rest ∨ ∃ list ps t, Listed rest list ps t := by
  cases rest with
  | nil => exact Or.inr ⟨[], [], [], .absent nofun⟩
  | cons c rest =>
    by_cases hc : c = '('
    · subst hc
      by_cases hclose : ')' ∈ rest
      · obtain ⟨inside, t, rfl, hinside⟩ := List.eq_append_cons_of_mem hclose
        by_cases hblank : ∀ c ∈ inside, Text.isBlank c = true
        · exact Or.inr ⟨_, _, t, .blank hblank⟩
        · have hsome : ∃ c ∈ inside, Text.isBlank c = false := by
            simpa using hblank
          exact Or.inr ⟨_, _, t, .pieces hinside hsome⟩
      · exact Or.inl ⟨rest, rfl, hclose⟩
    · have hhead : ∀ d ∈ (c :: rest).head?, d ≠ '(' := by
        rintro d ⟨⟩
        exact hc
      exact Or.inr ⟨[], [], c :: rest, .absent hhead⟩

/-- **The parameters that are read** are those of the list. -/
theorem readParameters?_eq_some_iff :
    readParameters? rest = some (ps, t) ↔ ∃ list, Listed rest list ps t := by
  constructor
  · intro h
    rcases unclosed_or_listed rest with hopen | ⟨list, ps', t', hlisted⟩
    · rw [hopen.read_eq] at h
      cases h
    · rw [hlisted.read_eq] at h
      cases h
      exact ⟨list, hlisted⟩
  · rintro ⟨list, h⟩
    exact h.read_eq

/-- **They cannot be read** where a list is not closed, and nowhere else. -/
theorem readParameters?_eq_none_iff : readParameters? rest = none ↔ Unclosed rest := by
  refine ⟨fun h => ?_, Unclosed.read_eq⟩
  rcases unclosed_or_listed rest with hopen | ⟨list, ps, t, hlisted⟩
  · exact hopen
  · rw [hlisted.read_eq] at h
    cases h

/-! ## The body -/

theorem space_append_dropSpace (t : Text) :
    (if t.head? = some ' ' then [' '] else []) ++ dropSpace t = t := by
  cases t with
  | nil => rfl
  | cons c t => by_cases hc : c = ' ' <;> simp [dropSpace, hc]

theorem dropReturn_append_return (t : Text) :
    dropReturn t ++ (if t.getLast? = some '\r' then ['\r'] else []) = t := by
  unfold dropReturn
  split
  · rename_i hlast
    obtain ⟨u, rfl⟩ := List.getLast?_eq_some_iff.1 hlast
    rw [List.dropLast_concat]
  · exact List.append_nil t

/-- Every text is the end of a definition line, with the body that is read. -/
theorem exists_tail (t : Text) :
    ∃ space backslashes ending, Tail t space (readBody t) backslashes ending := by
  have hspace := space_append_dropSpace t
  have hreturn := dropReturn_append_return (dropSpace t)
  have hbody := Text.dropTrailing_append (· == '\\') (dropReturn (dropSpace t))
  rw [← hbody, List.append_assoc] at hreturn
  refine ⟨if t.head? = some ' ' then [' '] else [],
    ((dropReturn (dropSpace t)).reverse.takeWhile (· == '\\')).reverse,
    if (dropSpace t).getLast? = some '\r' then ['\r'] else [], ?_, rfl, ?_, ?_, ?_⟩
  · rw [readBody, hreturn, hspace]
  · rw [readBody, hreturn]
  · intro c hc
    exact eq_of_beq (List.all_eq_true.1 List.all_takeWhile c (List.mem_reverse.1 hc))
  · intro hlast
    rw [readBody, Text.dropTrailing, List.getLast?_reverse] at hlast
    exact absurd (Text.eq_false_of_mem_head?_dropWhile hlast) (by decide)

/-- **The body that is read** is the one between them. -/
theorem Tail.readBody_eq (h : Tail t space body backslashes ending) : readBody t = body := by
  -- each reader drops what is there to drop, so what it leaves is fixed by the whole
  have hspace : space ++ dropSpace t = space ++ (body ++ (backslashes ++ ending)) :=
    calc
      space ++ dropSpace t = (if t.head? = some ' ' then [' '] else []) ++ dropSpace t :=
        congrArg (· ++ dropSpace t) h.space_eq
      _ = t := space_append_dropSpace t
      _ = space ++ (body ++ (backslashes ++ ending)) := h.eq
  have hdropped := List.append_cancel_left hspace
  have hreturn : dropReturn (body ++ (backslashes ++ ending)) ++ ending =
      body ++ backslashes ++ ending :=
    calc
      dropReturn (body ++ (backslashes ++ ending)) ++ ending =
          dropReturn (body ++ (backslashes ++ ending)) ++
            if (body ++ (backslashes ++ ending)).getLast? = some '\r' then ['\r'] else [] :=
        congrArg (dropReturn (body ++ (backslashes ++ ending)) ++ ·) h.ending_eq
      _ = body ++ (backslashes ++ ending) := dropReturn_append_return _
      _ = body ++ backslashes ++ ending := (List.append_assoc _ _ _).symm
  have hshort := List.append_cancel_right hreturn
  have hbackslash : ∀ c ∈ backslashes, (c == '\\') = true :=
    fun c hc => beq_iff_eq.2 (h.backslash c hc)
  have hends : ∀ c ∈ body.getLast?, (c == '\\') = false := by
    intro c hc
    rw [beq_eq_false_iff_ne]
    rintro rfl
    exact h.body_ends hc
  rw [readBody, hdropped, hshort, Text.dropTrailing_append_of_ends hbackslash hends]

/-! ## The whole line -/

/-- **What a line defines** is put together from its parts. -/
theorem Front.read_eq_ok_iff (h : Front line blanks name rest) :
    read line n = .ok m ↔ isName name = true ∧ m.name = name ∧ m.line = n ∧
      ∃ list t space backslashes ending, Listed rest list m.parameters t ∧
        Tail t space m.body backslashes ending := by
  rw [h.read_eq]
  constructor
  · intro hread
    split at hread
    · rename_i hname
      split at hread
      · rename_i ps t hparameters
        cases hread
        obtain ⟨list, hlisted⟩ := readParameters?_eq_some_iff.1 hparameters
        obtain ⟨space, backslashes, ending, htail⟩ := exists_tail t
        exact ⟨hname, rfl, rfl, list, t, space, backslashes, ending, hlisted, htail⟩
      · cases hread
    · cases hread
  · rintro ⟨hname, rfl, rfl, list, t, space, backslashes, ending, hlisted, htail⟩
    rw [if_pos hname, hlisted.read_eq]
    dsimp only
    rw [htail.readBody_eq]

end Definition

end LineMacro
