import LineMacro.Proofs.Definition.Parts
/-!
# Definition lines — where reading stops

A definition line that defines nothing is reported at its name, or where its
name should stand, and if the name is one, at the parenthesis that opens a
parameter list without an end. The number of the line is only written down, on
the macro or on the failure (`read_eq_ok_at`, `read_eq_error_at`).
-/

namespace LineMacro

namespace Definition

variable {line t : Text} {e : Failure} {f : Fault} {n : Int} {k : Nat} {m : Macro}

/-- Why a definition line cannot be read, and after how many characters. -/
inductive StopsAt (line : Text) : Nat → Fault → Prop
  /-- What follows the blanks after the keyword does not start with a name. -/
  | invalidName {blanks rest : Text} :
      line = keyword ++ (blanks ++ rest) → (∀ c ∈ blanks, Text.isBlank c = true) →
      (∀ c ∈ rest.head?, Text.isBlank c = false) → isName (rest.takeWhile isNamePart) = false →
      StopsAt line (keyword ++ blanks).length .invalidName
  /-- No parenthesis closes the list that follows the name. -/
  | unclosedParameters {blanks name rest : Text} :
      line = keyword ++ (blanks ++ (name ++ '(' :: rest)) →
      (∀ c ∈ blanks, Text.isBlank c = true) → isName name = true → ')' ∉ rest →
      StopsAt line (keyword ++ blanks ++ name).length (.unclosedParameters name)

/-- Reading stops in the line or at its end. -/
theorem StopsAt.le_length (h : StopsAt line k f) : k ≤ line.length := by
  cases h with
  | invalidName hline =>
    rw [hline]
    simp only [List.length_append]
    omega
  | unclosedParameters hline =>
    rw [hline]
    simp only [List.length_append]
    omega

theorem requireName_eq_error {name : Text} {p : Place} (h : requireName name p = .error e) :
    isName name = false ∧ e = { p with fault := .invalidName } := by
  unfold requireName at h
  split at h
  · cases h
  · rename_i hn
    exact ⟨Bool.eq_false_iff.2 hn, (Except.error.inj h).symm⟩

theorem requireName_eq_ok {name name' : Text} {p : Place} (h : requireName name p = .ok name') :
    isName name = true ∧ name' = name := by
  unfold requireName at h
  split at h
  · rename_i hn
    exact ⟨hn, (Except.ok.inj h).symm⟩
  · cases h

/-! ## The number of a line -/

/-- A line defines the same macro wherever it stands, but for the number. -/
theorem read_eq_ok_at (h : read line n = .ok m) (n' : Int) :
    read line n' = .ok { m with line := n' } := by
  simp only [read] at h ⊢
  split at h
  · cases h
  · rename_i name hname
    obtain ⟨hvalid, rfl⟩ := requireName_eq_ok hname
    have hname' : ∀ p, requireName _ p = .ok _ := fun p => if_pos hvalid
    rw [hname']
    split at h
    · cases h
      rfl
    · cases h

/-- It fails alike wherever it stands, but for the number. -/
theorem read_eq_error_at (h : read line n = .error e) (n' : Int) :
    read line n' = .error { e with line := n' } := by
  simp only [read] at h ⊢
  split at h
  · rename_i e' hname
    obtain ⟨hinvalid, rfl⟩ := requireName_eq_error hname
    have hname' : ∀ p : Place, requireName _ p = .error { p with fault := .invalidName } :=
      fun p => if_neg (by rw [hinvalid]; decide)
    rw [hname']
    cases h
    rfl
  · rename_i name hname
    obtain ⟨hvalid, rfl⟩ := requireName_eq_ok hname
    have hname' : ∀ p, requireName _ p = .ok _ := fun p => if_pos hvalid
    rw [hname']
    split at h
    · cases h
    · cases h
      rfl

/-! ## The place of a failure -/

/-- **A failure to read a definition is placed**: it has the line's number, and
the column where reading stops. -/
theorem exists_stopsAt_of_error (hdef : isDefinition line = true) (h : read line n = .error e) :
    ∃ k, StopsAt line k e.fault ∧ e.line = n ∧ e.column = k + 1 := by
  obtain ⟨blanks, name, rest, hfront⟩ := exists_front hdef
  rw [hfront.read_eq] at h
  split at h
  · rename_i hname
    split at h
    · cases h
    · rename_i hnone
      cases h
      obtain ⟨inside, rfl, hopen⟩ := readParameters?_eq_none_iff.1 hnone
      refine ⟨_, .unclosedParameters hfront.line_eq hfront.blank hname hopen, rfl, ?_⟩
      simp only [List.length_append]
      push_cast
      omega
  · rename_i hname
    cases h
    rw [Bool.not_eq_true, ← hfront.takeWhile_eq] at hname
    refine ⟨_, .invalidName hfront.line_eq hfront.blank hfront.blanks_end hname, rfl, ?_⟩
    simp only [List.length_append]
    push_cast
    rfl

end Definition

end LineMacro
