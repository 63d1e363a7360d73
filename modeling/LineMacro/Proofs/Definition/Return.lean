import LineMacro.Proofs.Definition.Place
/-!
# Definition lines — with a carriage return at the end

A definition line is read as if the carriage return that it may end in were not
there (`read_append_return`): the return ends a name, stands in no parameter
list that is closed, and is dropped from the body before its backslashes are.
Only where a line holds nothing but blanks after the keyword does it count, as
one more blank before the name that is missing (`read_of_isNameless`).
-/

namespace LineMacro

namespace Definition

/-- Whether a line is the keyword with nothing but blanks after it. -/
def isNameless (line : Text) : Bool :=
  keyword.isPrefixOf line && (line.drop keyword.length).all Text.isBlank

variable {line rest t s : Text} {n : Int} {p : Char → Bool}

/-! ## More at the end of a text -/

/-- Where a class ends inside a text, it ends there whatever follows. -/
theorem takeWhile_append_of_ne_nil (h : t.dropWhile p ≠ []) :
    (t ++ s).takeWhile p = t.takeWhile p := by
  rw [List.takeWhile_append, if_neg]
  intro hlen
  have hall := congrArg List.length (List.takeWhile_append_dropWhile (p := p) (l := t))
  rw [List.length_append, hlen] at hall
  exact h (List.length_eq_zero_iff.1 (by omega))

theorem dropWhile_append_of_ne_nil (h : t.dropWhile p ≠ []) :
    (t ++ s).dropWhile p = t.dropWhile p ++ s := by
  rw [List.dropWhile_append, if_neg (by simpa using h)]

/-- A class that does not have the character goes on no further than before. -/
theorem takeWhile_concat_of_neg {c : Char} (h : p c = false) :
    (t ++ [c]).takeWhile p = t.takeWhile p := by
  induction t with
  | nil => simp [h]
  | cons d t ih => rw [List.cons_append, List.takeWhile_cons, List.takeWhile_cons, ih]

theorem dropWhile_concat_of_neg {c : Char} (h : p c = false) :
    (t ++ [c]).dropWhile p = t.dropWhile p ++ [c] := by
  induction t with
  | nil => simp [h]
  | cons d t ih =>
    rw [List.cons_append, List.dropWhile_cons, List.dropWhile_cons, ih]
    split <;> rfl

/-! ## A return at the end of a line -/

theorem isPrefixOf_append_return (line : Text) :
    keyword.isPrefixOf (line ++ ['\r']) = keyword.isPrefixOf line := by
  rw [Bool.eq_iff_iff, List.isPrefixOf_iff_prefix, List.isPrefixOf_iff_prefix,
    List.prefix_concat_iff, or_iff_right]
  -- the keyword does not end in a return itself
  intro heq
  have hmem : '\r' ∈ keyword := heq ▸ List.mem_append_right line List.mem_cons_self
  exact absurd hmem (by decide)

theorem isDefinition_append_return (line : Text) :
    isDefinition (line ++ ['\r']) = isDefinition line := by
  rw [isDefinition, isDefinition, isPrefixOf_append_return]
  cases hkey : keyword.isPrefixOf line with
  | false => rfl
  | true =>
    obtain ⟨rest, rfl⟩ := List.isPrefixOf_iff_prefix.1 hkey
    rw [List.append_assoc, List.drop_left, List.drop_left]
    cases rest <;> rfl

theorem isNameless_append_return (line : Text) :
    isNameless (line ++ ['\r']) = isNameless line := by
  rw [isNameless, isNameless, isPrefixOf_append_return]
  cases hkey : keyword.isPrefixOf line with
  | false => rfl
  | true =>
    obtain ⟨rest, rfl⟩ := List.isPrefixOf_iff_prefix.1 hkey
    rw [List.append_assoc, List.drop_left, List.drop_left, List.all_append]
    exact congrArg _ (Bool.and_true _)

theorem isDefinition_of_isNameless (h : isNameless line = true) : isDefinition line = true := by
  rw [isNameless, Bool.and_eq_true] at h
  rw [isDefinition, h.1, Bool.true_and, List.all_eq_true]
  exact fun c hc => List.all_eq_true.1 h.2 c (List.mem_of_mem_take hc)

/-! ## The parts of a line -/

theorem readParameters?_append_return (t : Text) :
    readParameters? (t ++ ['\r']) = (readParameters? t).map fun r => (r.1, r.2 ++ ['\r']) := by
  cases t with
  | nil => rfl
  | cons c t =>
    by_cases hc : c = '('
    · subst hc
      rw [List.cons_append, readParameters?, readParameters?]
      cases hdrop : t.dropWhile (· != ')') with
      | nil =>
        -- the list is not closed, and the return does not close it
        have hall : (t ++ ['\r']).dropWhile (· != ')') = [] := by
          rw [List.dropWhile_append, hdrop]
          rfl
        rw [hall]
        rfl
      | cons d rest =>
        have hne : t.dropWhile (· != ')') ≠ [] := hdrop ▸ List.cons_ne_nil d rest
        rw [takeWhile_append_of_ne_nil hne, dropWhile_append_of_ne_nil hne, hdrop]
        rfl
    · simp [readParameters?, hc]

/-- What is read after the parameters is the end of the text. -/
theorem suffix_of_readParameters? {ps : List Text} (h : readParameters? t = some (ps, s)) :
    s <:+ t := by
  unfold readParameters? at h
  split at h
  · split at h
    · cases h
    · rename_i u _ d rest hdrop
      obtain ⟨-, rfl⟩ := Prod.mk.inj (Option.some.inj h)
      have hsuffix : d :: rest <:+ u := hdrop ▸ List.dropWhile_suffix _
      exact ((List.suffix_cons _ _).trans hsuffix).trans (List.suffix_cons _ _)
  · obtain ⟨-, rfl⟩ := Prod.mk.inj (Option.some.inj h)
    exact List.suffix_refl _

theorem dropSpace_suffix (t : Text) : dropSpace t <:+ t := by
  unfold dropSpace
  split
  · exact List.suffix_cons _ _
  · exact List.suffix_refl _

theorem readBody_append_return (h : '\r' ∉ t) : readBody (t ++ ['\r']) = readBody t := by
  have hspace : dropSpace (t ++ ['\r']) = dropSpace t ++ ['\r'] := by
    cases t with
    | nil => rfl
    | cons c t => by_cases hc : c = ' ' <;> simp [dropSpace, hc]
  have hnone : (dropSpace t).getLast? ≠ some '\r' :=
    fun hlast => h ((dropSpace_suffix t).mem (List.mem_of_getLast? hlast))
  rw [readBody, readBody, hspace, dropReturn, dropReturn, List.getLast?_concat, if_pos rfl,
    if_neg hnone, List.dropLast_concat]

/-! ## The line -/

/-- **A line without a name** is refused one past its end. -/
theorem read_of_isNameless (h : isNameless line = true) :
    read line n = .error { line := n, column := line.length + 1, fault := .invalidName } := by
  rw [isNameless, Bool.and_eq_true] at h
  obtain ⟨hkey, hall⟩ := h
  obtain ⟨rest, rfl⟩ := List.isPrefixOf_iff_prefix.1 hkey
  rw [List.drop_left] at hall
  have htake : rest.takeWhile Text.isBlank = rest :=
    List.takeWhile_eq_self_iff.2 (List.all_eq_true.1 hall)
  have hdrop : rest.dropWhile Text.isBlank = [] :=
    List.dropWhile_eq_nil_iff.2 (List.all_eq_true.1 hall)
  simp only [read, List.drop_left, htake, hdrop, List.length_append]
  push_cast
  rfl

/-- **A return at the end of any other line** changes nothing. -/
theorem read_append_return (hdef : isDefinition line = true) (hname : isNameless line = false)
    (hline : '\r' ∉ line) : read (line ++ ['\r']) n = read line n := by
  obtain ⟨rest, rfl⟩ := exists_eq_append_of_isDefinition hdef
  have hne : rest.dropWhile Text.isBlank ≠ [] := by
    intro hnil
    have hkey : keyword.isPrefixOf (keyword ++ rest) = true :=
      List.isPrefixOf_iff_prefix.2 (List.prefix_append _ _)
    have hall : rest.all Text.isBlank = true :=
      List.all_eq_true.2 (List.dropWhile_eq_nil_iff.1 hnil)
    rw [isNameless, hkey, List.drop_left, hall] at hname
    cases hname
  have hnamePart : isNamePart '\r' = false := by decide
  have hsuffix : (rest.dropWhile Text.isBlank).dropWhile isNamePart <:+ keyword ++ rest :=
    ((List.dropWhile_suffix _).trans (List.dropWhile_suffix _)).trans (List.suffix_append _ _)
  simp only [read, List.append_assoc, List.drop_left, takeWhile_append_of_ne_nil hne,
    dropWhile_append_of_ne_nil hne, takeWhile_concat_of_neg hnamePart,
    dropWhile_concat_of_neg hnamePart, readParameters?_append_return]
  split
  · rfl
  · cases hread : readParameters? ((rest.dropWhile Text.isBlank).dropWhile isNamePart) with
    | none => rfl
    | some r =>
      obtain ⟨ps, t⟩ := r
      have ht : '\r' ∉ t := fun hmem =>
        hline (((suffix_of_readParameters? hread).trans hsuffix).mem hmem)
      simp only [Option.map_some, readBody_append_return ht]

end Definition

end LineMacro
