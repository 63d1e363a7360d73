import LineMacro.Proofs.Arguments.Pieces
/-!
# Argument lists — arguments joined by commas

Arguments that are joined by commas, with any blanks around each, are split
again into the same arguments (`split_intercalate`); only a single empty argument
is lost, since its list is blank. Whatever is split gives trimmed arguments, one
more than there are separating commas (`length_split`), and a balanced list gives
arguments that could be joined again (`isArgument_of_mem_split`).
-/

namespace LineMacro

namespace Arguments

/-- What an argument is like: no blank at its ends, no parenthesis without its
match, and no comma that would separate it. -/
structure IsArgument (a : Text) : Prop where
  trimmed : Text.trim a = a
  balanced : Balanced a
  commaFree : CommaFree a

/-- How many commas of a text stand outside all its parentheses. -/
def separators (t : Text) : Nat :=
  (List.range t.length).countP fun i => t[i]? = some ',' ∧ height (t.take i) = 0

variable {depth : Int} {c : Char} {inner t : Text} {args padded : List Text}

/-! ## Joining and splitting -/

/-- Blanks around arguments leave them pieces that can be cut apart. -/
theorem pieces_of_pads (hargs : ∀ a ∈ args, IsArgument a)
    (hpads : List.Forall₂ Text.Pads args padded) : ∀ p ∈ padded, Balanced p ∧ CommaFree p := by
  induction hpads with
  | nil => exact nofun
  | cons hpad _ ih =>
    obtain ⟨ha, hargs⟩ := List.forall_mem_cons.1 hargs
    have hpiece := And.intro ((balanced_iff_of_pads hpad).2 ha.balanced)
      ((commaFree_iff_of_pads hpad).2 ha.commaFree)
    exact List.forall_mem_cons.2 ⟨hpiece, ih hargs⟩

theorem split_of_not_blank (h : ∃ c ∈ inner, Text.isBlank c = false) :
    split inner = (cut 0 inner).map Text.trim := by
  obtain ⟨c, hc, hblank⟩ := h
  rw [split, if_neg]
  intro hall
  rw [isAllBlank_eq_true_iff.1 hall c hc] at hblank
  cases hblank

/-- **Splitting undoes joining**, whatever the blanks around the arguments. -/
theorem split_intercalate (hsingle : args ≠ [[]]) (hargs : ∀ a ∈ args, IsArgument a)
    (hpads : List.Forall₂ Text.Pads args padded) : split ([','].intercalate padded) = args := by
  by_cases hne : args = []
  · subst hne
    rw [List.forall₂_nil_left_iff.1 hpads]
    rfl
  · have htrimmed : ∀ a ∈ args, Text.trim a = a := fun a ha => (hargs a ha).trimmed
    have htrim : padded.map Text.trim = args := Text.map_trim_of_pads hpads htrimmed
    have hpadded : padded ≠ [] := fun hnil => hne (by rw [← htrim, hnil, List.map_nil])
    rw [split_of_not_blank (Text.exists_not_blank_of_pads hpads htrimmed hne hsingle),
      cut_intercalate hpadded (pieces_of_pads hargs hpads), htrim]

/-! ## What splitting gives -/

theorem split_eq_nil_iff : split inner = [] ↔ ∀ c ∈ inner, Text.isBlank c = true := by
  rw [split]
  split
  · rename_i hblank
    exact iff_of_true rfl (isAllBlank_eq_true_iff.1 hblank)
  · rename_i hblank
    exact iff_of_false (by simp [cut_ne_nil]) (fun hall => hblank (isAllBlank_eq_true_iff.2 hall))

theorem trim_of_mem_split {a : Text} (h : a ∈ split inner) : Text.trim a = a := by
  rw [split] at h
  split at h
  · exact absurd h List.not_mem_nil
  · obtain ⟨p, -, rfl⟩ := List.mem_map.1 h
    exact Text.trim_trim p

/-- **The arguments of a balanced list** could have been joined to make it. -/
theorem isArgument_of_mem_split (h : Balanced inner) {a : Text} (ha : a ∈ split inner) :
    IsArgument a where
  trimmed := trim_of_mem_split ha
  balanced := (piece_of_mem_split h ha).1
  commaFree := (piece_of_mem_split h ha).2

/-! ## How many arguments there are -/

/-- How many commas of a text that is read from the depth stand at depth zero. -/
def separatorsAt (depth : Int) (t : Text) : Nat :=
  (List.range t.length).countP fun i => t[i]? = some ',' ∧ depth + height (t.take i) = 0

theorem separators_eq (t : Text) : separators t = separatorsAt 0 t := by
  simp only [separators, separatorsAt, Int.zero_add]

theorem separatorsAt_cons : separatorsAt depth (c :: t) =
    separatorsAt (depth + depthChange c) t + if c = ',' ∧ depth = 0 then 1 else 0 := by
  rw [separatorsAt, List.length_cons, List.range_succ_eq_map, List.countP_cons, List.countP_map,
    separatorsAt]
  congr 1
  · refine List.countP_congr fun i _ => ?_
    simp [Int.add_assoc]
  · simp

theorem length_cut (depth : Int) (t : Text) : (cut depth t).length = separatorsAt depth t + 1 := by
  induction t generalizing depth with
  | nil => rfl
  | cons c t ih =>
    rw [cut, separatorsAt_cons]
    split
    · rename_i hc
      obtain ⟨rfl, rfl⟩ := hc
      rw [List.length_cons, ih]
      rfl
    · rw [List.length_modifyHead, ih, Nat.add_zero]

/-- **The commas between the arguments** are those outside all parentheses. -/
theorem length_split (h : split inner ≠ []) : (split inner).length = separators inner + 1 := by
  rw [split] at h ⊢
  split at h
  · exact absurd rfl h
  · rename_i hblank
    rw [if_neg hblank, List.length_map, length_cut, separators_eq]

/-! ## Both ways -/

/-- **Splitting undoes joining, and gives what can be joined.** Arguments that are
joined by commas are split into the same arguments, whatever the blanks around each
of them; and a balanced list is split into such arguments, none if it is blank, and
one more than it has separating commas if it is not. -/
theorem split_joined :
    (∀ args padded : List Text, args ≠ [[]] → (∀ a ∈ args, IsArgument a) →
      List.Forall₂ Text.Pads args padded → split ([','].intercalate padded) = args) ∧
    ∀ inner : Text, Balanced inner →
      (∀ a ∈ split inner, IsArgument a) ∧
      (split inner = [] ↔ ∀ c ∈ inner, Text.isBlank c = true) ∧
      (split inner ≠ [] → (split inner).length = separators inner + 1) :=
  ⟨fun _ _ hsingle hargs hpads => split_intercalate hsingle hargs hpads,
    fun _ hbalanced => ⟨fun _ ha => isArgument_of_mem_split hbalanced ha, split_eq_nil_iff,
      length_split⟩⟩

/-- A call with a comma of its own, an empty argument, one that starts with a
parenthesis, and blanks of several kinds around them. -/
theorem split_joined_nested :
    let args := ["f(a, b)".toList, [], "(x)y".toList]
    let padded := [" f(a, b)\t".toList, "  ".toList, "\u3000(x)y".toList]
    let inner := " f(a, b)\t,  ,\u3000(x)y".toList
    (∀ a ∈ args, IsArgument a) ∧ [','].intercalate padded = inner ∧ split inner = args ∧
      Balanced inner ∧ separators inner = 2 ∧ (split inner).length = separators inner + 1 := by
  intro args padded inner
  have hargs : ∀ a ∈ args, IsArgument a := by
    simp only [args, List.forall_mem_cons, List.not_mem_nil, false_imp_iff, implies_true, and_true]
    refine ⟨⟨by decide, ?_, ?_⟩, ⟨by decide, ?_, ?_⟩, ⟨by decide, ?_, ?_⟩⟩ <;>
      simp [balanced_iff_balancedAt, balancedAt_cons, balancedAt_nil, commaFree_iff_commaFreeAt,
        commaFreeAt_cons, commaFreeAt_nil, depthChange]
  have hpads : List.Forall₂ Text.Pads args padded :=
    .cons ⟨[' '], ['\t'], rfl, List.all_eq_true.1 rfl, List.all_eq_true.1 rfl⟩
      (.cons ⟨[' ', ' '], [], rfl, List.all_eq_true.1 rfl, List.forall_mem_nil _⟩
        (.cons ⟨['\u3000'], [], rfl, List.all_eq_true.1 rfl, List.forall_mem_nil _⟩
        .nil))
  have hbalanced : Balanced inner := by
    simp [inner, balanced_iff_balancedAt, balancedAt_cons, balancedAt_nil, depthChange]
  have hjoin : [','].intercalate padded = inner := by decide
  have hsplit : split inner = args := hjoin ▸ split_joined.1 args padded (by decide) hargs hpads
  have hsome : split inner ≠ [] := by
    rw [hsplit]
    exact List.cons_ne_nil _ _
  exact ⟨hargs, hjoin, hsplit, hbalanced, by decide, (split_joined.2 inner hbalanced).2.2 hsome⟩

end Arguments

end LineMacro
