import LineMacro.Proofs.Arguments.Heights
/-!
# Argument lists — where a list closes

The parenthesis that closes a list is the one after a balanced text
(`closing?_eq_some_iff`), and it is missing exactly where no start of the text
closes more than it opens (`closing?_eq_none_iff`). So every list that opens
inside a balanced text closes there (`exists_closing_of_balancedAt`).
-/

namespace LineMacro

namespace Arguments

variable {depth : Int} {c : Char} {t : Text}

/-- A character that does not close the list keeps the reader inside it. -/
theorem nonneg_of_not_closing (hd : 0 ≤ depth) (hc : ¬ (c = ')' ∧ depth + 1 = 1)) :
    0 ≤ depth + depthChange c := by
  unfold depthChange
  split
  · omega
  · split
    · rename_i h
      have : depth ≠ 0 := fun h0 => hc ⟨h, by omega⟩
      omega
    · omega

/-- Where the character does not close the list, the search goes on. -/
theorem closing?_cons_of_not (hc : ¬ (c = ')' ∧ depth + 1 = 1)) :
    closing? (depth + 1) (c :: t) = (closing? (depth + depthChange c + 1) t).map (· + 1) := by
  rw [closing?, if_neg hc, Int.add_right_comm]

/-- **Where a list closes.** Read one level above the depth, the list ends
after a text that is balanced from the depth. -/
theorem closing?_eq_some_iff (hd : 0 ≤ depth) {k : Nat} :
    closing? (depth + 1) t = some k ↔
      ∃ inner rest, t = inner ++ ')' :: rest ∧ BalancedAt depth inner ∧ k = inner.length := by
  induction t generalizing depth k with
  | nil => simp [closing?]
  | cons c t ih =>
    by_cases hc : c = ')' ∧ depth + 1 = 1
    · obtain ⟨rfl, h1⟩ := hc
      obtain rfl : depth = 0 := by omega
      rw [closing?, if_pos ⟨rfl, h1⟩]
      constructor
      · intro hk
        exact ⟨[], t, rfl, balancedAt_nil.2 rfl, (Option.some.inj hk).symm⟩
      · rintro ⟨inner, rest, ht, hb, rfl⟩
        cases inner with
        | nil => rfl
        | cons a inner =>
          -- a text that starts by closing is not balanced
          obtain ⟨rfl, -⟩ := List.cons.inj ht
          exact absurd (balancedAt_cons.1 hb).2.1.nonneg (by decide)
    · have hdc := nonneg_of_not_closing hd hc
      rw [closing?_cons_of_not hc, Option.map_eq_some_iff]
      constructor
      · rintro ⟨j, hj, rfl⟩
        obtain ⟨inner, rest, rfl, hb, rfl⟩ := (ih hdc).1 hj
        exact ⟨c :: inner, rest, rfl, balancedAt_cons.2 ⟨hd, hb⟩, rfl⟩
      · rintro ⟨inner, rest, ht, hb, rfl⟩
        cases inner with
        | nil =>
          obtain ⟨rfl, -⟩ := List.cons.inj ht
          exact absurd ⟨rfl, by rw [balancedAt_nil.1 hb]; rfl⟩ hc
        | cons a inner =>
          obtain ⟨rfl, rfl⟩ := List.cons.inj ht
          exact ⟨inner.length, (ih hdc).2 ⟨inner, rest, rfl, (balancedAt_cons.1 hb).2, rfl⟩, rfl⟩

/-- **Where no list closes.** Nothing of the text closes more than is open. -/
theorem closing?_eq_none_iff (hd : 0 ≤ depth) :
    closing? (depth + 1) t = none ↔ NeverBelow depth t := by
  induction t generalizing depth with
  | nil => simp [closing?, neverBelow_nil hd]
  | cons c t ih =>
    rw [neverBelow_cons]
    by_cases hc : c = ')' ∧ depth + 1 = 1
    · rw [closing?, if_pos hc]
      obtain ⟨rfl, h1⟩ := hc
      obtain rfl : depth = 0 := by omega
      constructor
      · intro h
        cases h
      · rintro ⟨-, h⟩
        exact absurd h.nonneg (by decide)
    · rw [closing?_cons_of_not hc, Option.map_eq_none_iff, ih (nonneg_of_not_closing hd hc)]
      exact ⟨fun h => ⟨hd, h⟩, fun h => h.2⟩

/-- The closing parenthesis of a call stands after a balanced text. -/
theorem closing?_one_eq_some_iff {k : Nat} :
    closing? 1 t = some k ↔
      ∃ inner rest, t = inner ++ ')' :: rest ∧ Balanced inner ∧ k = inner.length := by
  simp only [balanced_iff_balancedAt]
  exact closing?_eq_some_iff (Int.le_refl 0)

/-- **A list that opens in a balanced text closes in it.** What follows the
opening parenthesis would otherwise leave something open. -/
theorem exists_closing_of_balancedAt (h : BalancedAt depth ('(' :: t)) :
    ∃ inner rest, t = inner ++ ')' :: rest ∧ Balanced inner := by
  have h0 : 0 ≤ depth := h.1.nonneg
  have hlevel : depth + (1 + height t) = 0 := by
    rw [← h.2, height_cons]
    rfl
  cases hk : closing? 1 t with
  | none =>
    have hn := (closing?_eq_none_iff (Int.le_refl 0)).1 hk t (List.prefix_refl t)
    omega
  | some k =>
    obtain ⟨inner, rest, ht, hb, -⟩ := closing?_one_eq_some_iff.1 hk
    exact ⟨inner, rest, ht, hb⟩

end Arguments

end LineMacro
