import LineMacro.Text.Blank
import LineMacro.Text.Position
/-!
# Argument lists

Parentheses in a text raise and lower a depth. An argument list ends at the
parenthesis that brings the depth back to where the list began, and commas
separate arguments only at the depth of the list itself. Every argument is
trimmed; a blank list has no arguments at all.
-/

namespace LineMacro

namespace Arguments

/-- What a character adds to the depth. -/
def depthChange (c : Char) : Int :=
  if c = '(' then 1 else if c = ')' then -1 else 0

/-- The offset of the first `)` that leaves the depth at zero, read from the
given depth. -/
def closing? (depth : Int) : Text → Option Nat
  | [] => none
  | c :: t =>
    if c = ')' ∧ depth = 1 then some 0
    else (closing? (depth + depthChange c) t).map (· + 1)

/-- The index of the `)` that matches the `(` at a signed index. Reading starts
at depth zero whatever character stands there. -/
def matching (start : Int) (t : Text) : Except Position.OutOfRange (Option Int) :=
  match Position.readFrom start t with
  | .ok rest => .ok ((closing? 0 rest).map fun k => start + k)
  | .error e => .error e

/-- A text cut at the commas where the depth is zero, read from the given
depth. -/
def cut (depth : Int) : Text → List Text
  | [] => [[]]
  | c :: t =>
    if c = ',' ∧ depth = 0 then [] :: cut depth t
    else (cut (depth + depthChange c) t).modifyHead (c :: ·)

/-- The arguments between the parentheses of a call. -/
def split (inner : Text) : List Text :=
  if Text.isAllBlank inner then [] else (cut 0 inner).map Text.trim

/-! The arguments take no more room than the list they were cut from, counting
one place for each comma: this is what recursion into arguments rests on. -/

/-- The room that arguments take, with one place for each. -/
def weight : List Text → Nat
  | [] => 0
  | a :: l => a.length + 1 + weight l

theorem length_lt_weight {l : List Text} {a : Text} (h : a ∈ l) : a.length < weight l := by
  induction l with
  | nil => exact absurd h List.not_mem_nil
  | cons b l ih =>
    rw [weight]
    rcases List.mem_cons.1 h with rfl | h
    · omega
    · have := ih h
      omega

theorem closing?_lt {depth : Int} {t : Text} {k : Nat} (h : closing? depth t = some k) :
    k < t.length := by
  induction t generalizing depth k with
  | nil => simp [closing?] at h
  | cons c t ih =>
    rw [closing?] at h
    split at h
    · cases h
      exact Nat.succ_pos _
    · obtain ⟨j, hj, rfl⟩ := Option.map_eq_some_iff.1 h
      have := ih hj
      simp only [List.length_cons]
      omega

theorem cut_ne_nil (depth : Int) (t : Text) : cut depth t ≠ [] := by
  induction t generalizing depth with
  | nil => simp [cut]
  | cons c t ih =>
    rw [cut]
    split
    · simp
    · cases h : cut (depth + depthChange c) t with
      | nil => exact absurd h (ih _)
      | cons a l => simp

theorem weight_cut (depth : Int) (t : Text) : weight (cut depth t) = t.length + 1 := by
  induction t generalizing depth with
  | nil => rfl
  | cons c t ih =>
    rw [cut]
    split
    · rw [weight, ih, List.length_nil, List.length_cons]
      omega
    · have hn := cut_ne_nil (depth + depthChange c) t
      have hw := ih (depth + depthChange c)
      cases h : cut (depth + depthChange c) t with
      | nil => exact absurd h hn
      | cons a l =>
        rw [h, weight] at hw
        rw [List.modifyHead_cons, weight, List.length_cons, List.length_cons]
        omega

theorem length_trim_le (t : Text) : (Text.trim t).length ≤ t.length := by
  simp only [Text.trim, Text.dropTrailing, List.length_reverse]
  refine Nat.le_trans (List.dropWhile_sublist _).length_le ?_
  rw [List.length_reverse]
  exact (List.dropWhile_sublist _).length_le

theorem weight_map_trim_le (l : List Text) : weight (l.map Text.trim) ≤ weight l := by
  induction l with
  | nil => exact Nat.le_refl _
  | cons a l ih =>
    have := length_trim_le a
    rw [List.map_cons, weight, weight]
    omega

/-- **Arguments fit in their list.** -/
theorem weight_split_le (inner : Text) : weight (split inner) ≤ inner.length + 1 := by
  rw [split]
  split
  · simp [weight]
  · exact Nat.le_trans (weight_map_trim_le _) (Nat.le_of_eq (weight_cut 0 inner))

end Arguments

end LineMacro
