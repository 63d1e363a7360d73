/-!
# Text — positions counted from either end

An editor may name a place in a list by a signed index: a negative one counts
back from the end. A single element must exist (`get`), and so must the place
where reading starts (`readFrom`); a stretch is clamped to the list (`upTo`,
`between`).
-/

namespace LineMacro

namespace Position

/-- A signed index that names no place of the list. -/
structure OutOfRange where
deriving DecidableEq, Repr

variable {α : Type}

/-- The distance from the start that a signed index stands for, clamped to
the list. -/
def fromStart (i : Int) (l : List α) : Nat :=
  if 0 ≤ i then min i.toNat l.length else (l.length + i).toNat

/-- The elements before a signed index. -/
def upTo (i : Int) (l : List α) : List α := l.take (fromStart i l)

/-- The elements from the first signed index up to the second. -/
def between (i j : Int) (l : List α) : List α := (upTo j l).drop (fromStart i l)

/-- The elements met when an index is stepped up from `i` to the end. A
negative start passes through the tail of the list first and then through all
of it. -/
def readFrom (i : Int) (l : List α) : Except OutOfRange (List α) :=
  if 0 ≤ i then .ok (l.drop i.toNat)
  else if -l.length ≤ i then .ok (l.drop (l.length + i).toNat ++ l)
  else .error ⟨⟩

/-- The element at a signed index. -/
def get (i : Int) (l : List α) : Except OutOfRange α :=
  match readFrom i l with
  | .ok (a :: _) => .ok a
  | _ => .error ⟨⟩

@[simp] theorem upTo_natCast (n : Nat) (l : List α) : upTo n l = l.take n := by
  simp only [upTo, fromStart, Int.natCast_nonneg, if_true, Int.toNat_natCast]
  rcases Nat.le_total n l.length with h | h
  · rw [Nat.min_eq_left h]
  · rw [Nat.min_eq_right h, List.take_length, List.take_of_length_le h]

@[simp] theorem readFrom_natCast (n : Nat) (l : List α) : readFrom n l = .ok (l.drop n) := by
  simp [readFrom]

/-- Inside the list, a position from the start names the element there. -/
theorem get_natCast {n : Nat} {l : List α} (h : n < l.length) : get n l = .ok l[n] := by
  rw [get, readFrom_natCast, List.drop_eq_getElem_cons h]

end Position

end LineMacro
