import LineMacro.Substitution
/-!
# Substitution — by position

Binding parameters to arguments goes through a list of pairs, in which a later
pair of the same key is dropped, and takes a shortcut where nothing is bound.
What comes out is said by position alone: every word of the body becomes what
it stands for (`substitute_eq_replaceWords`).
-/

namespace LineMacro

namespace Macro

/-- Dropping later pairs of a key does not change what a key finds. -/
theorem find?_firstOfEach (w : Text) (l : List (Text × Text)) :
    Keyed.find? Prod.fst w (firstOfEach l) = Keyed.find? Prod.fst w l := by
  induction l with
  | nil => rfl
  | cons p l ih =>
    have herase : (firstOfEach l).filter (fun q => q.1 ≠ p.1) =
        Keyed.erase Prod.fst p.1 (firstOfEach l) := rfl
    rw [firstOfEach, herase, Keyed.find?, List.find?_cons, Keyed.find?, List.find?_cons]
    by_cases hp : p.1 = w
    · simp only [hp, decide_true]
    · have hw : ¬ w = p.1 := fun h => hp h.symm
      have herased : Keyed.find? Prod.fst w (Keyed.erase Prod.fst p.1 (firstOfEach l)) =
          if w = p.1 then none else Keyed.find? Prod.fst w (firstOfEach l) :=
        Keyed.find?_erase p.1 w (firstOfEach l)
      rw [if_neg hw, ih] at herased
      simp only [hp, decide_false]
      exact herased

/-- Pairs made by position find the argument in the place of the first
parameter of the key. -/
theorem find?_zip (w : Text) (ps args : List Text) :
    Keyed.find? Prod.fst w (ps.zip args) =
      if w ∈ ps then (args[ps.idxOf w]?).map (w, ·) else none := by
  induction ps generalizing args with
  | nil => rfl
  | cons p ps ih =>
    cases args with
    | nil => simp [Keyed.find?]
    | cons a args =>
      have ih := ih args
      simp only [Keyed.find?] at ih
      rw [List.zip_cons_cons, Keyed.find?, List.find?_cons, ih, List.idxOf_cons]
      by_cases hp : p = w
      · simp [hp]
      · have hw : ¬ w = p := fun h => hp h.symm
        have hbeq : (p == w) = false := beq_eq_false_iff_ne.2 hp
        simp [hp, hw, hbeq]

/-- A bound word becomes the argument it stands for. -/
theorem bound_bindings (m : Macro) (args : List Text) (w : Text) :
    bound (m.bindings args) w = m.argumentFor args w := by
  rw [bound, bindings, find?_firstOfEach, find?_zip, argumentFor]
  by_cases h : w ∈ m.parameters
  · simp only [if_pos h]
    cases args[m.parameters.idxOf w]? <;> rfl
  · simp only [if_neg h]

/-- **Substitution by position.** Every word of the body becomes what it stands
for, and everything else stays. -/
theorem substitute_eq_replaceWords (m : Macro) (args : List Text) :
    m.substitute args = Text.replaceWords (m.argumentFor args) m.body := by
  have hbound : bound (m.bindings args) = m.argumentFor args := funext (bound_bindings m args)
  rw [← hbound, substitute]
  split
  · rename_i hnil
    -- where nothing is bound every word stands for itself
    rw [hnil]
    exact (Text.replaceWords_id m.body).symm
  · rfl

end Macro

end LineMacro
