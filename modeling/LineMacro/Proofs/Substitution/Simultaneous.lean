import LineMacro.Proofs.Substitution
import LineMacro.Proofs.Text.Alternation
/-!
# Substitution — all words at once

The body of a macro is gaps and words in turn, in one way only. Its gaps stay, and
each of its words becomes what it stands for (`substitute_simultaneous`): the
argument in the first place at which the word is a parameter (`StandsFor`), put in
as it is, or the word itself where that place has no argument. An argument beyond
the parameters stands in no such place, so it has no effect.
-/

namespace LineMacro

namespace Macro

variable {m : Macro} {args : List Text} {w v : Text} {i : Nat}

/-- The word is a parameter, and this is the first of its places. -/
def FirstAt (m : Macro) (w : Text) (i : Nat) : Prop :=
  m.parameters[i]? = some w ∧ ∀ j < i, m.parameters[j]? ≠ some w

/-- What a word of the body becomes when the macro is given the arguments. -/
inductive StandsFor (m : Macro) (args : List Text) (w : Text) : Text → Prop
  /-- A parameter becomes the argument in the first of its places. -/
  | argument {i : Nat} {v : Text} :
      m.FirstAt w i → args[i]? = some v → StandsFor m args w v
  /-- A word that is no parameter stays, and so does one whose first place has no
  argument. -/
  | itself : (∀ i, m.FirstAt w i → args[i]? = none) → StandsFor m args w w

/-! ## By position -/

theorem FirstAt.mem (h : m.FirstAt w i) : w ∈ m.parameters := List.mem_of_getElem? h.1

theorem FirstAt.unique {j : Nat} (hi : m.FirstAt w i) (hj : m.FirstAt w j) : i = j := by
  have hle : ¬ j < i := fun h => hi.2 j h hj.1
  have hge : ¬ i < j := fun h => hj.2 i h hi.1
  omega

/-- Looking for a parameter from the front finds its first place. -/
theorem firstAt_idxOf (h : w ∈ m.parameters) : m.FirstAt w (m.parameters.idxOf w) := by
  have hlt := List.idxOf_lt_length_of_mem h
  constructor
  · rw [List.getElem?_eq_getElem hlt, List.getElem_idxOf]
  · intro j hj hget
    have hne := List.not_of_lt_findIdx hj
    obtain ⟨hj', hw⟩ := List.getElem?_eq_some_iff.1 hget
    rw [hw] at hne
    simp at hne

/-- **A word becomes what it stands for**, and nothing else. -/
theorem argumentFor_eq_iff : m.argumentFor args w = v ↔ m.StandsFor args w v := by
  by_cases hw : w ∈ m.parameters
  · have hfirst := firstAt_idxOf hw
    rw [argumentFor, if_pos hw]
    cases harg : args[m.parameters.idxOf w]? with
    | some a =>
      constructor
      · rintro rfl
        exact .argument hfirst harg
      · rintro (⟨hi, hv⟩ | hnone)
        · rw [hi.unique hfirst, harg] at hv
          exact Option.some.inj hv
        · rw [hnone _ hfirst] at harg
          cases harg
    | none =>
      constructor
      · rintro rfl
        exact .itself fun i hi => hi.unique hfirst ▸ harg
      · rintro (⟨hi, hv⟩ | -)
        · rw [hi.unique hfirst, harg] at hv
          cases hv
        · rfl
  · rw [argumentFor, if_neg hw]
    constructor
    · rintro rfl
      exact .itself fun i hi => absurd hi.mem hw
    · rintro (⟨hi, -⟩ | -)
      · exact absurd hi.mem hw
      · rfl

/-- No word stands for an argument beyond the parameters. -/
theorem argumentFor_take (m : Macro) (args : List Text) (w : Text) :
    m.argumentFor (args.take m.parameters.length) w = m.argumentFor args w := by
  rw [argumentFor, argumentFor]
  split
  · rename_i hw
    rw [List.getElem?_take_of_lt (List.idxOf_lt_length_of_mem hw)]
  · rfl

theorem substitute_take (m : Macro) (args : List Text) :
    m.substitute (args.take m.parameters.length) = m.substitute args := by
  rw [substitute_eq_replaceWords, substitute_eq_replaceWords, funext (argumentFor_take m args)]

/-- The shortcut makes no difference. -/
theorem substitute_eq_bound (m : Macro) (args : List Text) :
    m.substitute args = Text.replaceWords (bound (m.bindings args)) m.body := by
  rw [substitute_eq_replaceWords, funext (bound_bindings m args)]

/-- **Substitution acts on all words at once.** The body is an alternation of gaps
and words, and of no other. The macro gives the gaps as they are, and in the place
of each word what it stands for, which is one text: the argument in the first
place of the parameter of that name, whatever that argument holds, or else the
word. Arguments beyond the parameters have no effect, and neither has it whether
there is anything to bind. -/
theorem substitute_simultaneous (m : Macro) (args : List Text) :
    ∃ a : Text.Alternation, a.text = m.body ∧
      (∀ b : Text.Alternation, b.text = m.body → b = a) ∧
        m.substitute args = a.replaced (m.argumentFor args) ∧
          (∀ w v, m.argumentFor args w = v ↔ m.StandsFor args w v) ∧
            m.substitute (args.take m.parameters.length) = m.substitute args ∧
              m.substitute args = Text.replaceWords (bound (m.bindings args)) m.body := by
  obtain ⟨a, ha⟩ := Text.Alternation.exists_text_eq m.body
  refine ⟨a, ha, fun b hb => Text.Alternation.eq_of_text_eq (hb.trans ha.symm), ?_,
    fun w v => argumentFor_eq_iff, substitute_take m args, substitute_eq_bound m args⟩
  rw [substitute_eq_replaceWords, ← ha]
  exact Text.Alternation.replaceWords_text _ a

/-- A parameter that comes twice and another whose place has no argument, in a body
where they stand next to other characters of words. -/
example : substitute
    { name := ['f'], parameters := [['x'], ['x'], [], ['y']], body := "x$ (x)x_ x,y".toList }
    ["y x".toList, ['z'], ['u']] = "x$ (y x)x_ y x,y".toList := by decide

end Macro

end LineMacro
