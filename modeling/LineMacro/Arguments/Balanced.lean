import LineMacro.Arguments
/-!
# Argument lists — balanced texts

The height of a text is the number of its opening parentheses less that of
its closing ones. A text is balanced if its height is zero and no start of it
has a negative height: what stands between matching parentheses is such a
text, and so is each argument of a call that was cut from one.
-/

namespace LineMacro

namespace Arguments

/-- Opening parentheses less closing ones. -/
def height (t : Text) : Int := t.count '(' - t.count ')'

/-- No parenthesis of the text closes before it opens, and all close. -/
structure Balanced (t : Text) : Prop where
  /-- Every start of the text opens at least as many as it closes. -/
  nonneg : ∀ p, p <+: t → 0 ≤ height p
  /-- The whole text closes what it opens. -/
  level : height t = 0

/-- No comma of the text stands where a comma would separate arguments. -/
def CommaFree (t : Text) : Prop := ∀ p, p ++ [','] <+: t → height p ≠ 0

/-- What a list of arguments holds, said without reading it: a blank list
holds none, and any other is cut into pieces by the commas that stand between
balanced texts; each piece is trimmed. -/
inductive Lists : Text → List Text → Prop
  | blank {inner : Text} : (∀ c ∈ inner, Text.isBlank c = true) → Lists inner []
  | pieces {inner : Text} {ps : List Text} :
      (∃ c ∈ inner, Text.isBlank c = false) → inner = [','].intercalate ps →
      (∀ p ∈ ps, Balanced p ∧ CommaFree p) → Lists inner (ps.map Text.trim)

/-! The depth that reading keeps is the height of what has been read. -/

@[simp] theorem height_nil : height [] = 0 := rfl

@[simp] theorem height_cons (c : Char) (t : Text) :
    height (c :: t) = depthChange c + height t := by
  simp only [height, depthChange, List.count_cons]
  by_cases ho : c = '('
  · subst ho
    simp
    omega
  · by_cases hc : c = ')'
    · subst hc
      simp
      omega
    · simp [ho, hc]

@[simp] theorem height_append (s t : Text) : height (s ++ t) = height s + height t := by
  simp only [height, List.count_append]
  omega

end Arguments

end LineMacro
