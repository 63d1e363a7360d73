import LineMacro.Text.Basic
/-!
# Text — carriage returns

A document may come with a carriage return at the end of some lines. It is a
character like any other, and belongs to the line: taking all of them away is
taking from every line the one that it ends in (`lines_withoutReturns`).
-/

namespace LineMacro

namespace Text

/-- The carriage return that a line ends in, or nothing. -/
def ending (line : Text) : Text := if line.getLast? = some '\r' then ['\r'] else []

/-- The text without its carriage returns. -/
def withoutReturns (t : Text) : Text := t.filter (· ≠ '\r')

/-- Carriage returns stand at the ends of lines only, at most one at each. -/
def ReturnsEndLines (t : Text) : Prop := ∀ line ∈ lines t, '\r' ∉ line.dropLast

variable {line t : Text} {c : Char}

theorem withoutReturns_of_not_mem (h : '\r' ∉ t) : withoutReturns t = t := by
  rw [withoutReturns, List.filter_eq_self]
  intro c hc
  simpa using fun heq : c = '\r' => h (heq ▸ hc)

/-- What is left of a line has no return, and the line may have one more. -/
theorem exists_of_not_mem_dropLast (h : '\r' ∉ line.dropLast) :
    ∃ t, '\r' ∉ t ∧ (line = t ∨ line = t ++ ['\r']) := by
  rcases List.eq_nil_or_concat line with rfl | ⟨t, c, rfl⟩
  · exact ⟨[], List.not_mem_nil, Or.inl rfl⟩
  · rw [List.concat_eq_append] at h ⊢
    rw [List.dropLast_concat] at h
    by_cases hc : c = '\r'
    · subst hc
      exact ⟨t, h, Or.inr rfl⟩
    · refine ⟨t ++ [c], fun hmem => ?_, Or.inl rfl⟩
      rcases List.mem_append.1 hmem with hmem | hmem
      · exact h hmem
      · exact hc (List.mem_singleton.1 hmem).symm

theorem withoutReturns_append_return (h : '\r' ∉ t) : withoutReturns (t ++ ['\r']) = t := by
  have ht : t.filter (· ≠ '\r') = t := withoutReturns_of_not_mem h
  rw [withoutReturns, List.filter_append, ht]
  exact List.append_nil t

theorem ending_of_not_mem (h : '\r' ∉ t) : ending t = [] :=
  if_neg fun hlast => h (List.mem_of_getLast? hlast)

theorem ending_append_return (t : Text) : ending (t ++ ['\r']) = ['\r'] :=
  if_pos List.getLast?_concat

/-- **The lines are left as they are**, each without its return. -/
theorem lines_withoutReturns (t : Text) :
    lines (withoutReturns t) = (lines t).map withoutReturns := by
  induction t with
  | nil => rfl
  | cons c t ih =>
    obtain ⟨line, rest, hlines⟩ := List.exists_cons_of_ne_nil (lines_ne_nil t)
    rw [hlines] at ih
    rw [lines_cons, hlines]
    by_cases hc : c = '\r'
    · -- the return is dropped from the line that it starts
      subst hc
      simpa [withoutReturns] using ih
    · have hkept : withoutReturns (c :: t) = c :: withoutReturns t := by simp [withoutReturns, hc]
      rw [hkept, lines_cons, ih]
      by_cases hn : c = '\n' <;> simp [hn, hc, withoutReturns]

end Text

end LineMacro
