import LineMacro.Proofs.Expansion.Words
/-!
# Expansion — where its characters come from

Neither substitution nor expansion makes up a character: what is in an expansion
was in the text or is in the body of a macro that a word of the text stands for
(`mem_of_expandInside_eq_ok`).
-/

namespace LineMacro

namespace Text

variable {c : Char} {t : Text} {k : Token} {f : Text → Text}

theorem mem_of_mem_tokens (hk : k ∈ tokens t) (hc : c ∈ k.text) : c ∈ t := by
  rw [← render_tokens t]
  exact List.mem_flatMap.2 ⟨k, hk, hc⟩

/-- What replacing brings is in the image of a word. -/
theorem mem_replaceWords (h : c ∈ replaceWords f t) :
    c ∈ t ∨ ∃ w, Token.word w ∈ tokens t ∧ c ∈ f w := by
  obtain ⟨k, hk, hc⟩ := List.mem_flatMap.1 h
  cases k with
  | word w => exact Or.inr ⟨w, hk, hc⟩
  | gap d => exact Or.inl (mem_of_mem_tokens hk hc)

end Text

namespace Macro

variable {c : Char} {m : Macro} {args : List Text} {w : Text}

theorem mem_argumentFor (h : c ∈ m.argumentFor args w) : c ∈ w ∨ ∃ a ∈ args, c ∈ a := by
  rw [argumentFor] at h
  split at h
  · cases harg : args[m.parameters.idxOf w]? with
    | none =>
      rw [harg] at h
      exact Or.inl h
    | some a =>
      rw [harg] at h
      exact Or.inr ⟨a, List.mem_of_getElem? harg, h⟩
  · exact Or.inl h

/-- A call brings its body and its arguments. -/
theorem mem_substitute (h : c ∈ m.substitute args) : c ∈ m.body ∨ ∃ a ∈ args, c ∈ a := by
  rw [substitute_eq_replaceWords] at h
  rcases Text.mem_replaceWords h with hc | ⟨w, hw, hc⟩
  · exact Or.inl hc
  · exact (mem_argumentFor hc).imp_left (Text.mem_of_mem_tokens hw)

end Macro

namespace Table

variable {tbl : Table} {depth : Int} {size : Nat} {text out copied inner rest a : Text} {c : Char}
variable {m : Macro} {item : Item} {texts args : List Text}

/-- The character stands in the text, or in the body of a macro that a word of
the text stands for. -/
def Supplies (tbl : Table) (text : Text) (c : Char) : Prop :=
  c ∈ text ∨ ∃ w m, WordOf text w ∧ tbl.lookup w = some m ∧ c ∈ m.body

/-! ## The parts of a text -/

theorem Reads.supplies_rest (h : Reads tbl text item) (hc : tbl.Supplies item.rest c) :
    tbl.Supplies text c := by
  rcases hc with hc | ⟨w, m, hw, hm, hc⟩
  · exact Or.inl (h.rest_suffix.mem hc)
  · exact Or.inr ⟨w, m, h.wordOf_rest hw, hm, hc⟩

theorem Reads.supplies_argument (h : Reads tbl text (.call m inner rest))
    (ha : a ∈ Arguments.split inner) (hc : tbl.Supplies a c) : tbl.Supplies text c := by
  rcases hc with hc | ⟨w, m, hw, hm, hc⟩
  · obtain ⟨before, after, rfl, -, -⟩ := Arguments.exists_of_mem_split ha
    cases h with
    | call => exact Or.inl (by simp [hc])
  · exact Or.inr ⟨w, m, h.wordOf_argument ha hw, hm, hc⟩

theorem Reads.mem_of_mem_copied (h : Reads tbl text (.plain copied rest)) (hc : c ∈ copied) :
    c ∈ text := by
  cases h with
  | gap => exact List.mem_append_left rest hc
  | other | bare => exact List.mem_append_left rest hc

theorem Reads.supplies_constant (h : Reads tbl text (.constant m rest)) (hc : c ∈ m.body) :
    tbl.Supplies text c := by
  cases h with
  | constant hw hm => exact Or.inr ⟨_, m, hw.wordOf, hm, hc⟩

theorem Reads.supplies_call (h : Reads tbl text (.call m inner rest)) (hc : c ∈ m.body) :
    tbl.Supplies text c := by
  cases h with
  | call hw hm => exact Or.inr ⟨_, m, hw.wordOf, hm, hc⟩

/-! ## The expansion -/

/-- **No character is made up**, inside calls or not. -/
theorem mem_of_expandRest_eq_ok (h : tbl.expandRest depth size text = .ok out) (hc : c ∈ out) :
    tbl.Supplies text c := by
  induction text using reading_induction tbl generalizing depth size out with
  | nil =>
    rw [expandRest_nil] at h
    cases h
    exact absurd hc List.not_mem_nil
  | plain hread ih =>
    have hr := reads_iff.2 hread
    rw [expandRest_plain hread] at h
    obtain ⟨o, ho, rfl⟩ := Failure.map_eq_ok_iff.1 h
    rcases List.mem_append.1 hc with hc | hc
    · exact Or.inl (hr.mem_of_mem_copied hc)
    · exact hr.supplies_rest (ih ho hc)
  | constant hread ih =>
    have hr := reads_iff.2 hread
    rw [expandRest_constant hread] at h
    obtain ⟨o, ho, rfl⟩ := Failure.map_eq_ok_iff.1 h
    rcases List.mem_append.1 hc with hc | hc
    · exact hr.supplies_constant hc
    · exact hr.supplies_rest (ih ho hc)
  | call hread ihargs ih =>
    have hr := reads_iff.2 hread
    obtain ⟨-, args, o, hargs, ho, rfl⟩ := (expandRest_call_eq_ok_iff hread).1 h
    rcases List.mem_append.1 hc with hc | hc
    · rcases Macro.mem_substitute hc with hc | ⟨b, hb, hc⟩
      · exact hr.supplies_call hc
      · -- an argument was expanded itself, and what supplies it supplies the text
        obtain ⟨a, ha, hexp⟩ := exists_mem_of_expandAll_eq_ok hargs hb
        exact hr.supplies_argument ha (ihargs a ha hexp hc)
    · exact hr.supplies_rest (ih ho hc)
  | unclosed hread =>
    rw [expandRest_unclosed hread] at h
    cases h

/-- **No character of an expansion is made up.** -/
theorem mem_of_expandInside_eq_ok (h : tbl.expandInside depth text = .ok out) (hc : c ∈ out) :
    tbl.Supplies text c :=
  mem_of_expandRest_eq_ok h hc

end Table

end LineMacro
