import LineMacro.Proofs.Expansion.Words
/-!
# Expansion — texts that stay

A text in which no macro is used stays as it is (`expandInside_of_inert`). No word of
it may stand for a macro without parameters, and none that stands for one with
parameters may have an opening parenthesis right after it (`Inert`). Macros with
parameters may be named, and parentheses need not match. Whether a text is of this
kind can be told from its tokens (`inert_iff_leavesTokens`).
-/

namespace LineMacro

namespace Table

variable {tbl : Table} {c : Char} {text t v copied rest : Text}
variable {item : Item}

/-- No word of the text is a use of a macro. -/
def Inert (tbl : Table) (text : Text) : Prop :=
  ∀ w after m, WordAt text w after → tbl.lookup w = some m →
    m.parameters ≠ [] ∧ after.head? ≠ some '('

/-! ## Item by item -/

theorem inert_nil (tbl : Table) : tbl.Inert [] := by
  intro w after m hw
  exact absurd (wordOf_iff_wordAt.2 ⟨after, hw⟩) not_wordOf_nil

theorem inert_cons_iff (hc : Text.isWordChar c = false) : tbl.Inert (c :: t) ↔ tbl.Inert t := by
  simp only [Inert, wordAt_cons_iff hc]

/-- A word at the front is judged by what follows it. -/
theorem WordBefore.inert_append_iff (h : WordBefore v t) :
    tbl.Inert (v ++ t) ↔
      (∀ m, tbl.lookup v = some m → m.parameters ≠ [] ∧ t.head? ≠ some '(') ∧ tbl.Inert t := by
  constructor
  · intro hinert
    refine ⟨fun m hm => hinert v t m (h.wordAt_append_iff.2 (Or.inl ⟨rfl, rfl⟩)) hm, ?_⟩
    intro w after m hw hm
    exact hinert w after m (h.wordAt_append_iff.2 (Or.inr hw)) hm
  · rintro ⟨hfirst, hrest⟩ w after m hw hm
    rcases h.wordAt_append_iff.1 hw with ⟨rfl, rfl⟩ | hw
    · exact hfirst m hm
    · exact hrest w after m hw hm

/-- **All that is read off such a text is copied.** -/
theorem Reads.inert_iff (h : Reads tbl text item) :
    tbl.Inert text ↔ (∃ copied, item = .plain copied item.rest) ∧ tbl.Inert item.rest := by
  cases h with
  | gap hc => simp [inert_cons_iff hc, Item.rest]
  | other hw hm => simp [hw.inert_append_iff, hm, Item.rest]
  | constant hw hm hp => simp [hw.inert_append_iff, hm, hp]
  | bare hw hm hp hhead => simp [hw.inert_append_iff, hm, hp, hhead, Item.rest]
  | call hw hm hp | unclosed hw hm hp => simp [hw.inert_append_iff, hm]

theorem Reads.eq_append_of_plain (h : Reads tbl text (.plain copied rest)) :
    text = copied ++ rest := by
  cases h <;> rfl

/-! ## The expansion -/

theorem expandRest_of_inert (h : tbl.Inert text) (depth : Int) (size : Nat) :
    tbl.expandRest depth size text = .ok text := by
  induction text using reading_induction tbl with
  | nil => exact expandRest_nil
  | plain hread ih =>
    have hr := reads_iff.2 hread
    rw [expandRest_plain hread, ih (hr.inert_iff.1 h).2, hr.eq_append_of_plain]
    rfl
  | constant hread | call hread | unclosed hread =>
    obtain ⟨⟨copied, hitem⟩, -⟩ := (reads_iff.2 hread).inert_iff.1 h
    cases hitem

/-- **Where no macro is used nothing changes**, at any depth. -/
theorem expandInside_of_inert (h : tbl.Inert text) (depth : Int) :
    tbl.expandInside depth text = .ok text :=
  expandRest_of_inert h depth text.length

/-! ## Telling it from the tokens -/

/-- Whether no word among the tokens is a use of a macro. -/
def leavesTokens (tbl : Table) : List Text.Token → Bool
  | [] => true
  | .gap _ :: l => leavesTokens tbl l
  | .word w :: l =>
    ((tbl.lookup w).all fun m => m.isParameterized && l.head? != some (.gap '(')) &&
      leavesTokens tbl l

/-- Tokens start with a gap where the text does. -/
theorem head?_tokens_eq_gap_iff (hc : Text.isWordChar c = false) :
    (Text.tokens t).head? = some (.gap c) ↔ t.head? = some c := by
  cases t with
  | nil => simp [Text.tokens]
  | cons d t =>
    by_cases hd : Text.isWordChar d = true
    · obtain ⟨w, u, hw, heq⟩ := exists_wordBefore (t := t) hd
      have hne : d ≠ c := by
        rintro rfl
        rw [hc] at hd
        cases hd
      rw [← heq, hw.tokens_append, heq]
      simp [hne]
    · simp [tokens_gap (by simpa using hd : Text.isWordChar d = false)]

theorem inert_iff_leavesTokens : tbl.Inert text ↔ tbl.leavesTokens (Text.tokens text) = true := by
  induction text using word_induction with
  | nil => exact iff_of_true (inert_nil tbl) rfl
  | gap hc ih => rw [inert_cons_iff hc, ih, tokens_gap hc, leavesTokens]
  | @word v t hv ih =>
    have hparen := head?_tokens_eq_gap_iff (c := '(') (t := t) (by decide)
    rw [hv.inert_append_iff, ih, hv.tokens_append, leavesTokens, Bool.and_eq_true]
    cases tbl.lookup v with
    | none => simp
    | some m => simp [hparen, Macro.isParameterized_iff]

instance (tbl : Table) (text : Text) : Decidable (tbl.Inert text) :=
  decidable_of_iff _ inert_iff_leavesTokens.symm

end Table

end LineMacro
