import LineMacro.Proofs.Editor.Word
/-!
# Editor answers — the word at a position and the words of the line

The editor walks from a position to both sides, and the tokens of a line are read from
its start, one whole word after another. Both find the same words. The spans of the
words among the tokens (`wordSpans`) are those of the words which stand in the line as
a whole (`mem_spansFrom_iff`), and there is a gap between any two
(`separated_spansFrom`). The word that touches a position is told by the two parts
into which the position cuts the line (`Touches.unique`), so at most one span reaches
there, and it is the one that the editor finds.
-/

namespace LineMacro

namespace Editor

/-- The position is inside the span or at one of its ends. -/
def Span.reaches (s : Span) (p : Int) : Bool := decide (s.start ≤ p ∧ p ≤ s.stop)

/-- The spans of the words among tokens, the first of which starts at the given
place. -/
def spansOf (start : Nat) : List Text.Token → List Span
  | [] => []
  | .word w :: ts => ⟨start, (start + w.length : Nat)⟩ :: spansOf (start + w.length) ts
  | .gap _ :: ts => spansOf (start + 1) ts

/-- The spans of the words of a text that starts at the given place, from left to
right. -/
def spansFrom (start : Nat) (text : Text) : List Span := spansOf start (Text.tokens text)

/-- The spans of the words of a line. -/
def wordSpans (line : Text) : List Span := spansFrom 0 line

variable {start : Nat} {c : Char} {t w text line : Text} {s r : Span} {p : Int}

/-! ## The spans that reading finds -/

theorem spansFrom_nil (start : Nat) : spansFrom start [] = [] := rfl

theorem spansFrom_gap (hc : Text.isWordChar c = false) :
    spansFrom start (c :: t) = spansFrom (start + 1) t := by
  rw [spansFrom, Table.tokens_gap hc]
  rfl

theorem spansFrom_word (h : Table.WordBefore w t) :
    spansFrom start (w ++ t) =
      ⟨start, (start + w.length : Nat)⟩ :: spansFrom (start + w.length) t := by
  rw [spansFrom, h.tokens_append]
  rfl

/-- **What reading finds** are the words that stand in the text as a whole. -/
theorem mem_spansFrom_iff :
    s ∈ spansFrom start text ↔ ∃ w after, Table.WordAt text w after ∧
      s.start + w.length = s.stop ∧ s.stop + after.length = start + text.length := by
  induction text using Table.word_induction generalizing start with
  | nil =>
    rw [spansFrom_nil]
    refine iff_of_false List.not_mem_nil ?_
    rintro ⟨w, after, hw, -⟩
    exact Table.not_wordOf_nil (Table.wordOf_iff_wordAt.2 ⟨after, hw⟩)
  | @gap c t hc ih =>
    have hlength : (start : Int) + (c :: t).length = (start + 1 : Nat) + t.length := by
      rw [List.length_cons]
      push_cast
      omega
    simp only [spansFrom_gap hc, ih, Table.wordAt_cons_iff hc, hlength]
  | @word v t hv ih =>
    have hlength : (start : Int) + (v ++ t).length = (start + v.length : Nat) + t.length := by
      rw [List.length_append]
      push_cast
      omega
    simp only [spansFrom_word hv, List.mem_cons, ih, hv.wordAt_append_iff, hlength]
    constructor
    · rintro (rfl | ⟨w, after, hw, hspan⟩)
      · exact ⟨v, t, Or.inl ⟨rfl, rfl⟩, by push_cast; rfl, rfl⟩
      · exact ⟨w, after, Or.inr hw, hspan⟩
    · rintro ⟨w, after, ⟨rfl, rfl⟩ | hw, hspan⟩
      · left
        obtain ⟨s₁, s₂⟩ := s
        simp only [Span.mk.injEq] at hspan ⊢
        omega
      · exact Or.inr ⟨w, after, hw, hspan⟩

theorem le_start_of_mem_spansFrom (h : s ∈ spansFrom start text) : start ≤ s.start := by
  obtain ⟨w, after, ⟨before, rfl, -⟩, hstop, hlength⟩ := mem_spansFrom_iff.1 h
  simp only [List.length_append] at hlength
  omega

/-- What follows a word starts no word at once. -/
theorem lt_start_of_mem_spansFrom (ht : ∀ c ∈ t.head?, Text.isWordChar c = false)
    (h : s ∈ spansFrom start t) : start < s.start := by
  cases t with
  | nil =>
    rw [spansFrom_nil] at h
    exact absurd h List.not_mem_nil
  | cons c t =>
    rw [spansFrom_gap (ht c rfl)] at h
    have hle := le_start_of_mem_spansFrom h
    omega

/-- **Words are apart**, and are found in their order. -/
theorem separated_spansFrom (start : Nat) (text : Text) :
    (spansFrom start text).Pairwise fun s r => s.stop < r.start := by
  induction text using Table.word_induction generalizing start with
  | nil =>
    rw [spansFrom_nil]
    exact .nil
  | gap hc ih =>
    rw [spansFrom_gap hc]
    exact ih (start + 1)
  | word hw ih =>
    rw [spansFrom_word hw]
    exact .cons (fun r hr => lt_start_of_mem_spansFrom hw.apart hr) (ih _)

/-- Of spans that are apart no more than one reaches a position. -/
theorem filter_reaches_of_mem {l : List Span} (hl : l.Pairwise fun s r => s.stop < r.start)
    (hs : s ∈ l) (hp : s.reaches p = true) : l.filter (·.reaches p) = [s] := by
  obtain ⟨before, after, rfl⟩ := List.append_of_mem hs
  rw [List.pairwise_append, List.pairwise_cons] at hl
  obtain ⟨-, ⟨hafter, -⟩, hbefore⟩ := hl
  simp only [Span.reaches, decide_eq_true_eq] at hp
  have hnone : ∀ r ∈ before ++ after, r.reaches p = false := by
    intro r hr
    simp only [Span.reaches, decide_eq_false_iff_not]
    rcases List.mem_append.1 hr with hr | hr
    · have hlt := hbefore r hr s List.mem_cons_self
      omega
    · have hlt := hafter r hr
      omega
  have hleft : before.filter (·.reaches p) = [] := by
    rw [List.filter_eq_nil_iff]
    intro r hr
    rw [hnone r (List.mem_append_left after hr)]
    exact Bool.false_ne_true
  have hright : after.filter (·.reaches p) = [] := by
    rw [List.filter_eq_nil_iff]
    intro r hr
    rw [hnone r (List.mem_append_right before hr)]
    exact Bool.false_ne_true
  rw [List.filter_append, List.filter_cons_of_pos (by simpa [Span.reaches] using hp), hleft, hright,
    List.nil_append]

/-! ## The word that touches a position -/

namespace Touches

variable {k : Nat} {before word after before' word' after' : Text}

/-- What comes before the word is what is left of the first part of the line without
the word characters at its end. -/
theorem before_eq (h : Touches line k before word after) :
    before = Text.dropTrailing Text.isWordChar (line.take k) := by
  have htake : line.take k = before ++ word.take (k - before.length) := by
    rw [h.line_eq, List.take_append, List.take_of_length_le h.le,
      List.take_append_of_le_length (Nat.sub_le_iff_le_add'.2 h.le_length)]
  rw [htake, Text.dropTrailing_append_of_ends
    (fun c hc => h.isWord c (List.mem_of_mem_take hc)) h.begins]

/-- What comes after it is what is left of the second part without those at its
start. -/
theorem after_eq (h : Touches line k before word after) :
    after = Text.afterWord (line.drop k) := by
  have hdrop : line.drop k = word.drop (k - before.length) ++ after := by
    rw [h.line_eq, List.drop_append, List.drop_eq_nil_of_le h.le, List.nil_append,
      List.drop_append_of_le_length (Nat.sub_le_iff_le_add'.2 h.le_length)]
  rw [hdrop, Text.afterWord, Text.dropWhile_append_of_ends
    (fun c hc => h.isWord c (List.mem_of_mem_drop hc)) h.apart]

/-- **One word touches a position**, or none does. -/
theorem unique (h : Touches line k before word after) (h' : Touches line k before' word' after') :
    before = before' ∧ word = word' := by
  have hbefore : before = before' := h.before_eq.trans h'.before_eq.symm
  have hafter : after = after' := h.after_eq.trans h'.after_eq.symm
  have hline := h.line_eq.symm.trans h'.line_eq
  rw [hbefore, hafter, List.append_cancel_left_eq, List.append_cancel_right_eq] at hline
  exact ⟨hbefore, hline⟩

/-- The span of the word. -/
theorem mem_wordSpans (h : Touches line k before word after) (hword : word ≠ []) :
    (⟨before.length, (before.length + word.length : Nat)⟩ : Span) ∈ wordSpans line := by
  refine mem_spansFrom_iff.2 ⟨word, after, ⟨before, h.line_eq, h.wordBetween hword⟩, ?_, ?_⟩
  · push_cast
    rfl
  · rw [h.line_eq]
    simp only [List.length_append]
    push_cast
    omega

end Touches

/-- A span of the line that reaches a position is that of a word which touches it. -/
theorem exists_touches_of_reaches {k : Nat} (hr : r ∈ wordSpans line)
    (hk : r.reaches k = true) :
    ∃ before word after, Touches line k before word after ∧
      r = ⟨before.length, (before.length + word.length : Nat)⟩ := by
  obtain ⟨word, after, ⟨before, hline, hword⟩, hstop, hlength⟩ := mem_spansFrom_iff.1 hr
  simp only [Span.reaches, decide_eq_true_eq] at hk
  rw [hline] at hlength
  simp only [List.length_append] at hlength
  push_cast at hlength
  obtain ⟨start, stop⟩ := r
  simp only at hk hstop hlength
  refine ⟨before, word, after,
    ⟨hline, hword.isWord, hword.begins, hword.apart, by omega, by omega⟩, ?_⟩
  rw [Span.mk.injEq]
  omega

/-- **The word at a position is one of the words of the line.** The span that the
editor finds holds the position, which is the end of the line if that is shorter. If
one of the words among the tokens of the line reaches there, it is the only one and the
span is its; otherwise the span is empty. -/
theorem wordAt_of_wordSpans (line : Text) (character : Nat) :
    let p := min character line.length
    ∃ s, wordAt line character = .ok s ∧ s.start ≤ p ∧ p ≤ s.stop ∧
      ((∃ r ∈ wordSpans line, r.reaches p = true) →
        (wordSpans line).filter (·.reaches p) = [s]) ∧
      ((∀ r ∈ wordSpans line, r.reaches p = false) → s = ⟨p, p⟩) := by
  intro p
  obtain ⟨before, word, after, htouches, hwordAt⟩ := exists_wordAt_eq line character
  have hle : before.length ≤ p := htouches.le
  have hstop : p ≤ before.length + word.length := htouches.le_length
  refine ⟨_, hwordAt, Int.ofNat_le.2 hle, Int.ofNat_le.2 hstop, ?_, ?_⟩
  · rintro ⟨r, hr, hreaches⟩
    obtain ⟨before', word', after', htouches', rfl⟩ := exists_touches_of_reaches hr hreaches
    obtain ⟨rfl, rfl⟩ := htouches.unique htouches'
    exact filter_reaches_of_mem (separated_spansFrom 0 line) hr hreaches
  · intro hnone
    -- a word that touches the position would be found, and would reach there
    have hword : word = [] := by
      by_contra hne
      have hreaches := hnone _ (htouches.mem_wordSpans hne)
      simp only [Span.reaches, decide_eq_false_iff_not] at hreaches
      omega
    subst hword
    rw [List.length_nil, Nat.add_zero] at hstop ⊢
    rw [Span.mk.injEq]
    omega

end Editor

end LineMacro
