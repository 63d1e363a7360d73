import LineMacro.Arguments.Balanced
import LineMacro.Proofs.Text.Padding
/-!
# Argument lists — heights read from a depth

A reader of parentheses keeps a depth, and what it does next depends on that
depth and on the rest of the text. So balance and freedom from commas are
stated here for a text that is read from any depth; at depth zero they are
`Balanced` and `CommaFree`. Each statement unfolds along the first character,
which is how the readers are followed.
-/

namespace LineMacro

namespace Arguments

/-- Read from the depth, the text never closes more than is open. -/
def NeverBelow (depth : Int) (t : Text) : Prop := ∀ p, p <+: t → 0 ≤ depth + height p

/-- Read from the depth, the text closes all that is open, and never more. -/
def BalancedAt (depth : Int) (t : Text) : Prop := NeverBelow depth t ∧ depth + height t = 0

/-- Read from the depth, no comma of the text stands at depth zero. -/
def CommaFreeAt (depth : Int) (t : Text) : Prop := ∀ p, p ++ [','] <+: t → depth + height p ≠ 0

variable {depth : Int} {c : Char} {s t : Text}

theorem balanced_iff_balancedAt : Balanced t ↔ BalancedAt 0 t := by
  constructor
  · rintro ⟨hn, hl⟩
    exact ⟨fun p hp => by rw [Int.zero_add]; exact hn p hp, by rw [Int.zero_add]; exact hl⟩
  · rintro ⟨hn, hl⟩
    exact ⟨fun p hp => by rw [← Int.zero_add (height p)]; exact hn p hp, by
      rw [← Int.zero_add (height t)]; exact hl⟩

theorem commaFree_iff_commaFreeAt : CommaFree t ↔ CommaFreeAt 0 t := by
  simp only [CommaFree, CommaFreeAt, Int.zero_add]

/-! ## Character by character -/

theorem NeverBelow.nonneg (h : NeverBelow depth t) : 0 ≤ depth := by
  have := h [] List.nil_prefix
  rw [height_nil] at this
  omega

theorem neverBelow_nil (h : 0 ≤ depth) : NeverBelow depth [] := by
  intro p hp
  rw [List.prefix_nil.1 hp, height_nil]
  omega

theorem neverBelow_cons :
    NeverBelow depth (c :: t) ↔ 0 ≤ depth ∧ NeverBelow (depth + depthChange c) t := by
  constructor
  · intro h
    refine ⟨h.nonneg, fun p hp => ?_⟩
    have := h (c :: p) (List.cons_prefix_cons.2 ⟨rfl, hp⟩)
    rw [height_cons] at this
    omega
  · rintro ⟨h0, h⟩ p hp
    rcases List.prefix_cons_iff.1 hp with rfl | ⟨q, rfl, hq⟩
    · rw [height_nil]
      omega
    · have := h q hq
      rw [height_cons]
      omega

theorem balancedAt_nil : BalancedAt depth [] ↔ depth = 0 := by
  constructor
  · rintro ⟨-, h⟩
    rw [height_nil] at h
    omega
  · rintro rfl
    exact ⟨neverBelow_nil (Int.le_refl 0), rfl⟩

theorem balancedAt_cons :
    BalancedAt depth (c :: t) ↔ 0 ≤ depth ∧ BalancedAt (depth + depthChange c) t := by
  rw [BalancedAt, BalancedAt, neverBelow_cons, height_cons, ← Int.add_assoc, and_assoc]

theorem commaFreeAt_nil : CommaFreeAt depth [] := by
  intro p hp
  exact absurd (List.prefix_nil.1 hp) (by simp)

theorem commaFreeAt_cons :
    CommaFreeAt depth (c :: t) ↔
      ¬ (c = ',' ∧ depth = 0) ∧ CommaFreeAt (depth + depthChange c) t := by
  constructor
  · intro h
    refine ⟨?_, fun p hp => ?_⟩
    · rintro ⟨rfl, rfl⟩
      exact h [] (List.prefix_append [','] t) rfl
    · have := h (c :: p) (List.cons_prefix_cons.2 ⟨rfl, hp⟩)
      rw [height_cons] at this
      omega
  · rintro ⟨h0, h⟩ p hp
    cases p with
    | nil =>
      obtain ⟨rfl, -⟩ := List.cons_prefix_cons.1 hp
      rw [height_nil]
      exact fun hd => h0 ⟨rfl, by omega⟩
    | cons a p =>
      obtain ⟨rfl, htail⟩ := List.cons_prefix_cons.1 hp
      have := h p htail
      rw [height_cons]
      omega

/-! ## Stretch by stretch

What follows a stretch of a text is read from the depth that the stretch
left. -/

theorem neverBelow_append :
    NeverBelow depth (s ++ t) ↔ NeverBelow depth s ∧ NeverBelow (depth + height s) t := by
  induction s generalizing depth with
  | nil =>
    rw [List.nil_append, height_nil, Int.add_zero]
    exact ⟨fun h => ⟨neverBelow_nil h.nonneg, h⟩, And.right⟩
  | cons c s ih =>
    rw [List.cons_append, neverBelow_cons, neverBelow_cons, ih, height_cons, ← Int.add_assoc,
      and_assoc]

theorem balancedAt_append :
    BalancedAt depth (s ++ t) ↔ NeverBelow depth s ∧ BalancedAt (depth + height s) t := by
  rw [BalancedAt, BalancedAt, neverBelow_append, height_append, ← Int.add_assoc, and_assoc]

theorem commaFreeAt_append :
    CommaFreeAt depth (s ++ t) ↔ CommaFreeAt depth s ∧ CommaFreeAt (depth + height s) t := by
  induction s generalizing depth with
  | nil =>
    rw [List.nil_append, height_nil, Int.add_zero]
    exact ⟨fun h => ⟨commaFreeAt_nil, h⟩, And.right⟩
  | cons c s ih =>
    rw [List.cons_append, commaFreeAt_cons, commaFreeAt_cons, ih, height_cons, ← Int.add_assoc,
      and_assoc]

theorem BalancedAt.of_append (h : BalancedAt depth (s ++ t)) :
    BalancedAt (depth + height s) t :=
  (balancedAt_append.1 h).2

/-- So the end of a balanced text is balanced from some depth. -/
theorem BalancedAt.exists_of_suffix (h : BalancedAt depth t) (hs : s <:+ t) :
    ∃ depth', BalancedAt depth' s := by
  obtain ⟨r, rfl⟩ := hs
  exact ⟨depth + height r, h.of_append⟩

/-- Characters that are no parentheses change no depth. -/
theorem height_eq_zero (h : ∀ c ∈ t, c ≠ '(' ∧ c ≠ ')') : height t = 0 := by
  induction t with
  | nil => rfl
  | cons c t ih =>
    have hc := h c List.mem_cons_self
    rw [height_cons, depthChange, if_neg hc.1, if_neg hc.2,
      ih fun d hd => h d (List.mem_cons_of_mem c hd)]
    rfl

/-! ## Blanks

Blanks change no depth and separate nothing, so those around a text count
neither for its balance nor for its commas. -/

theorem height_blanks (h : ∀ c ∈ t, Text.isBlank c = true) : height t = 0 := by
  refine height_eq_zero fun c hc => ⟨?_, ?_⟩
  · rintro rfl
    exact absurd (h _ hc) (by decide)
  · rintro rfl
    exact absurd (h _ hc) (by decide)

theorem neverBelow_blanks (hd : 0 ≤ depth) (h : ∀ c ∈ t, Text.isBlank c = true) :
    NeverBelow depth t := by
  intro p hp
  have hlevel : height p = 0 := height_blanks fun c hc => h c (hp.subset hc)
  omega

theorem commaFreeAt_blanks (h : ∀ c ∈ t, Text.isBlank c = true) : CommaFreeAt depth t := by
  intro p hp
  have hcomma : ',' ∈ t := hp.subset (List.mem_append_right p List.mem_cons_self)
  exact absurd (h _ hcomma) (by decide)

variable {p : Text}

theorem balanced_iff_of_pads (h : Text.Pads t p) : Balanced p ↔ Balanced t := by
  obtain ⟨lead, trail, rfl, hlead, htrail⟩ := h
  have hl := height_blanks hlead
  have hr := height_blanks htrail
  rw [balanced_iff_balancedAt, balanced_iff_balancedAt, List.append_assoc, balancedAt_append, hl,
    Int.add_zero, and_iff_right (neverBelow_blanks (Int.le_refl 0) hlead), BalancedAt, BalancedAt,
    neverBelow_append, height_append, hr, Int.add_zero]
  constructor
  · rintro ⟨⟨ht, -⟩, hlevel⟩
    exact ⟨ht, hlevel⟩
  · rintro ⟨ht, hlevel⟩
    exact ⟨⟨ht, neverBelow_blanks (Int.le_of_eq hlevel.symm) htrail⟩, hlevel⟩

theorem commaFree_iff_of_pads (h : Text.Pads t p) : CommaFree p ↔ CommaFree t := by
  obtain ⟨lead, trail, rfl, hlead, htrail⟩ := h
  rw [commaFree_iff_commaFreeAt, commaFree_iff_commaFreeAt, commaFreeAt_append,
    commaFreeAt_append, height_blanks hlead]
  exact ⟨fun h => h.1.2, fun h => ⟨⟨commaFreeAt_blanks hlead, h⟩, commaFreeAt_blanks htrail⟩⟩

end Arguments

end LineMacro
