import LineMacro.Proofs.Expansion.Append
/-!
# Expansion — the words of a text

What an expansion looks up are words, and each of them stands as a whole in the
text it started from (`WordOf`): what follows an item brings no new words
(`Reads.wordOf_rest`), and neither do the arguments of a call, which are cut out
at commas, blanks and parentheses (`Reads.wordOf_argument`). The words of a text
are those among its tokens (`wordOf_iff_mem_tokens`).
-/

namespace LineMacro

namespace Table

variable {tbl : Table} {before w after s t text inner rest a : Text} {c : Char} {m : Macro}
variable {item : Item}

/-- The word stands somewhere in the text as a whole: no word character comes
just before it or just after it. -/
def WordOf (text w : Text) : Prop :=
  ∃ before after, text = before ++ (w ++ after) ∧ WordBetween before w after

/-- The word stands in the text as a whole, and this is what follows it. -/
def WordAt (text w after : Text) : Prop :=
  ∃ before, text = before ++ (w ++ after) ∧ WordBetween before w after

theorem wordOf_iff_wordAt : WordOf text w ↔ ∃ after, WordAt text w after := exists_comm

theorem WordBefore.wordOf (h : WordBefore w t) : WordOf (w ++ t) w :=
  ⟨[], t, rfl, h, by simp⟩

theorem not_wordOf_nil : ¬ WordOf [] w := by
  rintro ⟨before, after, htext, hw⟩
  have hnil : before = [] ∧ w = [] ∧ after = [] := by simpa using htext.symm
  exact hw.nonempty hnil.2.1

/-! ## Words of a part of a text -/

/-- What comes before a text leaves its words whole, if no word runs across. -/
theorem WordOf.append_left (h : WordOf t w) (hp : Apart s t) : WordOf (s ++ t) w := by
  obtain ⟨before, after, rfl, hw⟩ := h
  exact ⟨s ++ before, after, (List.append_assoc _ _ _).symm, hw.append_left hp⟩

/-- So does what comes after it. -/
theorem WordOf.append_right (h : WordOf s w) (hp : Apart s t) : WordOf (s ++ t) w := by
  obtain ⟨before, after, rfl, hw⟩ := h
  refine ⟨before, after ++ t, by simp, hw.toWordBefore.append hp.of_append_left, hw.begins⟩

/-- **What follows an item brings no new words.** -/
theorem Reads.wordOf_rest (h : Reads tbl text item) (hw : WordOf item.rest w) :
    WordOf text w := by
  by_cases hclosed : ∃ m, item = .unclosed m
  · obtain ⟨m, rfl⟩ := hclosed
    exact absurd hw not_wordOf_nil
  · obtain ⟨copied, htext, hapart, -⟩ := h.exists_passed fun m hm => hclosed ⟨m, hm⟩
    rw [htext]
    exact hw.append_left hapart

theorem isWordChar_of_eq_comma_or_isBlank (h : c = ',' ∨ Text.isBlank c = true) :
    Text.isWordChar c = false := by
  rcases h with rfl | h
  · decide
  · exact Text.isWordChar_of_isBlank h

/-- **Neither do the arguments of a call.** -/
theorem Reads.wordOf_argument (h : Reads tbl text (.call m inner rest))
    (ha : a ∈ Arguments.split inner) (hw : WordOf a w) : WordOf text w := by
  cases h with
  | @call v _ _ _ _ _ _ _ =>
    obtain ⟨before, after, rfl, hbefore, hafter⟩ := Arguments.exists_of_mem_split ha
    have hright : Apart a (after ++ ')' :: rest) := by
      refine fun c _ d hd => Or.inr ?_
      rw [List.head?_append, Option.mem_def, Option.or_eq_some_iff] at hd
      rcases hd with hd | ⟨-, hd⟩
      · exact isWordChar_of_eq_comma_or_isBlank (hafter d hd)
      · obtain rfl : ')' = d := Option.some.inj hd
        decide
    have hleft : Apart (v ++ '(' :: before) (a ++ (after ++ ')' :: rest)) := by
      refine fun c hc d _ => Or.inl ?_
      rcases List.eq_nil_or_concat before with rfl | ⟨b, d, rfl⟩
      · rw [List.getLast?_concat] at hc
        obtain rfl : '(' = c := Option.some.inj hc
        decide
      · rw [List.concat_eq_append, ← List.cons_append, ← List.append_assoc,
          List.getLast?_concat] at hc
        obtain rfl : d = c := Option.some.inj hc
        exact isWordChar_of_eq_comma_or_isBlank (hbefore d (by simp))
    have htext : v ++ '(' :: ((before ++ (a ++ after)) ++ ')' :: rest) =
        (v ++ '(' :: before) ++ (a ++ (after ++ ')' :: rest)) := by simp
    rw [htext]
    exact (hw.append_right hright).append_left hleft

/-! ## The words among the tokens -/

/-- **Induction word by word.** What holds of a text if it holds of what follows
its first word, or its first character outside words, holds of every text. -/
@[elab_as_elim]
theorem word_induction {motive : Text → Prop} (nil : motive [])
    (gap : ∀ {c : Char} {t : Text}, Text.isWordChar c = false → motive t → motive (c :: t))
    (word : ∀ {w t : Text}, WordBefore w t → motive t → motive (w ++ t)) (text : Text) :
    motive text := by
  induction hn : text.length using Nat.strongRecOn generalizing text with
  | _ n ih =>
    cases text with
    | nil => exact nil
    | cons c t =>
      by_cases hc : Text.isWordChar c = true
      · obtain ⟨w, u, hw, heq⟩ := exists_wordBefore (t := t) hc
        have hlength := congrArg List.length heq
        have hpos := List.length_pos_iff.2 hw.nonempty
        rw [List.length_append] at hlength
        rw [← heq]
        exact word hw (ih u.length (by omega) u rfl)
      · exact gap (by simpa using hc) (ih t.length (by rw [← hn]; exact Nat.lt_succ_self _) t rfl)

theorem tokens_gap (h : Text.isWordChar c = false) :
    Text.tokens (c :: t) = .gap c :: Text.tokens t := by
  rw [Text.tokens, if_neg (by simp [h])]

/-- Tokens start with a word only where the text does. -/
theorem tokens_ne_word (h : ∀ c ∈ t.head?, Text.isWordChar c = false) (l : List Text.Token) :
    Text.tokens t ≠ .word w :: l := by
  cases t with
  | nil => simp [Text.tokens]
  | cons c t => simp [tokens_gap (h c rfl)]

theorem WordBefore.tokens_append (h : WordBefore w t) :
    Text.tokens (w ++ t) = .word w :: Text.tokens t := by
  obtain ⟨hne, hword, hapart⟩ := h
  induction w with
  | nil => exact absurd rfl hne
  | cons c w ih =>
    rw [List.cons_append, Text.tokens, if_pos (hword c List.mem_cons_self)]
    cases w with
    | nil =>
      rw [List.nil_append]
      split
      · rename_i v l htokens
        exact absurd htokens (tokens_ne_word hapart l)
      · rfl
    | cons d w =>
      -- by induction the tokens of what follows start with the rest of the word
      rw [ih (List.cons_ne_nil d w) fun e he => hword e (List.mem_cons_of_mem c he)]

/-- Where two words before the same text are the start of one text, they are
one word. -/
theorem WordBefore.eq_of_append_eq {v u : Text} (hw : WordBefore w t) (hv : WordBefore v u)
    (heq : w ++ t = v ++ u) : w = v := by
  rw [← hw.word_append, ← hv.word_append, heq]

/-- In a text that starts with a word there stand that one and those of what
follows it. -/
theorem WordBefore.wordAt_append_iff {v : Text} (h : WordBefore v t) :
    WordAt (v ++ t) w after ↔ w = v ∧ after = t ∨ WordAt t w after := by
  constructor
  · rintro ⟨before, heq, hw⟩
    rcases List.append_eq_append_iff.1 heq with ⟨s, rfl, ht⟩ | ⟨s, rfl, hs⟩
    · exact Or.inr ⟨s, ht, hw.toWordBefore,
        fun c hc => hw.begins c (List.mem_getLast?_append_of_mem_getLast? hc)⟩
    · -- the word begins inside the first one, so at its start
      rcases List.eq_nil_or_concat before with rfl | ⟨b, d, rfl⟩
      · obtain rfl : w = s := hw.toWordBefore.eq_of_append_eq h hs
        exact Or.inl ⟨rfl, List.append_cancel_left hs⟩
      · have hd := h.isWord d (by simp)
        rw [hw.begins d (by simp)] at hd
        cases hd
  · rintro (⟨rfl, rfl⟩ | ⟨before, rfl, hw⟩)
    · exact ⟨[], rfl, h, by simp⟩
    · exact ⟨v ++ before, (List.append_assoc _ _ _).symm,
        hw.append_left fun _ _ d hd => Or.inr (h.apart d hd)⟩

/-- A character outside words is in none. -/
theorem wordAt_cons_iff (hc : Text.isWordChar c = false) :
    WordAt (c :: t) w after ↔ WordAt t w after := by
  constructor
  · rintro ⟨before, heq, hw⟩
    cases before with
    | nil =>
      have hword := hw.toWordBefore.isWordChar_of_append_eq heq.symm
      rw [hc] at hword
      cases hword
    | cons d before =>
      obtain ⟨rfl, rfl⟩ := List.cons.inj heq
      exact ⟨before, rfl, hw.toWordBefore, fun e he => hw.begins e (List.mem_getLast?_cons he)⟩
  · rintro ⟨before, rfl, hw⟩
    have hapart : Apart [c] (before ++ (w ++ after)) := by
      intro d hd _ _
      obtain rfl : c = d := Option.some.inj hd
      exact Or.inl hc
    exact ⟨c :: before, rfl, hw.append_left hapart⟩

theorem WordBefore.wordOf_append_iff {v : Text} (h : WordBefore v t) :
    WordOf (v ++ t) w ↔ w = v ∨ WordOf t w := by
  simp only [wordOf_iff_wordAt, h.wordAt_append_iff, exists_or, exists_and_left, exists_eq,
    and_true]

theorem wordOf_cons_iff (hc : Text.isWordChar c = false) : WordOf (c :: t) w ↔ WordOf t w := by
  simp only [wordOf_iff_wordAt, wordAt_cons_iff hc]

/-- **The words of a text are those among its tokens.** -/
theorem wordOf_iff_mem_tokens : WordOf text w ↔ .word w ∈ Text.tokens text := by
  induction text using word_induction with
  | nil => exact iff_of_false not_wordOf_nil (by simp [Text.tokens])
  | gap hc ih => rw [wordOf_cons_iff hc, ih, tokens_gap hc]; simp
  | word hv ih => rw [hv.wordOf_append_iff, ih, hv.tokens_append]; simp

end Table

end LineMacro
