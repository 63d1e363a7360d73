import LineMacro.Proofs.Expansion.Words
import LineMacro.Text.Alternation
/-!
# Text — every text is one alternation

Every text is written by an alternation of gaps and words (`exists_text_eq`), and
by one only (`eq_of_text_eq`): a gap ends where a word begins and a word where a gap
begins, so each of them is as long as the text lets it be. Replacing the words
of a text is replacing those of the alternation (`replaceWords_text`).
-/

namespace LineMacro

namespace Text

variable {c : Char} {g t u : Text} {f : Text → Text} {s : Stretch} {l l' : List Stretch}

/-! ## Replacing word by word -/

theorem replaceWords_gap (f : Text → Text) (hc : isWordChar c = false) :
    replaceWords f (c :: t) = c :: replaceWords f t := by
  rw [replaceWords, Table.tokens_gap hc]
  rfl

/-- A gap stays. -/
theorem replaceWords_append_of_gap (f : Text → Text) (hg : ∀ c ∈ g, isWordChar c = false) :
    replaceWords f (g ++ t) = g ++ replaceWords f t := by
  induction g with
  | nil => rfl
  | cons c g ih =>
    obtain ⟨hc, hg⟩ := List.forall_mem_cons.1 hg
    rw [List.cons_append, replaceWords_gap f hc, ih hg]
    rfl

/-- A word becomes its image. -/
theorem replaceWords_append_of_word {w : Text} (f : Text → Text) (h : Table.WordBefore w t) :
    replaceWords f (w ++ t) = f w ++ replaceWords f t := by
  rw [replaceWords, h.tokens_append]
  rfl

/-! ## Where words and gaps end -/

/-- Where two texts start with stretches of a class that end there, they start
with the same one. -/
theorem append_inj_of_ends {p : Char → Bool} {s s' : Text} (hs : ∀ c ∈ s, p c = true)
    (ht : ∀ c ∈ t.head?, p c = false) (hs' : ∀ c ∈ s', p c = true)
    (hu : ∀ c ∈ u.head?, p c = false) (h : s ++ t = s' ++ u) : s = s' ∧ t = u := by
  constructor
  · rw [← takeWhile_append_of_ends hs ht, h, takeWhile_append_of_ends hs' hu]
  · rw [← dropWhile_append_of_ends hs ht, h, dropWhile_append_of_ends hs' hu]

theorem gap_inj {g g' : Text} (hg : ∀ c ∈ g, isWordChar c = false)
    (ht : ∀ c ∈ t.head?, isWordChar c = true) (hg' : ∀ c ∈ g', isWordChar c = false)
    (hu : ∀ c ∈ u.head?, isWordChar c = true) (h : g ++ t = g' ++ u) : g = g' ∧ t = u :=
  append_inj_of_ends (p := fun c => !isWordChar c) (by simpa using hg) (by simpa using ht)
    (by simpa using hg') (by simpa using hu) h

namespace Stretch

theorem replaced_cons (f : Text → Text) (s : Stretch) (l : List Stretch) :
    replaced f (s :: l) = f s.word ++ (s.gap ++ replaced f l) := by
  rw [replaced, List.flatMap_cons, List.append_assoc]
  rfl

/-- Stretches begin with a word. -/
theorem isWordChar_of_mem_head? (hc : c ∈ (replaced id l).head?) : isWordChar c = true := by
  cases l with
  | nil => cases hc
  | cons s l =>
    obtain ⟨d, w, hw⟩ := List.exists_cons_of_ne_nil s.nonempty
    rw [replaced_cons, id, hw] at hc
    obtain rfl : d = c := Option.some.inj hc
    exact s.isWord d (hw ▸ List.mem_cons_self)

/-- The word of a stretch ends where its gap begins, or the text does. -/
theorem wordBefore (h : (s :: l).IsChain fun s _ => s.gap ≠ []) :
    Table.WordBefore s.word (s.gap ++ replaced id l) := by
  refine ⟨s.nonempty, s.isWord, fun c hc => ?_⟩
  cases hgap : s.gap with
  | cons d g =>
    rw [hgap] at hc
    obtain rfl : d = c := Option.some.inj hc
    exact s.isGap d (hgap ▸ List.mem_cons_self)
  | nil =>
    -- an empty gap is the last one, so there is no character after the word
    cases l with
    | nil =>
      rw [hgap] at hc
      cases hc
    | cons s' l => exact absurd hgap (List.isChain_cons_cons.1 h).1

/-- **Stretches are read off their text.** -/
theorem replaced_id_inj (h : l.IsChain fun s _ => s.gap ≠ [])
    (h' : l'.IsChain fun s _ => s.gap ≠ []) (heq : replaced id l = replaced id l') : l = l' := by
  induction l generalizing l' with
  | nil =>
    cases l' with
    | nil => rfl
    | cons s' l' =>
      rw [replaced_cons] at heq
      exact absurd (List.append_eq_nil_iff.1 heq.symm).1 s'.nonempty
  | cons s l ih =>
    cases l' with
    | nil =>
      rw [replaced_cons] at heq
      exact absurd (List.append_eq_nil_iff.1 heq).1 s.nonempty
    | cons s' l' =>
      have hword := wordBefore h
      have hword' := wordBefore h'
      rw [replaced_cons, replaced_cons] at heq
      obtain ⟨hw, hrest⟩ := append_inj_of_ends hword.isWord hword.apart hword'.isWord
        hword'.apart heq
      obtain ⟨hg, htail⟩ := gap_inj s.isGap (fun c => isWordChar_of_mem_head?) s'.isGap
        (fun c => isWordChar_of_mem_head?) hrest
      have hstretches : l = l' := ih h.tail h'.tail htail
      rw [Stretch.ext hw hg, hstretches]

theorem replaceWords_replaced (f : Text → Text) (h : l.IsChain fun s _ => s.gap ≠ []) :
    replaceWords f (replaced id l) = replaced f l := by
  induction l with
  | nil => rfl
  | cons s l ih =>
    rw [replaced_cons, id, replaceWords_append_of_word f (wordBefore h),
      replaceWords_append_of_gap f s.isGap, ih h.tail, replaced_cons]

end Stretch

namespace Alternation

/-- **No other alternation writes the text.** -/
theorem eq_of_text_eq {a b : Alternation} (h : a.text = b.text) : a = b := by
  obtain ⟨hlead, hrest⟩ := gap_inj a.isGap (fun c => Stretch.isWordChar_of_mem_head?) b.isGap
    (fun c => Stretch.isWordChar_of_mem_head?) h
  exact Alternation.ext hlead (Stretch.replaced_id_inj a.apart b.apart hrest)

/-- **Replacing words** is replacing those of the alternation. -/
theorem replaceWords_text (f : Text → Text) (a : Alternation) :
    replaceWords f a.text = a.replaced f := by
  rw [text, replaced, replaceWords_append_of_gap f a.isGap,
    Stretch.replaceWords_replaced f a.apart]
  rfl

/-- **Every text is written by an alternation.** -/
theorem exists_text_eq (t : Text) : ∃ a : Alternation, a.text = t := by
  induction t using Table.word_induction with
  | nil => exact ⟨⟨[], [], nofun, .nil⟩, rfl⟩
  | @gap c t hc ih =>
    obtain ⟨a, rfl⟩ := ih
    exact ⟨⟨c :: a.lead, a.stretches, List.forall_mem_cons.2 ⟨hc, a.isGap⟩, a.apart⟩, rfl⟩
  | @word w t hw ih =>
    obtain ⟨a, rfl⟩ := ih
    -- what was the lead of the rest is now the gap after the word
    have hchain : (⟨w, a.lead, hw.nonempty, hw.isWord, a.isGap⟩ :: a.stretches).IsChain
        fun s _ => s.gap ≠ [] := by
      obtain ⟨lead, stretches, -, hapart⟩ := a
      cases stretches with
      | nil => exact .singleton _
      | cons s l =>
        refine List.isChain_cons_cons.2 ⟨fun hnil => ?_, hapart⟩
        -- else the word would go on with that of the first stretch
        obtain rfl : lead = [] := hnil
        obtain ⟨d, v, hv⟩ := List.exists_cons_of_ne_nil s.nonempty
        have hhead : (Stretch.replaced id (s :: l)).head? = some d := by
          rw [Stretch.replaced_cons, id, hv]
          rfl
        have hword := s.isWord d (hv ▸ List.mem_cons_self)
        rw [hw.apart d hhead] at hword
        cases hword
    exact ⟨⟨[], ⟨w, a.lead, hw.nonempty, hw.isWord, a.isGap⟩ :: a.stretches, nofun, hchain⟩,
      Stretch.replaced_cons id _ _⟩

end Alternation

end Text

end LineMacro
