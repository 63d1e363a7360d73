import LineMacro.Expansion.Calls
import LineMacro.Proofs.Arguments.Closing
import LineMacro.Proofs.Arguments.Pieces
/-!
# Expansion — what is read

The reader takes one item off the front of a text, and whatever is said of a
text later follows its items. Here is that it finds exactly the item which
stands there (`reads_iff`), and the induction along items and into the
arguments of calls that every other statement uses (`reading_induction`).
-/

namespace LineMacro

namespace Table

variable {tbl : Table} {c : Char} {t w inner : Text} {m : Macro} {item : Item}

/-! ## Words -/

/-- A text that starts with a word character starts with a word. -/
theorem exists_wordBefore (hc : Text.isWordChar c = true) :
    ∃ w u, WordBefore w u ∧ w ++ u = c :: t := by
  refine ⟨Text.word (c :: t), Text.afterWord (c :: t), ⟨?_, ?_, ?_⟩, Text.word_append_afterWord _⟩
  · rw [Text.word, List.takeWhile_cons_of_pos hc]
    exact List.cons_ne_nil c _
  · exact List.all_eq_true.1 List.all_takeWhile
  · exact fun d hd => Text.eq_false_of_mem_head?_dropWhile hd

theorem WordBefore.word_append (h : WordBefore w t) : Text.word (w ++ t) = w :=
  Text.takeWhile_append_of_ends h.isWord h.apart

theorem WordBefore.afterWord_append (h : WordBefore w t) : Text.afterWord (w ++ t) = t :=
  Text.dropWhile_append_of_ends h.isWord h.apart

theorem WordBefore.isWordChar_of_append_eq {u : Text} (h : WordBefore w t)
    (heq : w ++ t = c :: u) : Text.isWordChar c = true := by
  cases w with
  | nil => exact absurd rfl h.nonempty
  | cons d w =>
    obtain ⟨rfl, -⟩ := List.cons.inj heq
    exact h.isWord d List.mem_cons_self

/-! ## The reader finds what is there -/

/-- Reading at a word goes by what the word stands for. -/
theorem read_of_wordBefore {u : Text} (h : WordBefore w t) (heq : w ++ t = c :: u) :
    tbl.read c u =
      match tbl.lookup w with
      | none => .plain w t
      | some m => if m.isParameterized then readCall m w t else .constant m t := by
  have hc := h.isWordChar_of_append_eq heq
  have hword : Text.word (c :: u) = w := heq ▸ h.word_append
  have hafter : Text.afterWord (c :: u) = t := heq ▸ h.afterWord_append
  subst hword hafter
  exact if_pos hc

theorem readCall_of_balanced (h : Arguments.Balanced inner) :
    readCall m w ('(' :: (inner ++ ')' :: t)) = .call m inner t := by
  have hk := Arguments.closing?_one_eq_some_iff.2 ⟨inner, t, rfl, h, rfl⟩
  simp only [readCall, hk]
  rw [List.take_left, List.drop_append, List.drop_eq_nil_of_le (Nat.le_succ _)]
  simp

theorem readCall_of_unbalanced
    (h : ∀ inner rest, t = inner ++ ')' :: rest → ¬ Arguments.Balanced inner) :
    readCall m w ('(' :: t) = .unclosed m := by
  cases hk : Arguments.closing? 1 t with
  | none => simp only [readCall, hk]
  | some k =>
    obtain ⟨inner, rest, ht, hb, -⟩ := Arguments.closing?_one_eq_some_iff.1 hk
    exact absurd hb (h inner rest ht)

theorem readCall_of_head?_ne (h : t.head? ≠ some '(') : readCall m w t = .plain w t := by
  unfold readCall
  split
  · exact absurd rfl h
  · rfl

/-- Where a macro with parameters stands, one of the three things that can
follow it does. -/
theorem reads_readCall (hw : WordBefore w t) (hm : tbl.lookup w = some m)
    (hp : m.parameters ≠ []) : Reads tbl (w ++ t) (readCall m w t) := by
  by_cases hhead : t.head? = some '('
  · obtain ⟨t, rfl⟩ := List.head?_eq_some_iff.1 hhead
    by_cases hclosed : ∃ inner rest, t = inner ++ ')' :: rest ∧ Arguments.Balanced inner
    · obtain ⟨inner, rest, rfl, hb⟩ := hclosed
      rw [readCall_of_balanced hb]
      exact .call hw hm hp hb
    · have hopen : ∀ inner rest, t = inner ++ ')' :: rest → ¬ Arguments.Balanced inner :=
        fun inner rest ht hb => hclosed ⟨inner, rest, ht, hb⟩
      rw [readCall_of_unbalanced hopen]
      exact .unclosed hw hm hp hopen
  · rw [readCall_of_head?_ne hhead]
    exact .bare hw hm hp hhead

/-- **The reader finds what is there.** -/
theorem reads_read (tbl : Table) (c : Char) (t : Text) : Reads tbl (c :: t) (tbl.read c t) := by
  by_cases hc : Text.isWordChar c = true
  · obtain ⟨w, u, hw, heq⟩ := exists_wordBefore (t := t) hc
    rw [read_of_wordBefore hw heq, ← heq]
    cases hm : tbl.lookup w with
    | none => exact .other hw hm
    | some m =>
      by_cases hp : m.isParameterized = true
      · simp only [if_pos hp]
        exact reads_readCall hw hm (Macro.isParameterized_iff.1 hp)
      · simp only [if_neg hp]
        exact .constant hw hm (by simpa [Macro.isParameterized_iff] using hp)
  · rw [read, if_neg hc]
    exact .gap (by simpa using hc)

/-- **Nothing else is there.** -/
theorem Reads.read_eq {text : Text} (h : Reads tbl text item) (heq : text = c :: t) :
    tbl.read c t = item := by
  cases h with
  | gap hc =>
    obtain ⟨rfl, rfl⟩ := List.cons.inj heq
    rw [read, if_neg (by simp [hc])]
  | other hw hm =>
    rw [read_of_wordBefore hw heq, hm]
  | constant hw hm hp =>
    rw [read_of_wordBefore hw heq, hm]
    exact if_neg fun h => Macro.isParameterized_iff.1 h hp
  | bare hw hm hp hhead =>
    rw [read_of_wordBefore hw heq, hm]
    exact (if_pos (Macro.isParameterized_iff.2 hp)).trans (readCall_of_head?_ne hhead)
  | call hw hm hp hb =>
    rw [read_of_wordBefore hw heq, hm]
    exact (if_pos (Macro.isParameterized_iff.2 hp)).trans (readCall_of_balanced hb)
  | unclosed hw hm hp hopen =>
    rw [read_of_wordBefore hw heq, hm]
    exact (if_pos (Macro.isParameterized_iff.2 hp)).trans (readCall_of_unbalanced hopen)

theorem reads_iff : Reads tbl (c :: t) item ↔ tbl.read c t = item :=
  ⟨fun h => h.read_eq rfl, fun h => h ▸ reads_read tbl c t⟩

theorem Reads.exists_cons {text : Text} (h : Reads tbl text item) :
    ∃ c t, text = c :: t ∧ tbl.read c t = item := by
  have hne : text ≠ [] := by
    cases h with
    | gap => exact List.cons_ne_nil _ _
    | other hw | constant hw | bare hw | call hw | unclosed hw =>
      exact List.append_ne_nil_of_left_ne_nil hw.nonempty _
  obtain ⟨c, t, rfl⟩ := List.exists_cons_of_ne_nil hne
  exact ⟨c, t, rfl, h.read_eq rfl⟩

/-! ## What follows an item -/

/-- What is left to read after an item. Nothing is read after a call that is
not closed. -/
def Item.rest : Item → Text
  | .plain _ rest | .constant _ rest | .call _ _ rest => rest
  | .unclosed _ => []

/-- The item with something else after it. -/
def Item.withRest (r : Text) : Item → Item
  | .plain copied _ => .plain copied r
  | .constant m _ => .constant m r
  | .call m inner _ => .call m inner r
  | .unclosed m => .unclosed m

theorem Reads.rest_suffix {text : Text} (h : Reads tbl text item) : item.rest <:+ text := by
  cases h with
  | gap => exact List.suffix_cons _ _
  | other | constant | bare => exact List.suffix_append _ _
  | call =>
    refine List.IsSuffix.trans ?_ (List.suffix_append _ _)
    refine List.IsSuffix.trans ?_ (List.suffix_cons _ _)
    exact List.IsSuffix.trans (List.suffix_cons _ _) (List.suffix_append _ _)
  | unclosed => exact List.nil_suffix

/-! ## Induction along the items -/

/-- **Induction on reading.** What holds of a text if it holds of what follows
its first item, and of the arguments if that item is a call, holds of every
text. -/
@[elab_as_elim]
theorem reading_induction (tbl : Table) {motive : Text → Prop} (nil : motive [])
    (plain : ∀ {c : Char} {t copied rest : Text},
      tbl.read c t = .plain copied rest → motive rest → motive (c :: t))
    (constant : ∀ {c : Char} {t : Text} {m : Macro} {rest : Text},
      tbl.read c t = .constant m rest → motive rest → motive (c :: t))
    (call : ∀ {c : Char} {t : Text} {m : Macro} {inner rest : Text},
      tbl.read c t = .call m inner rest → (∀ a ∈ Arguments.split inner, motive a) →
        motive rest → motive (c :: t))
    (unclosed : ∀ {c : Char} {t : Text} {m : Macro},
      tbl.read c t = .unclosed m → motive (c :: t))
    (text : Text) : motive text :=
  match text with
  | [] => nil
  | c :: t =>
    match h : tbl.read c t with
    | .plain _ rest => plain h (reading_induction tbl nil plain constant call unclosed rest)
    | .constant _ rest => constant h (reading_induction tbl nil plain constant call unclosed rest)
    | .call _ inner rest =>
      call h (fun a _ => reading_induction tbl nil plain constant call unclosed a)
        (reading_induction tbl nil plain constant call unclosed rest)
    | .unclosed _ => unclosed h
termination_by text.length
decreasing_by
  all_goals
    have hfits := tbl.read_fits c t
    rw [h] at hfits
  · exact hfits
  · exact hfits
  · rename_i ha
    exact Nat.lt_trans (Arguments.length_lt_weight ha) hfits.2
  · exact hfits.1

end Table

end LineMacro
