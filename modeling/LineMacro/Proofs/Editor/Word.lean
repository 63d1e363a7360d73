import LineMacro.Editor
import LineMacro.Proofs.Expansion.Words
/-!
# Editor answers — the word at a position

A position of a line cuts it in two, and the word that touches it is what the
one part ends with and the other starts with (`touches_cut`). So the span that
the editor finds holds whole words only (`Touches.wordOf`): what can be looked
up there is what the expander would look up.
-/

namespace LineMacro

namespace Editor

/-- The line is made up of a word that touches the position, and of what comes
before and after it. Where no word touches it, the word is empty. -/
structure Touches (line : Text) (p : Nat) (before word after : Text) : Prop where
  line_eq : line = before ++ (word ++ after)
  isWord : ∀ c ∈ word, Text.isWordChar c = true
  begins : ∀ c ∈ before.getLast?, Text.isWordChar c = false
  apart : ∀ c ∈ after.head?, Text.isWordChar c = false
  /-- The position is not before the word. -/
  le : before.length ≤ p
  /-- Nor is it behind it. -/
  le_length : p ≤ before.length + word.length

namespace Touches

variable {line before word after : Text} {p : Nat}

/-- What is not empty is one of the words that the expander reads. -/
theorem wordBetween (h : Touches line p before word after) (hword : word ≠ []) :
    Table.WordBetween before word after := ⟨⟨hword, h.isWord, h.apart⟩, h.begins⟩

theorem wordOf (h : Touches line p before word after) (hword : word ≠ []) :
    Table.WordOf line word := ⟨before, after, h.line_eq, h.wordBetween hword⟩

/-- The span of a word is empty only if the word is. -/
theorem start_eq_stop_iff :
    (before.length : Int) = (before.length + word.length : Nat) ↔ word = [] := by
  rw [← List.length_eq_zero_iff]
  omega

/-- The start of the line, up to the word. -/
theorem upTo_eq (h : Touches line p before word after) :
    Position.upTo before.length line = before := by
  rw [Position.upTo_natCast, h.line_eq, List.take_left]

/-- The stretch of the line that the word fills. -/
theorem between_eq (h : Touches line p before word after) :
    Position.between before.length (before.length + word.length : Nat) line = word := by
  have hstart : Position.fromStart (before.length : Int) line = before.length := by
    rw [Position.fromStart, if_pos (Int.natCast_nonneg _), Int.toNat_natCast, h.line_eq,
      List.length_append, Nat.min_eq_left (Nat.le_add_right _ _)]
  rw [Position.between, hstart, Position.upTo_natCast, h.line_eq, ← List.append_assoc,
    ← List.length_append, List.take_left, List.drop_left]

end Touches

/-- The word characters that a text ends with. -/
def lastWord (t : Text) : Text := (t.reverse.takeWhile Text.isWordChar).reverse

theorem length_lastWord (t : Text) :
    (Text.dropTrailing Text.isWordChar t).length + (lastWord t).length = t.length := by
  rw [← List.length_append, lastWord, Text.dropTrailing_append]

/-- **Where a line is cut**, the word that touches the cut runs to both sides. -/
theorem touches_cut (s t : Text) :
    Touches (s ++ t) s.length (Text.dropTrailing Text.isWordChar s) (lastWord s ++ Text.word t)
      (Text.afterWord t) where
  line_eq := by
    rw [List.append_assoc, Text.word_append_afterWord, ← List.append_assoc, lastWord,
      Text.dropTrailing_append]
  isWord c hc := by
    rcases List.mem_append.1 hc with hc | hc
    · exact List.all_eq_true.1 List.all_takeWhile c (List.mem_reverse.1 hc)
    · exact List.all_eq_true.1 List.all_takeWhile c hc
  begins c hc := by
    rw [Text.dropTrailing, List.getLast?_reverse] at hc
    exact Text.eq_false_of_mem_head?_dropWhile hc
  apart c hc := Text.eq_false_of_mem_head?_dropWhile hc
  le := by
    have hlength := length_lastWord s
    omega
  le_length := by
    have hlength := length_lastWord s
    rw [List.length_append]
    omega

/-- **The span that the editor finds** is that of the word which touches the
position, or its end if the line is shorter. -/
theorem exists_wordAt_eq (line : Text) (c : Nat) :
    ∃ before word after, Touches line (min c line.length) before word after ∧
      wordAt line c = .ok ⟨before.length, (before.length + word.length : Nat)⟩ := by
  obtain ⟨p, hp⟩ : ∃ p, min c line.length = p := ⟨_, rfl⟩
  have hle : p ≤ line.length := hp ▸ Nat.min_le_right c line.length
  have hcut := touches_cut (line.take p) (line.drop p)
  rw [List.take_append_drop, List.length_take_of_le hle] at hcut
  have hcast : min (c : Int) line.length = p := by omega
  have hlength := length_lastWord (line.take p)
  rw [List.length_take_of_le hle] at hlength
  have hback : ((line.take p).reverse.takeWhile Text.isWordChar).length =
      (lastWord (line.take p)).length := (List.length_reverse).symm
  rw [hp]
  refine ⟨_, _, _, hcut, ?_⟩
  simp only [wordAt, hcast, Position.readFrom_natCast, Int.toNat_natCast, hback,
    List.length_append]
  congr 2 <;> omega

end Editor

end LineMacro
