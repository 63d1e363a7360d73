import LineMacro.Text.Basic
import LineMacro.Text.Blank
/-!
# Text — words

A word is a maximal run of ASCII letters, digits, underscores and dollar
signs. Every text falls in exactly one way into words and the single
characters between them (`tokens`); writing the tokens one after another
gives the text back (`render_tokens`). Replacement acts on whole words.
-/

namespace LineMacro

namespace Text

/-- The characters of words: ASCII letters and digits, `_` and `$`. -/
def isWordChar (c : Char) : Bool := c.isAlphanum || c == '_' || c == '$'

/-- A piece of a text: a whole word, or one character outside words. -/
inductive Token where
  | word (w : Text)
  | gap (c : Char)
deriving DecidableEq, Repr

/-- The word that a text starts with, empty if it starts with none. -/
def word (t : Text) : Text := t.takeWhile isWordChar

/-- What follows the word that a text starts with. -/
def afterWord (t : Text) : Text := t.dropWhile isWordChar

/-- The words of a text and the characters between them, in order. -/
def tokens : Text → List Token
  | [] => []
  | c :: t =>
    if isWordChar c then
      match tokens t with
      | .word w :: rest => .word (c :: w) :: rest
      | rest => .word [c] :: rest
    else .gap c :: tokens t

/-- The characters of a token. -/
def Token.text : Token → Text
  | .word w => w
  | .gap c => [c]

/-- Every whole word replaced by its image, everything else kept. -/
def replaceWords (f : Text → Text) (t : Text) : Text :=
  (tokens t).flatMap fun
    | .word w => f w
    | .gap c => [c]

/-! Blanks are no word characters, so no word runs across one. -/

theorem toNat_le_of_isWordChar {c : Char} (h : isWordChar c = true) :
    0x24 ≤ c.toNat ∧ c.toNat ≤ 0x7A := by
  -- letters and digits are ranges of code points
  change ((decide (65 ≤ c.toNat ∧ c.toNat ≤ 90) ||
      (decide (97 ≤ c.toNat) && decide (c.toNat ≤ 122)) ||
      (decide (48 ≤ c.toNat) && decide (c.toNat ≤ 57))) || c == '_' || c == '$') = true at h
  simp only [Bool.or_eq_true, Bool.and_eq_true, decide_eq_true_eq, beq_iff_eq] at h
  rcases h with (((h | h) | h) | rfl) | rfl
  · omega
  · omega
  · omega
  · decide
  · decide

/-- Blanks are no word characters. -/
theorem isWordChar_of_isBlank {c : Char} (h : isBlank c = true) : isWordChar c = false := by
  rw [Bool.eq_false_iff]
  intro hc
  have hword := toNat_le_of_isWordChar hc
  simp only [isBlank, Bool.or_eq_true, Bool.and_eq_true, decide_eq_true_eq, beq_iff_eq] at h
  omega

theorem isBlank_of_isWordChar {c : Char} (h : isWordChar c = true) : isBlank c = false := by
  cases hblank : isBlank c with
  | false => rfl
  | true =>
    rw [isWordChar_of_isBlank hblank] at h
    cases h

/-! A word and what follows it make up the text, and a text that starts with a
word character has something left to drop: the two facts on which recursion
over a text word by word rests. -/

@[simp] theorem word_append_afterWord (t : Text) : word t ++ afterWord t = t :=
  List.takeWhile_append_dropWhile

theorem length_afterWord_le (t : Text) : (afterWord t).length ≤ t.length :=
  (List.dropWhile_sublist _).length_le

theorem length_afterWord_cons {c : Char} {t : Text} (h : isWordChar c = true) :
    (afterWord (c :: t)).length < (c :: t).length := by
  have := length_afterWord_le t
  simp only [afterWord, List.dropWhile_cons_of_pos h, List.length_cons] at *
  omega

/-- **Nothing is lost.** The tokens of a text, written one after another, are
the text. -/
@[simp] theorem render_tokens (t : Text) : (tokens t).flatMap Token.text = t := by
  induction t with
  | nil => rfl
  | cons c t ih =>
    rw [tokens]
    split
    · split
      · rename_i w rest heq
        rw [heq] at ih
        simpa [Token.text] using ih
      · simp only [List.flatMap_cons, ih]
        rfl
    · simp only [List.flatMap_cons, ih]
      rfl

/-- Replacing every word by itself changes nothing. -/
theorem replaceWords_id (t : Text) : replaceWords id t = t := by
  have h : (fun | .word w => id w | .gap c => [c] : Token → Text) = Token.text := by
    funext k
    cases k <;> rfl
  unfold replaceWords
  exact (congrArg (fun f => (tokens t).flatMap f) h).trans (render_tokens t)

end Text

end LineMacro
