import LineMacro.Text.Word
import Mathlib.Data.List.Chain
/-!
# Text — gaps and words in turn

A text can be written down as gaps and words in turn, from a gap to a gap. The
words are whole: two of them never meet, so only the gaps at both ends may be
empty. Nothing here reads a text. An alternation is any such writing, and it
says which text it writes.
-/

namespace LineMacro

namespace Text

/-- A word, with the gap that follows it. -/
@[ext] structure Stretch where
  word : Text
  gap : Text
  nonempty : word ≠ []
  isWord : ∀ c ∈ word, isWordChar c = true
  isGap : ∀ c ∈ gap, isWordChar c = false

/-- The stretches one after another, each word replaced by its image. -/
def Stretch.replaced (f : Text → Text) (l : List Stretch) : Text :=
  l.flatMap fun s => f s.word ++ s.gap

/-- A gap, and after it words and gaps in turn. -/
@[ext] structure Alternation where
  lead : Text
  stretches : List Stretch
  isGap : ∀ c ∈ lead, isWordChar c = false
  /-- A word does not meet the one before it. -/
  apart : stretches.IsChain fun s _ => s.gap ≠ []

namespace Alternation

/-- The alternation written out, each word replaced by its image. -/
def replaced (f : Text → Text) (a : Alternation) : Text :=
  a.lead ++ Stretch.replaced f a.stretches

/-- The text that the alternation writes. -/
def text (a : Alternation) : Text := a.replaced id

end Alternation

end Text

end LineMacro
