import LineMacro.Arguments.Balanced
import LineMacro.Substitution
import LineMacro.Table
/-!
# Expansion — the relation

What expansion should give, said without positions, depths or errors. A text
is taken piece by piece: single characters and words that stand for nothing
stay, a word that stands for a macro without parameters becomes its body, and a
call becomes the body with its expanded arguments in place of the parameters.
The relation has no limit on nesting, and nothing is related to a text with a
call that is not closed. It uses nothing of the reader or of the expander: a
call ends after a balanced text, and its arguments are what that text lists.
-/

namespace LineMacro

namespace Table

/-- A word that ends where the text `t` after it begins. -/
structure WordBefore (w t : Text) : Prop where
  nonempty : w ≠ []
  isWord : ∀ c ∈ w, Text.isWordChar c = true
  apart : ∀ c ∈ t.head?, Text.isWordChar c = false

mutual

/-- The text expands to the other. -/
inductive Expands (tbl : Table) : Text → Text → Prop
  /-- Nothing is left to expand. -/
  | nil : Expands tbl [] []
  /-- A character outside words stays. -/
  | gap {c : Char} {t out : Text} :
      Text.isWordChar c = false → Expands tbl t out → Expands tbl (c :: t) (c :: out)
  /-- A word that stands for nothing stays. -/
  | other {w t out : Text} :
      WordBefore w t → tbl.lookup w = none → Expands tbl t out →
      Expands tbl (w ++ t) (w ++ out)
  /-- A macro without parameters becomes its body. -/
  | constant {w t out : Text} {m : Macro} :
      WordBefore w t → tbl.lookup w = some m → m.parameters = [] → Expands tbl t out →
      Expands tbl (w ++ t) (m.body ++ out)
  /-- A macro with parameters stays where no argument list follows. -/
  | bare {w t out : Text} {m : Macro} :
      WordBefore w t → tbl.lookup w = some m → m.parameters ≠ [] → t.head? ≠ some '(' →
      Expands tbl t out → Expands tbl (w ++ t) (w ++ out)
  /-- A call becomes the body with its expanded arguments. -/
  | call {w inner t out : Text} {m : Macro} {texts args : List Text} :
      WordBefore w ('(' :: (inner ++ ')' :: t)) → tbl.lookup w = some m → m.parameters ≠ [] →
      Arguments.Balanced inner → Arguments.Lists inner texts → ExpandsAll tbl texts args →
      Expands tbl t out →
      Expands tbl (w ++ '(' :: (inner ++ ')' :: t))
        (Text.replaceWords (m.argumentFor args) m.body ++ out)

/-- The texts expand to the others, one by one. -/
inductive ExpandsAll (tbl : Table) : List Text → List Text → Prop
  | nil : ExpandsAll tbl [] []
  | cons {t out : Text} {ts outs : List Text} :
      Expands tbl t out → ExpandsAll tbl ts outs → ExpandsAll tbl (t :: ts) (out :: outs)

end

end Table

end LineMacro
