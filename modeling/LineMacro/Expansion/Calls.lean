import LineMacro.Expansion
import LineMacro.Expansion.Relation
/-!
# Expansion — the calls of a text

What stands at the front of a text (`Reads`), and along it which texts have
only closed calls (`Closed`) and how deep their calls are nested (`Nests`). As
for the relation itself, nothing here reads or counts: words are whole, a call
ends after a balanced text, and its arguments are what that text lists.
-/

namespace LineMacro

namespace Table

/-- The item at the front of a text, said without reading it. -/
inductive Reads (tbl : Table) : Text → Item → Prop
  /-- A character outside words is copied. -/
  | gap {c : Char} {t : Text} : Text.isWordChar c = false → Reads tbl (c :: t) (.plain [c] t)
  /-- A word that stands for nothing is copied. -/
  | other {w t : Text} : WordBefore w t → tbl.lookup w = none → Reads tbl (w ++ t) (.plain w t)
  /-- A word that stands for a macro without parameters is a use of it. -/
  | constant {w t : Text} {m : Macro} :
      WordBefore w t → tbl.lookup w = some m → m.parameters = [] →
      Reads tbl (w ++ t) (.constant m t)
  /-- A macro with parameters is copied where no argument list follows. -/
  | bare {w t : Text} {m : Macro} :
      WordBefore w t → tbl.lookup w = some m → m.parameters ≠ [] → t.head? ≠ some '(' →
      Reads tbl (w ++ t) (.plain w t)
  /-- A call takes its whole argument list. -/
  | call {w inner t : Text} {m : Macro} :
      WordBefore w ('(' :: (inner ++ ')' :: t)) → tbl.lookup w = some m → m.parameters ≠ [] →
      Arguments.Balanced inner → Reads tbl (w ++ '(' :: (inner ++ ')' :: t)) (.call m inner t)
  /-- A call that no balanced text closes ends the reading. -/
  | unclosed {w t : Text} {m : Macro} :
      WordBefore w ('(' :: t) → tbl.lookup w = some m → m.parameters ≠ [] →
      (∀ inner rest, t = inner ++ ')' :: rest → ¬ Arguments.Balanced inner) →
      Reads tbl (w ++ '(' :: t) (.unclosed m)

/-- Every call of the text itself is closed. Calls in arguments are left
out. -/
inductive Closed (tbl : Table) : Text → Prop
  | nil : Closed tbl []
  | plain {text copied rest : Text} :
      Reads tbl text (.plain copied rest) → Closed tbl rest → Closed tbl text
  | constant {text rest : Text} {m : Macro} :
      Reads tbl text (.constant m rest) → Closed tbl rest → Closed tbl text
  | call {text inner rest : Text} {m : Macro} :
      Reads tbl text (.call m inner rest) → Closed tbl rest → Closed tbl text

/-- All calls of the text are closed, and the longest chain of them, each in an
argument of the one before, has this length. -/
inductive Nests (tbl : Table) : Text → Nat → Prop
  | nil : Nests tbl [] 0
  | plain {text copied rest : Text} {n : Nat} :
      Reads tbl text (.plain copied rest) → Nests tbl rest n → Nests tbl text n
  | constant {text rest : Text} {m : Macro} {n : Nat} :
      Reads tbl text (.constant m rest) → Nests tbl rest n → Nests tbl text n
  /-- A call is one longer than the longest chain in any of its arguments. -/
  | call {text inner rest : Text} {m : Macro} {texts : List Text} {deep : Text → Nat} {n : Nat} :
      Reads tbl text (.call m inner rest) → Arguments.Lists inner texts →
      (∀ a ∈ texts, Nests tbl a (deep a)) → Nests tbl rest n →
      Nests tbl text (max (1 + (texts.map deep).foldr max 0) n)

end Table

end LineMacro
