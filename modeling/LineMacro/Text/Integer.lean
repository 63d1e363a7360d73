import LineMacro.Text.Blank
import LineMacro.Text.DecimalDigit
/-!
# Text — integers as they are typed

An integer may be surrounded by blanks, start with a sign, have leading zeros
and single underscores between digits, and its digits may come from any
script. The four separator controls U+001C to U+001F, blank elsewhere, do not
surround a number. A number may have `digitLimit` digits, and no more.
-/

namespace LineMacro

namespace Text

/-- The most digits that a number may have, leading zeros included. -/
def digitLimit : Nat := 4300

/-- The characters that may surround a number. -/
def surroundsNumber (c : Char) : Bool := isBlank c && !(0x1C ≤ c.toNat && c.toNat ≤ 0x1F)

/-- The digits that follow a digit: each may be set off by one underscore, and
the last character is a digit. The value read so far is carried along. -/
def moreDigits? (value : Nat) : Text → Option Nat
  | [] => some value
  | '_' :: c :: t => (digitValue? c).bind fun d => moreDigits? (10 * value + d) t
  | c :: t => (digitValue? c).bind fun d => moreDigits? (10 * value + d) t

/-- A nonempty run of digits, with single underscores between them. -/
def digits? : Text → Option Nat
  | [] => none
  | c :: t => (digitValue? c).bind fun d => moreDigits? d t

/-- The number that a run of digits spells, if it is not too long. -/
def natural? (t : Text) : Option Nat :=
  if (t.filter (· != '_')).length ≤ digitLimit then digits? t else none

/-- The integer that a text spells, if it spells one. -/
def integer? (t : Text) : Option Int :=
  match dropTrailing surroundsNumber (t.dropWhile surroundsNumber) with
  | '-' :: digits => (natural? digits).map fun n => -(n : Int)
  | '+' :: digits => (natural? digits).map Int.ofNat
  | digits => (natural? digits).map Int.ofNat

end Text

end LineMacro
