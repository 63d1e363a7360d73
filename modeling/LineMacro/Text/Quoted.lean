import LineMacro.Text.Basic
import LineMacro.Text.Unprintable
/-!
# Text — the quoted form

Log records and messages show foreign text between quotes, so that its ends
and its invisible characters can be seen. Single quotes are the rule; a text
that holds a single quote and no double one is put between double quotes, so
that it needs no escape. Tab, line feed and carriage return have short
escapes, other unprintable characters show their code point in hexadecimal.
-/

namespace LineMacro

namespace Text

/-- A number in lower-case hexadecimal, padded with zeros to a width. -/
def hex (width n : Nat) : Text :=
  let digits := Nat.toDigits 16 n
  List.replicate (width - digits.length) '0' ++ digits

/-- A character as it stands in a text quoted by `quote`. -/
def escaped (quote c : Char) : Text :=
  if c = '\\' ∨ c = quote then ['\\', c]
  else if c = '\t' then ['\\', 't']
  else if c = '\n' then ['\\', 'n']
  else if c = '\r' then ['\\', 'r']
  else if isPrintable c then [c]
  else if c.toNat < 0x100 then '\\' :: 'x' :: hex 2 c.toNat
  else if c.toNat < 0x10000 then '\\' :: 'u' :: hex 4 c.toNat
  else '\\' :: 'U' :: hex 8 c.toNat

/-- The quote put around a text: the double one only where it saves escapes. -/
def quoteFor (t : Text) : Char :=
  if t.contains '\'' && !t.contains '"' then '"' else '\''

/-- A text between quotes, with everything invisible escaped. -/
def quoted (t : Text) : Text :=
  let quote := quoteFor t
  quote :: (t.flatMap (escaped quote) ++ [quote])

end Text

end LineMacro
