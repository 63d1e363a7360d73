import LineMacro.Report.Symbol.CodesAToE
import LineMacro.Report.Symbol.CodesFToK
import LineMacro.Report.Symbol.CodesLToR
import LineMacro.Report.Symbol.CodesSToZ
import LineMacro.Report.Symbol.People
import LineMacro.Text.Blank
/-!
# Reports — symbols by their codes

A terminal shows a symbol in place of its code, which stands between two
colons: a word without blanks, in which capitals do not matter. The codes of
people may name a skin tone at their end, and every code may end by choosing
between a plain and a colourful look. A colon that starts or ends one code
starts no other, even if the code stands for no symbol.

Four codes are spelled as numbers are (`numerals`), so a line or a column
between colons can turn into a symbol.
-/

namespace LineMacro

namespace Report

namespace Symbol

/-! ## The table -/

/-- The codes that numbers spell. -/
def numerals : List (Text × Text) :=
  [("100".toList, ['💯']), ("1234".toList, ['🔢']), ("+1".toList, ['👍']), ("-1".toList, ['👎'])]

/-- The characters of codes that numbers spell. -/
def isNumeral (c : Char) : Bool := c.isDigit || c == '+' || c == '-'

/-- The character with a code point in hexadecimal. -/
def hexChar (digits : Text) : Char :=
  .ofNat (digits.foldl (fun n d => 16 * n + if d.isDigit then d.toNat - 48 else d.toNat - 55) 0)

/-- A code and its symbol, from an entry of a table. -/
def entry (word : Text) : Text × Text :=
  (word.takeWhile (· != ':'),
    (((word.dropWhile (· != ':')).drop 1).splitOn '-').map hexChar)

/-- The codes of a table and their symbols. -/
def entries (table : List String) : List (Text × Text) :=
  table.flatMap fun words => (words.toList.splitOn ' ').map entry

/-- The codes of people and their symbols. -/
def ofPeople : List (Text × Text) := entries people

/-- All other codes and their symbols. -/
def others : List (Text × Text) :=
  entries codesAToE ++ entries codesFToK ++ entries codesLToR ++ entries codesSToZ

/-- The ways to name a skin tone at the end of a code, each with the character
that shows it. -/
def tones : List (Text × Char) :=
  [("_light_skin_tone".toList, '🏻'), ("_medium-light_skin_tone".toList, '🏼'),
    ("_medium_skin_tone".toList, '🏽'), ("_medium-dark_skin_tone".toList, '🏾'),
    ("_dark_skin_tone".toList, '🏿')]

/-- The ways to choose a look at the end of a code, each with the character
that asks for it. -/
def looks : List (Text × Char) := [("-text".toList, '\uFE0E'), ("-emoji".toList, '\uFE0F')]

/-! ## Codes -/

/-- The symbol of a code in a table. -/
def find? (code : Text) (table : List (Text × Text)) : Option Text :=
  (table.find? fun e => e.1 = code).map Prod.snd

/-- A word cut into what stands before one of the endings, and what the ending
means. -/
def cutEnding? (endings : List (Text × Char)) (word : Text) : Option (Text × Char) :=
  (endings.find? fun e => e.1.isSuffixOf word).map fun e =>
    (word.take (word.length - e.1.length), e.2)

/-- A symbol in a skin tone, which its first character takes on. -/
def inTone (tone : Char) : Text → Text
  | [] => []
  | c :: '\uFE0F' :: t => c :: tone :: t
  | c :: t => c :: tone :: t

/-- The symbol of a code. -/
def ofCode? (code : Text) : Option Text :=
  if code.all isNumeral then find? code numerals
  else
    match find? code ofPeople, find? code others, cutEnding? tones code with
    | some s, _, _ => some s
    | none, some s, _ => some s
    | none, none, some (person, tone) => (find? person ofPeople).map (inTone tone)
    | none, none, none => none

/-- The small form of the letters that codes have. -/
def small (c : Char) : Char :=
  if c = '\u212A' then 'k'
  else if c = '\u212B' then 'å'
  else if 0xC0 ≤ c.toNat ∧ c.toNat ≤ 0xDE ∧ c.toNat ≠ 0xD7 then .ofNat (c.toNat + 32)
  else c.toLower

/-- The symbol of what stands between two colons. -/
def ofWord? (word : Text) : Option Text :=
  match cutEnding? looks word with
  | some (code, look) => (ofCode? (code.map small)).map (· ++ [look])
  | none => ofCode? (word.map small)

end Symbol

/-- What stands between two colons, colons included, with the symbol in its
place if it is a code. -/
def symbolOr (word : Text) : Text := (Symbol.ofWord? word).getD (':' :: (word ++ [':']))

/-- A text with symbols for their codes, read on from where a word may stand
after a colon: `word` is what has been read of it, last character first. -/
def withSymbolsFrom (word : Option Text) : Text → Text
  | [] =>
    match word with
    | none => []
    | some w => ':' :: w.reverse
  | c :: t =>
    match word with
    | none => if c = ':' then withSymbolsFrom (some []) t else c :: withSymbolsFrom none t
    | some w =>
      if c = ':' then symbolOr w.reverse ++ withSymbolsFrom none t
      else if Text.isBlank c then ':' :: (w.reverse ++ c :: withSymbolsFrom none t)
      else withSymbolsFrom (some (c :: w)) t

/-- A text with symbols for their codes. -/
def withSymbols (t : Text) : Text := withSymbolsFrom none t

/-- Without colons there is nothing to replace. -/
theorem withSymbols_of_not_mem {t : Text} (h : ':' ∉ t) : withSymbols t = t := by
  unfold withSymbols
  induction t with
  | nil => rfl
  | cons c t ih =>
    simp only [List.mem_cons, not_or] at h
    rw [withSymbolsFrom, if_neg fun e => h.1 e.symm, ih h.2]

end Report

end LineMacro
