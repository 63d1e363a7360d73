import LineMacro.Document
import LineMacro.Report.Inline
import LineMacro.Report.Layout
/-!
# Reports — errors with an excerpt

An error is reported by a header with its place and its message. If the place
names a line of the source, the line follows, set in by two spaces; if it names
a column too, a caret below points at it. The caret counts characters, so it
stands to the left of a character that comes after a tab or a wide one. A
column can be too far away to point at (`caretTrouble?`).
-/

namespace LineMacro

namespace Report

/-- The line that tells where and what. -/
def header (message : Text) (p : Place) (path : Text) : Text :=
  embedded (shown (p.locate path) ++ [':']) ++ " error:".toList ++ embedded (' ' :: shown message)

/-- A line of the source as it is printed. -/
def sourceLine (line : Text) : Text := verbatim (' ' :: ' ' :: line)

/-- The line that points at a column. -/
def caretLine (column : Int) : Text :=
  [' ', ' '] ++ List.replicate (column - 1).toNat ' ' ++ ['^']

/-- The line of the source that a place names. -/
def lineOf? (p : Place) (source : Text) : Option Text :=
  if 0 < p.line then (Text.lines source)[(p.line - 1).toNat]? else none

/-- The lines that show a place of the source. -/
def excerpt (p : Place) (source : Text) : List Text :=
  match lineOf? p source with
  | some line => sourceLine line :: if p.column = 0 then [] else [caretLine p.column]
  | none => []

/-- What keeps a caret from being set. -/
inductive CaretTrouble where
  /-- The spaces before it could not be counted. -/
  | uncountable
  /-- The spaces before it could not be stored. -/
  | unstorable
deriving DecidableEq, Repr

/-- Characters are counted by the numbers from the negative of this one up to
the one before it: it is the 63rd power of two. -/
def countLimit : Int := 9223372036854775808

/-- What keeps the caret of a place from being set, on a machine that has no
more room once a line has `room` characters. -/
def caretTrouble? (room : Int) (p : Place) (source : Text) : Option CaretTrouble :=
  if (lineOf? p source).isNone then none
  else if p.column - 1 < -countLimit ∨ countLimit ≤ p.column - 1 then some .uncountable
  else if room ≤ p.column - 1 then some .unstorable
  else none

/-- The whole report of an error. -/
def error (message : Text) (p : Place) (path source : Text) : Text :=
  (header message p path :: excerpt p source).flatMap display

/-- The report of a failure. -/
def failure (e : Failure) (path source : Text) : Text := error e.message e.toPlace path source

/-- The report of a file that cannot be read. -/
def unreadable (path reason : Text) : Text :=
  display ("Error:".toList ++
    embedded (" cannot read '".toList ++ shown path ++ "': ".toList ++ reason))

end Report

end LineMacro
