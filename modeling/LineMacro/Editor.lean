import LineMacro.Document
import LineMacro.Text.Position
/-!
# Editor answers

What an editor asks about one document: which macros a line can use, which
word the cursor touches, what to show for it, what to offer for completion,
and what is wrong. Lines and characters count from 0 here, and may be counted
from the end.

The macros a line can use come from the definition lines above it. Definitions
that fail are passed over, so that an error far up does not silence the editor;
it is reported as a diagnostic.
-/

namespace LineMacro

namespace Editor

/-! ## The macros a line can use -/

/-- Installs the macro of a definition line; a line that defines none changes
nothing. -/
def replay (tbl : Table) (line : Text) (n : Int) : Table :=
  if Definition.isDefinition line then
    match Definition.read line n with
    | .ok m => tbl.define m
    | .error _ => tbl
  else tbl

/-- Replays lines that are numbered from `n` on. -/
def replayAll (tbl : Table) (n : Int) : List Text → Table
  | [] => tbl
  | line :: rest => replayAll (replay tbl line n) (n + 1) rest

/-- The table as a line of the document sees it. -/
def visibleAt (document : Text) (line : Int) : Table :=
  replayAll {} 1 (Position.upTo line (Text.lines document))

/-! ## The word under the cursor -/

/-- Where a word starts and where it ends, its last character excluded. -/
structure Span where
  start : Int
  stop : Int
deriving DecidableEq, Repr

/-- The word that touches a position of a line: word characters before it and
from it on. A position past the end counts as the end. From a position counted
back from the end of the line nothing is looked at before it, and reading on
passes from the end to the start. -/
def wordAt (line : Text) (character : Int) : Except Position.OutOfRange Span :=
  let p : Int := min character line.length
  let before := ((line.take p.toNat).reverse.takeWhile Text.isWordChar).length
  match Position.readFrom p line with
  | .ok from_p => .ok ⟨p - before, p + (Text.word from_p).length⟩
  | .error e => .error e

/-! ## Hover -/

/-- What is shown for the directive itself. -/
def directiveDescription : Text :=
  ("**#define NAME[(param, ...)] [body]**\n\n" ++
    "Define a text-substitution macro for the rest of the document.\n\n" ++
    "- Parameterless: \x60#define PI 3.14\x60\n" ++
    "- Parameterized: \x60#define mult(x, y) (x * y)\x60\n\n" ++
    "The body ends at the end of the line; it is not rescanned for other macros.").toList

/-- What is shown for a macro: its signature, its body as code, and the line
of its definition. An empty body is shown as a space. -/
def describe (m : Macro) : Text :=
  "**".toList ++ m.signature ++ "**\n\n\x60\x60\x60\n".toList ++
    (if m.body = [] then [' '] else m.body) ++
    "\n\x60\x60\x60\n\n_defined at line ".toList ++ Text.decimal m.line ++ ['_']

/-- A text to show for a stretch of a line. -/
structure Hover where
  markdown : Text
  span : Span
deriving DecidableEq, Repr

/-- What to show at a position of a document: the directive where it stands at
the start of its line, else the macro that the word stands for there. -/
def hover (document : Text) (line character : Int) :
    Except Position.OutOfRange (Option Hover) := do
  let lines := Text.lines document
  if lines.length ≤ line then return none
  let text ← Position.get line lines
  let span ← wordAt text character
  if span.start = span.stop then return none
  let word := Position.between span.start span.stop text
  if '#' :: word = Definition.keyword ∧ Position.upTo span.start text = ['#'] then
    return some ⟨directiveDescription, span⟩
  return ((visibleAt document line).lookup word).map fun m => ⟨describe m, span⟩

/-! ## Completion -/

/-- A text to insert, with a longer text that tells what it is. -/
structure Entry where
  label : Text
  detail : Text
deriving DecidableEq, Repr

/-- The only entry on a line that starts with a number sign. -/
def directiveEntry : Entry :=
  ⟨Definition.keyword, "#define NAME[(param, ...)] [body]".toList⟩

/-- Whether an entry inserts a directive. -/
def Entry.isDirective (e : Entry) : Bool := e.label.head? == some '#'

/-- The macros of a table by name, each with its signature. -/
def macroEntries (tbl : Table) : List Entry :=
  (tbl.entries.map fun m => (⟨m.name, m.signature⟩ : Entry)).mergeSort
    fun a b => Text.precedes a.label b.label

/-- What to offer at a position of a document. -/
def completion (document : Text) (line character : Int) :
    Except Position.OutOfRange (List Entry) := do
  let lines := Text.lines document
  if lines.length ≤ line then return []
  let text ← Position.get line lines
  if (Position.upTo character text).head? = some '#' then return [directiveEntry]
  return macroEntries (visibleAt document line)

/-! ## Diagnostics -/

/-- How much a diagnostic matters, as editors tell it. -/
inductive Severity where
  | error
  | warning
  | information
  | hint
deriving DecidableEq, Repr

/-- The number by which editors know a severity. -/
def Severity.code : Severity → Int
  | .error => 1
  | .warning => 2
  | .information => 3
  | .hint => 4

/-- What is wrong on a stretch of one line, and who says so. -/
structure Diagnostic where
  line : Int
  span : Span
  message : Text
  severity : Severity
  source : Text
deriving DecidableEq, Repr

/-- The name under which the editor shows what comes from here. -/
def diagnosticSource : Text := "prepr".toList

/-- The failure as it is shown in the document: from its column to the end of
its line, and at least one character long. -/
def diagnose (lines : List Text) (e : Failure) : Diagnostic :=
  let line := max (e.line - 1) 0
  let start := max (e.column - 1) 0
  let length := (lines[line.toNat]?.getD []).length
  { line
    span := ⟨start, max (length : Int) (start + 1)⟩
    message := e.message
    severity := .error
    source := diagnosticSource }

/-- What is wrong with a document: the failure of its run, if there is one. -/
def diagnostics (document : Text) : List Diagnostic :=
  match (run document [] []).result with
  | .ok _ => []
  | .error e => [diagnose (Text.lines document) e]

end Editor

end LineMacro
