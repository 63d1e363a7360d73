import LineMacro.Definition
import LineMacro.Expansion
import LineMacro.Log
/-!
# Documents

A document is processed line by line. A definition line changes the table and
gives no output; every other line gives its expansion under the table of the
moment, and changes nothing. The first line that fails ends the run: there is
no partial output, but the table and the history stay as the lines before it
left them.

A run starts from predeclared names and seeded macros, given as names with
their bodies. A session keeps one table through any number of lines and
documents.
-/

namespace LineMacro

/-- What processing gives: a result or the failure that ended it, the table
afterwards, and what was recorded on the way. -/
structure Outcome (α : Type) where
  result : Except Failure α
  table : Table
  log : Log

namespace Table

/-- Processes one line. The line has output unless it is a definition. It is
expanded from level 0, where the nesting limit comes before any limit of the
machine, so it fails in no other way than these two. -/
def processLine (tbl : Table) (line : Text) (n : Int) : Outcome (Option Text) :=
  if Definition.isDefinition line then
    match Definition.read line n with
    | .ok m => ⟨.ok none, tbl.define m, [tbl.record m]⟩
    | .error e => ⟨.error (e.atLine n), tbl, []⟩
  else
    match tbl.expand line with
    | .ok out => ⟨.ok (some out), tbl, []⟩
    | .error e => ⟨.error (e.atLine n), tbl, []⟩

/-- Processes lines that are numbered from `n` on, and collects the output of
those that have any. -/
def processLines (tbl : Table) (n : Int) : List Text → Outcome (List Text)
  | [] => ⟨.ok [], tbl, []⟩
  | line :: rest =>
    let here := tbl.processLine line n
    match here.result with
    | .error e => ⟨.error e, here.table, here.log⟩
    | .ok out =>
      let after := here.table.processLines (n + 1) rest
      ⟨after.result.map (out.toList ++ ·), after.table, here.log ++ after.log⟩

/-- Processes a document. Lines are numbered from 1, and the output has one
line for each line that is no definition. -/
def process (tbl : Table) (document : Text) : Outcome Text :=
  let o := tbl.processLines 1 (Text.lines document)
  ⟨o.result.map Text.joinLines, o.table, o.log⟩

/-- Installs seeded macros one after another. A name that is no name ends
it. -/
def seed (tbl : Table) : List (Text × Text) → Outcome Unit
  | [] => ⟨.ok (), tbl, []⟩
  | (name, body) :: rest =>
    match Definition.requireName name {} with
    | .error e => ⟨.error e, tbl, []⟩
    | .ok name =>
      let m : Macro := { name, body }
      let after := (tbl.define m).seed rest
      ⟨after.result, after.table, tbl.record m :: after.log⟩

end Table

/-- A table with predeclared names and seeded macros. Where a name is seeded
more than once, its last body counts. -/
def seeded (predeclared : List Text) (definitions : List (Text × Text)) : Outcome Unit :=
  ({ predeclared } : Table).seed (Keyed.ofList Prod.fst definitions)

/-- A whole run over a document. If a seeded name is no name, nothing is run
and the table has no macros. -/
def run (document : Text) (predeclared : List Text) (definitions : List (Text × Text)) :
    Outcome Text :=
  let s := seeded predeclared definitions
  match s.result with
  | .error e => ⟨.error e, { predeclared }, s.log⟩
  | .ok () =>
    let o := s.table.process document
    let last := match o.result with
      | .ok _ => []
      | .error e => [.failed e]
    ⟨o.result, o.table, s.log ++ o.log ++ last⟩

/-! ## Sessions -/

/-- One thing to process in a session. -/
inductive Step where
  /-- A single line with its number. -/
  | line (text : Text) (number : Int)
  /-- A whole document. -/
  | document (text : Text)
deriving DecidableEq, Repr

/-- Processes one step. Only a definition line has no result. -/
def Step.process (tbl : Table) : Step → Outcome (Option Text)
  | .line text number => tbl.processLine text number
  | .document text =>
    let o := tbl.process text
    ⟨o.result.map some, o.table, o.log⟩

/-- Processes steps one after another, each from the table that the one before
it left, whether or not it failed. -/
def session (tbl : Table) : List Step → List (Outcome (Option Text))
  | [] => []
  | s :: rest =>
    let o := s.process tbl
    o :: session o.table rest

end LineMacro
