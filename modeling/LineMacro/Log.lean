import LineMacro.Failure
import LineMacro.Table
import LineMacro.Text.Quoted
/-!
# The history of a run

Each definition leaves one record, a run that fails leaves one more, and so
does a result written to a file. The record of a definition tells whether its
name is predeclared, was defined before, or is new.
-/

namespace LineMacro

/-- One thing that happened. -/
inductive Record where
  /-- A macro was defined under a predeclared name and will not be used. -/
  | shadowed (name : Text)
  /-- A macro took the place of one defined at line `was`. -/
  | redefined (name : Text) (line was : Int)
  /-- A macro was defined under a new name. -/
  | defined (signature : Text) (line : Int)
  /-- The document could not be expanded. -/
  | failed (failure : Failure)
  /-- The result was written to a file. -/
  | wrote (path : Text)
deriving DecidableEq, Repr

/-- A history, oldest record first. -/
abbrev Log := List Record

/-- The record that a definition leaves, seen from the table before it. -/
def Table.record (t : Table) (m : Macro) : Record :=
  if t.isPredeclared m.name then .shadowed m.name
  else match t.find? m.name with
    | some old => .redefined m.name m.line old.line
    | none => .defined m.signature m.line

/-- The line of the debug log that shows a record. -/
def Record.render : Record → Text
  | .shadowed name =>
    "DEBUG:prepr.macros:macro ".toList ++ Text.quoted name ++
      " shadows a predeclared name and will not be expanded".toList
  | .redefined name line was =>
    "DEBUG:prepr.macros:macro ".toList ++ Text.quoted name ++ " redefined at line ".toList ++
      Text.decimal line ++ " (was line ".toList ++ Text.decimal was ++ [')']
  | .defined signature line =>
    "DEBUG:prepr.macros:macro ".toList ++ Text.quoted signature ++ " defined at line ".toList ++
      Text.decimal line
  | .failed e =>
    "DEBUG:prepr.preprocessor:preprocessing failed at line ".toList ++ Text.decimal e.line ++
      ": ".toList ++ e.message
  | .wrote path => "DEBUG:prepr.main:wrote ".toList ++ path

end LineMacro
