import LineMacro.Text.Basic
/-!
# Failures

What stops a document from being expanded: a fault and the place where it was
met. Lines and columns count from 1; a zero stands for a part that is not
known, and a place leaves it out when it is written.
-/

namespace LineMacro

/-- The most call levels that may enclose each other: a call may stand inside
the argument lists of fewer than this many others. -/
def nestingLimit : Nat := 200

/-- What is wrong. -/
inductive Fault where
  /-- A definition whose name is no name. -/
  | invalidName
  /-- A definition of the named macro whose parameter list is not closed. -/
  | unclosedParameters (name : Text)
  /-- A call of the named macro whose argument list is not closed. -/
  | unclosedArguments (name : Text)
  /-- A call of the named macro inside too many others. -/
  | tooDeep (name : Text)
deriving DecidableEq, Repr

/-- The wording of a fault. -/
def Fault.message : Fault → Text
  | .invalidName =>
    ("Macro name can contain letters, digits, underscores, $ as the first symbol " ++
      "and can start with letter or digit or $").toList
  | .unclosedParameters name =>
    "unterminated parameter list in definition of macro '".toList ++ name ++ ['\'']
  | .unclosedArguments name =>
    "unterminated argument list in invocation of macro '".toList ++ name ++ ['\'']
  | .tooDeep name =>
    "invocations".toList ++ (if name = [] then [] else " of macro '".toList ++ name ++ ['\'']) ++
      " nested too deeply (limit ".toList ++ Text.decimal nestingLimit ++ [')']

/-- A line and a column, each counted from 1 or 0 if unknown. -/
structure Place where
  line : Int := 0
  column : Int := 0
deriving DecidableEq, Repr

/-- The path, the line and the column, joined by colons. An unknown line hides
the column too, and a document without a path is called `<input>`. -/
def Place.locate (p : Place) (path : Text) : Text :=
  (if path = [] then "<input>".toList else path) ++
    if p.line = 0 then []
    else ':' :: (Text.decimal p.line ++
      if p.column = 0 then [] else ':' :: Text.decimal p.column)

/-- A fault at a place. -/
structure Failure extends Place where
  fault : Fault
deriving DecidableEq, Repr

namespace Failure

/-- The wording of the failure's fault. -/
def message (e : Failure) : Text := e.fault.message

/-- The failure with its line filled in, unless it has one. -/
def atLine (e : Failure) (n : Int) : Failure := if e.line = 0 then { e with line := n } else e

/-- The failure with its column filled in, unless it has one. -/
def atColumn (e : Failure) (n : Int) : Failure :=
  if e.column = 0 then { e with column := n } else e

variable {α β : Type} {x : Except Failure α} {f : α → β} {b : β} {e : Failure} {n : Int}

@[simp] theorem atColumn_fault : (e.atColumn n).fault = e.fault := by
  unfold atColumn
  split <;> rfl

@[simp] theorem atColumn_line : (e.atColumn n).line = e.line := by
  unfold atColumn
  split <;> rfl

theorem atColumn_column (h : e.column = 0) : (e.atColumn n).column = n := by
  rw [atColumn, if_pos h]

/-! Mapping a result keeps whether there is one. -/

theorem map_eq_ok_iff : x.map f = .ok b ↔ ∃ a, x = .ok a ∧ b = f a := by
  cases x <;> simp [Except.map, eq_comm]

theorem map_eq_error_iff : x.map f = .error e ↔ x = .error e := by
  cases x <;> simp [Except.map]

end Failure

end LineMacro
