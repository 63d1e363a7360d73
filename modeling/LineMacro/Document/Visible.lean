import LineMacro.Document
import Mathlib.Data.List.Forall2
/-!
# Documents — what a line can see

The macros that a line can use, said without running anything: of each name the
last definition above the line counts, below that the seeded one, and a
predeclared name stands for nothing. Only well-formed definition lines matter,
so what the other lines hold, and what comes after the line, makes no
difference. How a line is handled under a table is said here too, apart from
what it does to the table.
-/

namespace LineMacro

/-- The macro that a seeded name with its body stands for. -/
def Macro.ofSeed (d : Text × Text) : Macro := { name := d.1, body := d.2 }

namespace Definition

/-- The macro that a line defines, if it is a definition line and well
formed. -/
def macro? (line : Text) (n : Int) : Option Macro :=
  if isDefinition line then (read line n).toOption else none

/-- The macros that lines define, in order. The lines are numbered from `n`
on. -/
def macros (n : Int) : List Text → List Macro
  | [] => []
  | line :: rest => (macro? line n).toList ++ macros (n + 1) rest

/-- The lines that are no definitions. -/
def textLines (lines : List Text) : List Text := lines.filter fun line => !isDefinition line

end Definition

/-- The macro that a name stands for on the line below the given ones, which
are the first of the document. -/
def visible (predeclared : List Text) (definitions : List (Text × Text)) (above : List Text)
    (name : Text) : Option Macro :=
  if predeclared.contains name then none
  else (Keyed.last? Macro.name name (Definition.macros 1 above)).or
    (Keyed.last? Macro.name name (definitions.map Macro.ofSeed))

/-- Nothing but the seeded macros is visible on the first line. -/
theorem visible_nil (predeclared : List Text) (definitions : List (Text × Text)) (name : Text) :
    visible predeclared definitions [] name =
      if predeclared.contains name then none
      else Keyed.last? Macro.name name (definitions.map Macro.ofSeed) := rfl

/-- A table in which every name stands for what is visible below the given
lines. It lists whatever was seeded or defined, the newest first. -/
def scope (predeclared : List Text) (definitions : List (Text × Text)) (above : List Text) :
    Table :=
  { entries := (definitions.map Macro.ofSeed ++ Definition.macros 1 above).reverse, predeclared }

theorem lookup_scope (predeclared : List Text) (definitions : List (Text × Text))
    (above : List Text) (name : Text) :
    (scope predeclared definitions above).lookup name =
      visible predeclared definitions above name := by
  have hfind : (scope predeclared definitions above).find? name =
      Keyed.last? Macro.name name (definitions.map Macro.ofSeed ++ Definition.macros 1 above) := rfl
  rw [Table.lookup, visible, hfind, Keyed.last?_append]
  rfl

namespace Table

/-- The line is handled under the table: a definition line can be read and
gives no output, and any other line gives its expansion. -/
inductive Handles (tbl : Table) (n : Int) (line : Text) : Option Text → Prop
  | definition {m : Macro} :
      Definition.isDefinition line = true → Definition.read line n = .ok m →
      Handles tbl n line none
  | text {out : Text} :
      Definition.isDefinition line = false → tbl.expand line = .ok out →
      Handles tbl n line (some out)

/-- The line fails under the table: a definition line cannot be read, or any
other line cannot be expanded. -/
inductive Refuses (tbl : Table) (n : Int) (line : Text) (e : Failure) : Prop
  | definition :
      Definition.isDefinition line = true → Definition.read line n = .error e →
      Refuses tbl n line e
  | text :
      Definition.isDefinition line = false → tbl.expand line = .error e →
      Refuses tbl n line e

end Table

/-- The first lines of a document are all handled, each under what is visible
below those above it, and give the outputs. -/
inductive Handled (predeclared : List Text) (definitions : List (Text × Text)) :
    List Text → List (Option Text) → Prop
  | nil : Handled predeclared definitions [] []
  | snoc {above : List Text} {outs : List (Option Text)} {line : Text} {out : Option Text} :
      Handled predeclared definitions above outs →
      (scope predeclared definitions above).Handles (above.length + 1) line out →
      Handled predeclared definitions (above ++ [line]) (outs ++ [out])

/-- The lines are the same, but for those that are definitions in neither. -/
def SameButText : List Text → List Text → Prop :=
  List.Forall₂ fun line line' => line = line' ∨
    Definition.isDefinition line = false ∧ Definition.isDefinition line' = false

end LineMacro
