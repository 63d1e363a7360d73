import LineMacro.Keyed
import LineMacro.Macro
/-!
# Substitution

A call puts its arguments in the place of the parameters, all at once: words
of the body that are parameters become arguments, and inserted text is not
looked at again. Parameters are bound by position. A parameter without an
argument stays as it stands, an argument without a parameter is not used, and
of two parameters with one name the first is bound.
-/

namespace LineMacro

namespace Macro

/-- The pairs whose key has not come before. -/
def firstOfEach : List (Text × Text) → List (Text × Text)
  | [] => []
  | p :: l => p :: (firstOfEach l).filter fun q => q.1 ≠ p.1

/-- Each bound parameter with its argument, in the order of the parameters. -/
def bindings (m : Macro) (args : List Text) : List (Text × Text) :=
  firstOfEach (m.parameters.zip args)

/-- What a word of the body becomes. -/
def bound (bs : List (Text × Text)) (w : Text) : Text :=
  match Keyed.find? Prod.fst w bs with
  | some p => p.2
  | none => w

/-- The body of the macro with the arguments in the place of the parameters. -/
def substitute (m : Macro) (args : List Text) : Text :=
  match m.bindings args with
  | [] => m.body
  | bs => Text.replaceWords (bound bs) m.body

/-- What a word of the body stands for, said by position: the argument in the
place of the first parameter of that name. A word that is no parameter, or a
parameter that has no argument, stands for itself. -/
def argumentFor (m : Macro) (args : List Text) (w : Text) : Text :=
  if w ∈ m.parameters then (args[m.parameters.idxOf w]?).getD w else w

end Macro

end LineMacro
