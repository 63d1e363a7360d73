import LineMacro.Failure
import LineMacro.Macro
import LineMacro.Text.Blank
/-!
# Definition lines

A line that starts with `#define`, followed by a blank or by nothing, defines
a macro:

    #define NAME body
    #define NAME(p1, p2, ...) body

The name ends at a blank or an opening parenthesis. A parameter list must
follow it at once and ends at the first closing parenthesis. One space after
them is not part of the body, nor is a carriage return at the end of the line,
nor are the backslashes before it: a body never continues on the next line.
`Macro.definition` writes the line that defines a macro.
-/

namespace LineMacro

namespace Definition

/-- The name itself, or the failure at the place where it should stand. -/
def requireName (name : Text) (p : Place) : Except Failure Text :=
  if isName name then .ok name else .error { p with fault := .invalidName }

/-- What a definition starts with. -/
def keyword : Text := ['#', 'd', 'e', 'f', 'i', 'n', 'e']

/-- Whether a line is a definition, well formed or not. -/
def isDefinition (line : Text) : Bool :=
  keyword.isPrefixOf line && ((line.drop keyword.length).take 1).all Text.isBlank

/-- The characters of which a name is read; only some make a valid one. -/
def isNamePart (c : Char) : Bool := c != '(' && !Text.isBlank c

/-- The parameters between two parentheses. A blank list has none. -/
def parameters (inside : Text) : List Text :=
  let ps := (inside.splitOn ',').map Text.trim
  if ps = [[]] then [] else ps

/-- The parameters at the start of a text, with what follows their list; none
and the whole text if no list starts there. Fails on a list without end. -/
def readParameters? : Text → Option (List Text × Text)
  | '(' :: t =>
    match t.dropWhile (· != ')') with
    | [] => none
    | _ :: rest => some (parameters (t.takeWhile (· != ')')), rest)
  | t => some ([], t)

/-- The text without the one space it may start with. -/
def dropSpace : Text → Text
  | ' ' :: t => t
  | t => t

/-- The text without the carriage return it may end with. -/
def dropReturn (t : Text) : Text := if t.getLast? = some '\r' then t.dropLast else t

/-- The body, from what follows the name and the parameters. -/
def readBody (t : Text) : Text :=
  Text.dropTrailing (· == '\\') (dropReturn (dropSpace t))

/-- The macro that a definition line defines, marked with the line's number. -/
def read (line : Text) (n : Int) : Except Failure Macro :=
  let rest := line.drop keyword.length
  let blanks := rest.takeWhile Text.isBlank
  let fromName := rest.dropWhile Text.isBlank
  let name := fromName.takeWhile isNamePart
  let column := keyword.length + blanks.length + 1
  match requireName name { line := n, column } with
  | .error e => .error e
  | .ok name =>
    match readParameters? (fromName.dropWhile isNamePart) with
    | some (ps, t) => .ok { name, parameters := ps, body := readBody t, line := n }
    | none =>
      .error { line := n, column := column + name.length, fault := .unclosedParameters name }

end Definition

/-- The line that defines a macro. -/
def Macro.definition (m : Macro) : Text :=
  Definition.keyword ++ ' ' :: (m.signature ++ ' ' :: m.body)

end LineMacro
