import LineMacro.Text.Basic
/-!
# Command line — paths

A path is read as a list of parts between slashes. Empty parts and `.` name no
step and disappear, so a path has a normal form; `..` stays, because what it
leads to is known only on the way. A leading slash starts at the root, and
exactly two leading slashes are kept apart from that.
-/

namespace LineMacro

namespace Cli

/-- A path in normal form. -/
structure Path where
  /-- The slashes before the first part: at most two. -/
  root : Text
  parts : List Text
deriving DecidableEq, Repr

namespace Path

/-- The slashes that a path keeps in front. -/
def rootOf (t : Text) : Text :=
  match (t.takeWhile (· == '/')).length with
  | 0 => []
  | 2 => ['/', '/']
  | _ => ['/']

/-- Whether a part names a step. -/
def isStep (part : Text) : Bool := part != [] && part != ['.']

/-- Reads a path. -/
def ofText (t : Text) : Path := ⟨rootOf t, (t.splitOn '/').filter isStep⟩

/-- Writes a path. A path without root and parts is written as a dot. -/
def text (p : Path) : Text :=
  if p.root = [] ∧ p.parts = [] then ['.'] else p.root ++ ['/'].intercalate p.parts

/-- Whether a path can be looked up at all: the zero character ends a name for
the system, so that no name holds it. -/
def isSound (p : Path) : Bool := p.parts.all fun part => !part.contains '\x00'

/-- The parts of a path are steps. -/
theorem isStep_of_mem_ofText {t part : Text} (h : part ∈ (ofText t).parts) :
    isStep part = true :=
  (List.mem_filter.1 h).2

end Path

end Cli

end LineMacro
