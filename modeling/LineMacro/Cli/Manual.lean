import LineMacro.Cli.Options
/-!
# Command line — manuals

What a command says about itself: its usage, its help and its version. A
command line that cannot be read is answered by the usage and the mistake.
-/

namespace LineMacro

namespace Cli

/-- What a command says about itself. -/
structure Manual where
  program : Text
  /-- The options and the input, in one line. -/
  usage : Text
  /-- The lines of the help below the usage. -/
  help : List Text
  /-- The program and its version. -/
  version : Text

/-- What a command prints, and the status with which it ends. -/
structure Printed where
  status : Nat := 0
  out : Text := []
  err : Text := []
deriving DecidableEq, Repr

namespace Manual

/-- The line that shows the usage. -/
def usageLine (m : Manual) : Text := "usage: ".toList ++ m.program ++ ' ' :: (m.usage ++ ['\n'])

/-- What is printed instead of doing any work. -/
def answer (m : Manual) : Stop → Printed
  | .help => { out := m.usageLine ++ m.help.flatMap (· ++ ['\n']) }
  | .version => { out := m.version ++ ['\n'] }
  | .misuse e =>
    { status := 2
      err := m.usageLine ++ m.program ++ ": error: ".toList ++ e.message ++ ['\n'] }

end Manual

end Cli

end LineMacro
