import LineMacro.Cli.Manual
import LineMacro.Text.Integer
/-!
# Command line — starting the editor service

The command starts the service that answers editors, on standard input and
output or on a network address. It announces what it starts, and it ends with
an error status if it is interrupted. An option that was left with no value
leaves an empty list in its place, which is announced like any value.
-/

namespace LineMacro

namespace Cli

namespace Server

/-- The options of the command. -/
inductive Key where
  | help
  | tcp
  | port
  | host
  | verbose
  | version
deriving DecidableEq, Repr

/-- The forms of the port option. -/
def portNames : List Text := ["--port".toList]

/-- The options with their forms, in the order in which candidates are
listed. -/
def specs : List (Spec Key) :=
  [⟨.help, ["-h".toList, "--help".toList], false⟩,
    ⟨.tcp, ["--tcp".toList], false⟩,
    ⟨.port, portNames, true⟩,
    ⟨.host, ["--host".toList], true⟩,
    ⟨.verbose, ["--verbose".toList, "-v".toList], false⟩,
    ⟨.version, ["--version".toList], false⟩]

/-- What the command says about itself. -/
def manual : Manual where
  program := "prepr-language-server".toList
  usage := "[-h] [--tcp] [--port PORT] [--host HOST] [--verbose] [--version]".toList
  help :=
    ["",
      "prepr Language Server - Provides LSP support for #define macros",
      "",
      "options:",
      "  -h, --help     show this help message and exit",
      "  --tcp          Use TCP transport instead of stdio",
      "  --port PORT    Port number for TCP (default: 2087)",
      "  --host HOST    Host address for TCP (default: localhost)",
      "  --verbose, -v  Enable verbose logging",
      "  --version      show program's version number and exit",
      "",
      "Examples:",
      "  prepr-language-server                          # Start language server on stdio",
      "  prepr-language-server --tcp                    # Start language server on TCP",
      "  prepr-language-server --tcp --port 2087        # Start on specific TCP port"].map
      String.toList
  version := "prepr Language Server v0.1.0".toList

/-- What the words of a command line add up to. -/
structure Settings where
  tcp : Bool := false
  port : Option Int := some 2087
  host : Option Text := some "localhost".toList
deriving DecidableEq, Repr

/-- Takes over one event. A port must be an integer. -/
def Settings.take (s : Settings) : Event Key → Except Stop Settings
  | .flag .help => .error .help
  | .flag .version => .error .version
  | .flag .tcp => .ok { s with tcp := true }
  | .value .port (some v) =>
    match Text.integer? v with
    | some n => .ok { s with port := some n }
    | none => .error (.misuse (.notAnInteger portNames v))
  | .value .port none => .ok { s with port := none }
  | .value .host v => .ok { s with host := v }
  | _ => .ok s

/-- Where the service listens. -/
inductive Transport where
  | standard
  | tcp (host : Option Text) (port : Option Int)
deriving DecidableEq, Repr

/-- The transport that settings ask for. -/
def Settings.transport (s : Settings) : Transport :=
  if s.tcp then .tcp s.host s.port else .standard

/-- What stands for a value in the announcement. -/
def announced (value : Option Text) : Text := value.getD ['[', ']']

/-- The line that announces the service. -/
def Transport.announcement : Transport → Text
  | .standard => "Starting prepr Language Server on stdio\n".toList
  | .tcp host port =>
    "Starting prepr Language Server on TCP ".toList ++ announced host ++
      ':' :: (announced (port.map Text.decimal) ++ ['\n'])

/-- What a launch prints, and the service that it starts. -/
structure Launch extends Printed where
  started : Option Transport := none
deriving DecidableEq, Repr

/-- The whole command; `interrupted` tells whether the service is stopped by
the user. -/
def command (words : List Text) (interrupted : Bool) : Launch :=
  match (Reading.ofWords specs false words).settle Settings.take {} with
  | .error stop => { toPrinted := manual.answer stop }
  | .ok s =>
    let t := s.transport
    if interrupted then
      { status := 1
        err := t.announcement ++ "\nServer interrupted by user\n".toList
        started := some t }
    else { err := t.announcement, started := some t }

end Server

end Cli

end LineMacro
