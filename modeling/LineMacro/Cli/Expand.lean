import LineMacro.Cli.Decode
import LineMacro.Cli.FileTree
import LineMacro.Cli.Manual
import LineMacro.Report.Excerpt
import LineMacro.Report.MacroList
/-!
# Command line — expanding a file

The command reads a document from a file or from standard input, runs it, and
writes the result to a file or to standard output. Everything else goes to
standard error: the history if it is asked for, the macros in force if they are
asked for, and the report of a failure. A run that fails writes no result. A
file is emptied when it is opened for the result, which may then be refused.

An option `NAME=BODY` seeds a macro, and `NAME` alone predeclares a name, as
the option for predeclared names does. All of these must be names. An option
that was left with no value brings the command down where its value is needed.
-/

namespace LineMacro

namespace Cli

namespace Expand

/-! ## The command line -/

/-- The options of the command. -/
inductive Key where
  | help
  | output
  | definition
  | predeclared
  | listMacros
  | verbose
  | version
deriving DecidableEq, Repr

/-- The options with their forms, in the order in which candidates are
listed. -/
def specs : List (Spec Key) :=
  [⟨.help, ["-h".toList, "--help".toList], false⟩,
    ⟨.output, ["-o".toList, "--output".toList], true⟩,
    ⟨.definition, ["-D".toList], true⟩,
    ⟨.predeclared, ["-P".toList, "--predeclared".toList], true⟩,
    ⟨.listMacros, ["--list-macros".toList], false⟩,
    ⟨.verbose, ["--verbose".toList, "-v".toList], false⟩,
    ⟨.version, ["--version".toList], false⟩]

/-- What the command says about itself. -/
def manual : Manual where
  program := "prepr".toList
  usage := ("[-h] [-o OUTPUT] [-D NAME[=BODY]] [-P NAME] [--list-macros] [--verbose] " ++
    "[--version] [input]").toList
  help :=
    ["",
      "prepr - Expand #define macros in a text document",
      "",
      "positional arguments:",
      "  input                 Input document (default: stdin, also '-')",
      "",
      "options:",
      "  -h, --help            show this help message and exit",
      "  -o OUTPUT, --output OUTPUT",
      "                        Output file (default: stdout)",
      "  -D NAME[=BODY]        Define NAME as BODY, or predeclare NAME when no body is given",
      "  -P NAME, --predeclared NAME",
      "                        Identifier that must never be substituted",
      "  --list-macros         Print the final macro table to stderr",
      "  --verbose, -v         Enable verbose logging",
      "  --version             show program's version number and exit",
      "",
      "Examples:",
      "  prepr source.js                         # Print the expanded document",
      "  prepr source.js -o out.js               # Write it to a file",
      "  prepr source.js -D DEBUG -D PI=3.14     # Predeclare DEBUG, define PI",
      "  cat source.js | prepr --list-macros     # Read stdin, show the macro table"].map
      String.toList
  version := "prepr v0.1.0".toList

/-- Where the result goes. -/
inductive Target where
  | standard
  | file (path : Path)
  /-- To a file whose path is missing. -/
  | missing
deriving DecidableEq, Repr

/-- What the words of a command line add up to. -/
structure Settings where
  input : Option Path := none
  target : Target := .standard
  definitions : List (Option Text) := []
  predeclared : List (Option Text) := []
  listMacros : Bool := false
  verbose : Bool := false
deriving DecidableEq, Repr

/-- Takes over one event. -/
def Settings.take (s : Settings) : Event Key → Except Stop Settings
  | .input w => .ok { s with input := some (.ofText w) }
  | .value .output (some v) => .ok { s with target := .file (.ofText v) }
  | .value .output none => .ok { s with target := .missing }
  | .value .definition v => .ok { s with definitions := s.definitions ++ [v] }
  | .value .predeclared v => .ok { s with predeclared := s.predeclared ++ [v] }
  | .value _ _ => .ok s
  | .flag .help => .error .help
  | .flag .version => .error .version
  | .flag .listMacros => .ok { s with listMacros := true }
  | .flag .verbose => .ok { s with verbose := true }
  | .flag _ => .ok s

/-- The names with a body among the values of the definition option; the last
body of a name counts. -/
def definitionsOf (raw : List Text) : List (Text × Text) :=
  Keyed.ofList Prod.fst (raw.filterMap cutAtEquals?)

/-- The names without a body, in order, each once. -/
def flagsOf (raw : List Text) : List Text :=
  Text.sortDistinct (raw.filter fun r => (cutAtEquals? r).isNone)

/-- What the command is to do. -/
structure Job where
  /-- The file to read; standard input if there is none. -/
  input : Option Path
  target : Target
  definitions : List (Text × Text)
  predeclared : List Text
  listMacros : Bool
  verbose : Bool
deriving DecidableEq, Repr

/-- Why there is no job. -/
inductive NoJob where
  | stop (s : Stop)
  /-- An option was left with no value. -/
  | valueMissing
deriving DecidableEq, Repr

/-- What is wrong with the first value that is not a name. -/
def firstNoName (values : List (Option Text)) : Option NoJob :=
  values.findSome? fun
    | some n => if isName n then none else some (.stop (.misuse (.invalidName n)))
    | none => some .valueMissing

/-- Turns settings into a job. All names must be names, and a lone dash stands
for standard input. -/
def Settings.job (s : Settings) : Except NoJob Job :=
  if s.definitions.any Option.isNone then .error .valueMissing
  else
    let raw := s.definitions.filterMap id
    let definitions := definitionsOf raw
    let flags := flagsOf raw
    match firstNoName ((definitions.map Prod.fst ++ flags).map some ++ s.predeclared) with
    | some e => .error e
    | none =>
      .ok {
        input := s.input.filter fun p => p.text ≠ ['-']
        target := s.target
        definitions
        predeclared := flags ++ s.predeclared.filterMap id
        listMacros := s.listMacros
        verbose := s.verbose }

/-- Reads a command line. -/
def plan (words : List Text) : Except NoJob Job :=
  match (Reading.ofWords specs true words).settle Settings.take {} with
  | .error stop => .error (.stop stop)
  | .ok s => s.job

/-! ## The work -/

/-- How a command ends. -/
inductive Ending where
  | exit (status : Nat)
  /-- An option had no value where one was needed. -/
  | valueMissing
  /-- A path could not even be looked up. -/
  | unsoundPath
  /-- The input was not UTF-8. -/
  | undecodable
  /-- The file for the result could not be opened. -/
  | unwritable (trouble : Trouble)
  /-- The result was refused when it was written. -/
  | refused
deriving DecidableEq, Repr

/-- All that a command does to the world. -/
structure Transcript where
  ending : Ending
  out : Text := []
  err : Text := []
  /-- The file that was written, with its content. -/
  written : Option (Path × Text) := none
deriving DecidableEq, Repr

/-- What is done where there is no job. -/
def Transcript.ofNoJob : NoJob → Transcript
  | .stop s =>
    let p := manual.answer s
    ⟨.exit p.status, p.out, p.err, none⟩
  | .valueMissing => { ending := .valueMissing }

namespace Job

/-- The name under which the input is reported. -/
def display (j : Job) : Text :=
  match j.input with
  | some p => p.text
  | none => "<stdin>".toList

/-- The lines of a history, if it is asked for. -/
def history (j : Job) (log : Log) : Text :=
  if j.verbose then Report.printed (log.map Record.render) else []

/-- Writes the text that a run gave, after what was told in it. -/
def deliver (j : Job) (obstacle : Path → Option Trouble) (refuses : Text → Bool)
    (err text : Text) : Transcript :=
  match j.target with
  | .standard =>
    if refuses text then { ending := .refused, err } else { ending := .exit 0, out := text, err }
  | .missing => { ending := .valueMissing, err }
  | .file p =>
    if !p.isSound then { ending := .unsoundPath, err }
    else match obstacle p with
      | some t => { ending := .unwritable t, err }
      | none =>
        if refuses text then { ending := .refused, err, written := some (p, []) }
        else
          { ending := .exit 0
            err := err ++ j.history [.wrote p.text]
            written := some (p, text) }

/-- Runs a source; `obstacle` tells what keeps a file from being opened, and
`refuses` which texts cannot be written to what is open. -/
def finish (j : Job) (obstacle : Path → Option Trouble) (refuses : Text → Bool) (source : Text) :
    Transcript :=
  let o := run source j.predeclared j.definitions
  let err := j.history o.log ++ if j.listMacros then Report.macros o.table else []
  match o.result with
  | .error e => { ending := .exit 1, err := err ++ Report.failure e j.display source }
  | .ok text => j.deliver obstacle refuses err text

/-- Does the work on what reading the input gave. -/
def perform (j : Job) (obstacle : Path → Option Trouble) (refuses : Text → Bool)
    (input : Except Trouble ByteArray) : Transcript :=
  if !j.input.all Path.isSound then { ending := .unsoundPath }
  else
    match input with
    | .error t => { ending := .exit 1, err := Report.unreadable j.display t.reason }
    | .ok bytes =>
      match decode? bytes with
      | none => { ending := .undecodable }
      | some source => j.finish obstacle refuses source

/-- What reading the input gives. -/
def fetch (j : Job) (stdin : ByteArray) (files : FileTree) : Except Trouble ByteArray :=
  match j.input with
  | none => .ok stdin
  | some p => files.read p

end Job

/-- The whole command. -/
def command (words : List Text) (stdin : ByteArray) (files : FileTree) : Transcript :=
  match plan words with
  | .error e => .ofNoJob e
  | .ok j => j.perform files.obstacle files.refuses (j.fetch stdin files)

/-- The file at a place, with the content that a command gave it there, if it
lies below the working directory and is new or changed. -/
def changed? (files : FileTree) (place : Steps) (text : Text) : Option (Text × Text) :=
  if (files.file? place).map (·.data) = some (encode text).data then none
  else (FileTree.below? place).map fun steps => (['/'].intercalate steps, text)

/-- The files that a command created or changed, by their paths below the
working directory. -/
def Transcript.changes (t : Transcript) (files : FileTree) : List (Text × Text) :=
  match t.written with
  | none => []
  | some (p, text) =>
    match files.destination p with
    | .ok (some place) => (changed? files place text).toList
    | _ => []

end Expand

end Cli

end LineMacro
