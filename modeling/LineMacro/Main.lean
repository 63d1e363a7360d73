import LineMacro.Cli.Expand
/-!
# The program

Reads what the job asks for, lets the job decide everything, and does what its
transcript says.
-/

namespace LineMacro

namespace Cli

/-- The trouble behind an error of the system, if it is one that a command can
report. Error codes come with either sign. -/
def troubleOf : IO.Error → Option Trouble
  | .noFileOrDirectory .. => some .notFound
  | .inappropriateType _ code _ =>
    match (min code (0 - code)).toNat with
    | 20 => some .notDirectory
    | 21 => some .isDirectory
    | _ => none
  | _ => none

/-- Runs an action; a trouble that a command can report is given back. -/
def attempt {α : Type} (act : IO α) : IO (Except Trouble α) := do
  try
    return .ok (← act)
  catch e =>
    match troubleOf e with
    | some t => return .error t
    | none => throw e

/-- Reads all of standard input. -/
def readStdin : IO ByteArray := do
  (← IO.getStdin).readBinToEnd

/-- Reads the input of a job. -/
def Expand.Job.readInput (j : Expand.Job) : IO (Except Trouble ByteArray) :=
  match j.input with
  | none => .ok <$> readStdin
  | some p => attempt (IO.FS.readBinFile (String.ofList p.text))

/-- Does what a transcript says about files; gives back what kept it from
writing. -/
def Expand.Transcript.write (t : Expand.Transcript) : IO (Option Trouble) := do
  match t.written with
  | none => return none
  | some (p, text) =>
    match ← attempt (IO.FS.writeBinFile (String.ofList p.text) (encode text)) with
    | .ok () => return none
    | .error trouble => return some trouble

/-- Prints what a transcript says, and gives the status. -/
def Expand.Transcript.print (t : Expand.Transcript) : IO UInt32 := do
  IO.print (String.ofList t.out)
  IO.eprint (String.ofList t.err)
  match t.ending with
  | .exit status => return status.toUInt32
  | .valueMissing =>
    IO.eprintln "prepr: an option has no value"
    return 1
  | .unsoundPath =>
    IO.eprintln "prepr: a path holds a zero character"
    return 1
  | .undecodable =>
    IO.eprintln "prepr: the input is not UTF-8"
    return 1
  | .unwritable trouble =>
    IO.eprintln ("prepr: cannot write the output: " ++ String.ofList trouble.reason)
    return 1
  | .refused =>
    IO.eprintln "prepr: the output was refused"
    return 1

end Cli

end LineMacro

/-- Expands the macros of a document. -/
def main (args : List String) : IO UInt32 := do
  match LineMacro.Cli.Expand.plan (args.map String.toList) with
  | .error e => (LineMacro.Cli.Expand.Transcript.ofNoJob e).print
  | .ok job =>
    let input ← job.readInput
    -- every string has bytes, so no result is refused
    let t := job.perform (fun _ => none) (fun _ => false) input
    match ← t.write with
    | none => t.print
    | some trouble => (job.perform (fun _ => some trouble) (fun _ => false) input).print
