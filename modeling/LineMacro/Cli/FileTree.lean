import LineMacro.Cli.Path
import LineMacro.Keyed
/-!
# Command line — files

The files and directories that a command can reach. A path is followed step by
step, from the root or from the working directory: each step but the last must
lead to a directory, and `..` leads back to the one above, which for the root
is the root itself. Below the working directory stands what was put there;
around it there are the directories that every system has, and the null device,
which reads as an empty file and forgets what is written to it.
-/

namespace LineMacro

namespace Cli

/-- Why a file cannot be used. -/
inductive Trouble where
  | notFound
  | isDirectory
  | notDirectory
  | nameTooLong
deriving DecidableEq, Repr

/-- The system's words for a trouble. -/
def Trouble.reason : Trouble → Text
  | .notFound => "No such file or directory".toList
  | .isDirectory => "Is a directory".toList
  | .notDirectory => "Not a directory".toList
  | .nameTooLong => "File name too long".toList

/-- The steps that lead to a place from the root. -/
abbrev Steps := List Text

/-- The places on the way to a place, itself included. -/
def Steps.way (s : Steps) : List Steps := (List.range (s.length + 1)).map fun n => s.take n

/-- The working directory. Its own name is not known to those who type paths,
so it holds a slash, which no step can. -/
def workingDirectory : Steps := ["tmp".toList, ['/']]

/-- The null device. -/
def nullDevice : Steps := ["dev".toList, "null".toList]

/-- The directories that every system has. -/
def standardDirectories : List Steps :=
  [[], ["bin"], ["boot"], ["dev"], ["dev", "pts"], ["dev", "shm"], ["etc"], ["home"], ["lib"],
    ["media"], ["mnt"], ["opt"], ["proc"], ["proc", "self"], ["root"], ["run"], ["sbin"], ["srv"],
    ["sys"], ["tmp"], ["usr"], ["usr", "bin"], ["usr", "lib"], ["usr", "local"],
    ["usr", "local", "bin"], ["usr", "local", "lib"], ["usr", "sbin"], ["usr", "share"], ["var"],
    ["var", "cache"], ["var", "lib"], ["var", "log"], ["var", "tmp"]].map
    fun steps => steps.map String.toList

/-- Files and directories, each at its place, and what becomes of a text that is
to be written. -/
structure FileTree where
  directories : List Steps := standardDirectories ++ workingDirectory.way
  files : List (Steps × ByteArray) := []
  /-- Whether a text is refused when it is written, although what it is written
  to is open, so that nothing of it arrives. A word of a command line may hold
  bytes that spell no character; what takes them over has no UTF-8. -/
  refuses : Text → Bool := fun _ => false

namespace FileTree

/-- Where a path leads. -/
inductive Node where
  | directory (place : Steps)
  | file (place : Steps) (content : ByteArray)
  | nullDevice
  /-- Nothing stands there, but a file could. -/
  | vacant (place : Steps)

/-- The file at a place. -/
def file? (f : FileTree) (place : Steps) : Option ByteArray :=
  (Keyed.find? Prod.fst place f.files).map Prod.snd

/-- The place of a path below the working directory. -/
def placeOf (p : Path) : Steps := workingDirectory ++ p.parts

/-- Creates a directory below the working directory, with the directories that
lead there. -/
def addDirectory (f : FileTree) (p : Path) : FileTree :=
  { f with directories := f.directories ++ (placeOf p).way }

/-- Writes a file below the working directory, in place of what stood there,
with the directories that lead there. -/
def addFile (f : FileTree) (p : Path) (content : ByteArray) : FileTree :=
  { f with
    directories := f.directories ++ Steps.way (placeOf p).dropLast
    files := Keyed.put Prod.fst (placeOf p, content) f.files }

/-- What stands at a place. -/
def node (f : FileTree) (place : Steps) : Node :=
  if place = Cli.nullDevice then .nullDevice
  else if f.directories.contains place then .directory place
  else match f.file? place with
    | some content => .file place content
    | none => .vacant place

/-- The bytes of a text in UTF-8. -/
def byteCount (t : Text) : Nat := (String.ofList t).utf8ByteSize

/-- The most bytes that one step of a path may have. -/
def stepLimit : Nat := 255

/-- The most bytes that a path may have. -/
def pathLimit : Nat := 4095

/-- One step on a way. -/
def step (f : FileTree) (here : Node) (part : Text) : Except Trouble Node :=
  match here with
  | .directory place =>
    if part = ['.', '.'] then .ok (.directory place.dropLast)
    else if stepLimit < byteCount part then .error .nameTooLong
    else .ok (f.node (place ++ [part]))
  | .vacant _ => .error .notFound
  | _ => .error .notDirectory

/-- Follows a path to where it leads. -/
def follow (f : FileTree) (p : Path) : Except Trouble Node :=
  if pathLimit < byteCount p.text then .error .nameTooLong
  else p.parts.foldlM f.step (.directory (if p.root = [] then workingDirectory else []))

/-- The bytes of the file at a path. -/
def read (f : FileTree) (p : Path) : Except Trouble ByteArray := do
  match ← f.follow p with
  | .file _ content => return content
  | .nullDevice => return .empty
  | .vacant _ => throw .notFound
  | .directory _ => throw .isDirectory

/-- The place of the file that writing to a path would replace or create;
nothing keeps what is written to the null device. -/
def destination (f : FileTree) (p : Path) : Except Trouble (Option Steps) := do
  match ← f.follow p with
  | .file place _ => return some place
  | .vacant place => return some place
  | .nullDevice => return none
  | .directory _ => throw .isDirectory

/-- What keeps a file from being written. -/
def obstacle (f : FileTree) (p : Path) : Option Trouble :=
  match f.destination p with
  | .ok _ => none
  | .error t => some t

/-- The steps that lead to a place from the working directory, if it lies
below. -/
def below? (place : Steps) : Option (List Text) :=
  if workingDirectory.isPrefixOf place then some (place.drop workingDirectory.length) else none

end FileTree

end Cli

end LineMacro
