import LineMacro.Text.DecimalDigit
import LineMacro.Text.Quoted
/-!
# Command line — options

A command line is a list of words. A word is an option, a plain word, or the
divider `--`, after which every word is plain. Options have a short form, as
`-o`, or a long one, as `--output`; a long form may be shortened as long as
only one option starts that way. Some options are flags, the others take a
value, which stands in the next word or is attached: after `=`, or right after
a short form. Text attached to a flag in short form is read as more options in
short form, letter by letter; all of it must be understood before any option of
the word counts.

Reading (`Reading.ofWords`) yields events in the order in which they take
effect, so that an option which answers at once does so before a mistake
further on is noticed; only options that could mean several things are noticed
before everything else. One plain word may be the input; others, and options
that do not exist, are left over.
-/

namespace LineMacro

namespace Cli

/-- An option of a command. -/
structure Spec (ι : Type) where
  key : ι
  /-- The forms under which it is typed, as it is also called in messages. -/
  names : List Text
  takesValue : Bool

/-- What is wrong with a command line. -/
inductive Misuse where
  /-- A shortened option could mean several. -/
  | ambiguous (typed : Text) (candidates : List Text)
  /-- The value of an option is missing. -/
  | needsValue (names : List Text)
  /-- A flag was given a value. -/
  | takesNoValue (names : List Text) (value : Text)
  /-- The value of an option is not an integer. -/
  | notAnInteger (names : List Text) (value : Text)
  /-- Words were left over. -/
  | unrecognized (words : List Text)
  /-- A name given to the named options is no name. -/
  | invalidName (name : Text)
deriving DecidableEq, Repr

/-- An option as messages call it. -/
def argument (names : List Text) : Text := "argument ".toList ++ ['/'].intercalate names

/-- The wording of a mistake. -/
def Misuse.message : Misuse → Text
  | .ambiguous typed candidates =>
    "ambiguous option: ".toList ++ typed ++ " could match ".toList ++
      [',', ' '].intercalate candidates
  | .needsValue names => argument names ++ ": expected one argument".toList
  | .takesNoValue names value =>
    argument names ++ ": ignored explicit argument ".toList ++ Text.quoted value
  | .notAnInteger names value =>
    argument names ++ ": invalid int value: ".toList ++ Text.quoted value
  | .unrecognized words => "unrecognized arguments: ".toList ++ [' '].intercalate words
  | .invalidName name => "invalid macro name for -D/-P: ".toList ++ Text.quoted name

variable {ι : Type}

/-! ## Words -/

/-- What a word of the command line is. -/
inductive Word (ι : Type) where
  | plain (text : Text)
  /-- An option, in short form or not, with the text attached to it. -/
  | option (spec : Spec ι) (short : Bool) (attached : Option Text)
  /-- An option that does not exist. -/
  | unknown (text : Text)
  /-- The word after which every word is plain. -/
  | divider

/-- The option with a form. -/
def named? (specs : List (Spec ι)) (name : Text) : Option (Spec ι) :=
  specs.find? fun s => s.names.contains name

/-- Whether a form is a short one: it has a single dash. -/
def isShort (name : Text) : Bool := name[1]? != some '-'

/-- A text cut at its first equals sign. -/
def cutAtEquals? (t : Text) : Option (Text × Text) :=
  match t.dropWhile (· != '=') with
  | [] => none
  | _ :: value => some (t.takeWhile (· != '='), value)

/-- Whether a word is a negative number, which is plain; one line feed may end
it. -/
def isNegativeNumber : Text → Bool
  | '-' :: t =>
    let t := if t.getLast? = some '\n' then t.dropLast else t
    match t.dropWhile Text.isDecimalDigit with
    | [] => t != []
    | '.' :: decimals => decimals != [] && decimals.all Text.isDecimalDigit
    | _ => false
  | _ => false

/-- The options that a word may mean without being typed in full, each with its
full form: those that start with a long form, or the one whose short form
starts the word. -/
def candidates (specs : List (Spec ι)) (w : Text) : List (Text × Word ι) :=
  if isShort w then
    match named? specs (w.take 2) with
    | some s => [(w.take 2, .option s true (some (w.drop 2)))]
    | none => []
  else
    let (typed, attached) : Text × Option Text := match cutAtEquals? w with
      | some (typed, value) => (typed, some value)
      | none => (w, none)
    specs.flatMap fun s =>
      (s.names.filter fun name => typed.isPrefixOf name).map fun name =>
        (name, .option s false attached)

/-- An option typed in full, alone or with a value after an equals sign. -/
def inFull? (specs : List (Spec ι)) (w : Text) : Option (Word ι) :=
  match named? specs w with
  | some s => some (.option s (isShort w) none)
  | none =>
    match cutAtEquals? w with
    | some (name, value) =>
      (named? specs name).map fun s => .option s (isShort name) (some value)
    | none => none

/-- Tells what a word is, the divider apart. -/
def classify (specs : List (Spec ι)) (w : Text) : Except Misuse (Word ι) :=
  if w.length < 2 ∨ w.head? ≠ some '-' then .ok (.plain w)
  else
    match inFull? specs w with
    | some k => .ok k
    | none =>
      match candidates specs w with
      | [(_, k)] => .ok k
      | [] => .ok (if isNegativeNumber w || w.contains ' ' then .plain w else .unknown w)
      | several => .error (.ambiguous w (several.map Prod.fst))

/-- Tells what each word is. -/
def classifyAll (specs : List (Spec ι)) : List Text → Except Misuse (List (Word ι))
  | [] => .ok []
  | w :: rest =>
    if w = ['-', '-'] then .ok (.divider :: rest.map .plain)
    else do
      let k ← classify specs w
      let ks ← classifyAll specs rest
      return k :: ks

/-! ## Events -/

/-- One thing that a command line asks for. -/
inductive Event (ι : Type) where
  | flag (key : ι)
  /-- An option with its value; the divider is no value, and attached to an
  option it leaves it with none. -/
  | value (key : ι) (value : Option Text)
  | input (word : Text)
deriving DecidableEq, Repr

/-- An option with a text attached to it as its value. -/
def Event.ofAttached (key : ι) (t : Text) : Event ι :=
  .value key (if t = ['-', '-'] then none else some t)

/-- The events of a command line, and the words left over or the mistake that
ended the reading. -/
structure Reading (ι : Type) where
  events : List (Event ι)
  rest : Except Misuse (List Text)

/-- What the options of one word ask for. -/
structure WordReading (ι : Type) where
  events : List (Event ι) := []
  /-- The option that takes its value from the next word. -/
  waiting : Option (Spec ι) := none

/-- Reads an option in short form with the text after it: a value, or, after a
flag, more options in short form. -/
def readShort (specs : List (Spec ι)) (s : Spec ι) : Text → Except Misuse (WordReading ι)
  | [] =>
    .ok (if s.takesValue then { waiting := some s } else { events := [.flag s.key] })
  | c :: t =>
    if s.takesValue then .ok { events := [.ofAttached s.key (c :: t)] }
    else
      match named? specs ['-', c] with
      | none => .error (.takesNoValue s.names (c :: t))
      | some next => do
        let r ← readShort specs next t
        return { r with events := .flag s.key :: r.events }

/-- Reads the options of one word. -/
def readOption (specs : List (Spec ι)) (s : Spec ι) (short : Bool) :
    Option Text → Except Misuse (WordReading ι)
  | none => readShort specs s []
  | some t =>
    if short ∧ t ≠ [] then readShort specs s t
    else if s.takesValue then .ok { events := [.ofAttached s.key t] }
    else .error (.takesNoValue s.names t)

/-- How far the place of the input is taken. -/
inductive Slot where
  | free
  /-- The word before this one was the input: a divider may still follow it. -/
  | justTaken
  | taken
deriving DecidableEq, Repr

/-- The slot once another word than an input or a divider has been read. -/
def Slot.settled : Slot → Slot
  | .free => .free
  | _ => .taken

/-- Puts events before a reading. -/
def Reading.after (events : List (Event ι)) (r : Reading ι) : Reading ι :=
  { r with events := events ++ r.events }

/-- Puts a word before those left over. -/
def Reading.leaving (w : Text) (r : Reading ι) : Reading ι :=
  { r with rest := r.rest.map (w :: ·) }

/-- Reads words from left to right. -/
def readWords (specs : List (Spec ι)) (slot : Slot) : List (Word ι) → Reading ι
  | [] => ⟨[], .ok []⟩
  | .plain w :: rest =>
    if slot = .free then (readWords specs .justTaken rest).after [.input w]
    else (readWords specs .taken rest).leaving w
  | .divider :: rest =>
    match slot with
    | .free => readWords specs .free rest
    | .justTaken => readWords specs .taken rest
    | .taken => (readWords specs .taken rest).leaving ['-', '-']
  | .unknown w :: rest => (readWords specs slot.settled rest).leaving w
  | .option s short attached :: rest =>
    match readOption specs s short attached with
    | .error m => ⟨[], .error m⟩
    | .ok { events, waiting := some s } =>
      -- Only a plain word is a value: the divider and other options are not.
      match rest with
      | .plain w :: rest =>
        (readWords specs slot.settled rest).after (events ++ [.value s.key (some w)])
      | _ => ⟨[], .error (.needsValue s.names)⟩
    | .ok { events, waiting := none } =>
      (readWords specs slot.settled rest).after events

/-- Reads a command line; `hasInput` tells whether one plain word is the
input. -/
def Reading.ofWords (specs : List (Spec ι)) (hasInput : Bool) (words : List Text) : Reading ι :=
  match classifyAll specs words with
  | .error m => ⟨[], .error m⟩
  | .ok ks => readWords specs (if hasInput then .free else .taken) ks

/-! ## Carrying out -/

/-- What ends a command before its work begins. -/
inductive Stop where
  | help
  | version
  | misuse (m : Misuse)
deriving DecidableEq, Repr

/-- Lets the events take effect one after another; then nothing may be left
over. -/
def Reading.settle {σ : Type} (r : Reading ι) (act : σ → Event ι → Except Stop σ) (s : σ) :
    Except Stop σ := do
  let s ← r.events.foldlM act s
  match r.rest with
  | .ok [] => return s
  | .ok words => .error (.misuse (.unrecognized words))
  | .error m => .error (.misuse m)

end Cli

end LineMacro
