import LineMacro.Text.Blank
import LineMacro.Text.Cell
/-!
# Reports — the lines of a text

A text is set in lines of a width. Each of its own lines is taken by itself: a
tab fills up to the next tab stop, words go on one line as long as they fit,
and a word that is too wide for any line is either folded over several or cut
with an ellipsis. Blanks after a word stay on its line, unless they are too
many for it. A line is left as it is or filled up on one side.
-/

namespace LineMacro

namespace Report

open Text

/-! ## Tabs -/

/-- The distance between tab stops. -/
def tabWidth : Nat := 8

/-- The spaces from a column to a tab stop, none if it is at one. -/
def spacesToStop (column : Nat) : Nat := (tabWidth - column % tabWidth) % tabWidth

/-- The parts of a line between its tabs, put together from a column on. A tab
takes one space at least. -/
def joinAtStops (column : Nat) : List Text → Text
  | [] => []
  | [part] => part
  | part :: parts =>
    let column := column + cells (part ++ [' '])
    let gap := spacesToStop column
    part ++ ' ' :: (List.replicate gap ' ' ++ joinAtStops (column + gap) parts)

/-- A line with spaces for its tabs. -/
def untab (line : Text) : Text := joinAtStops 0 (line.splitOn '\t')

/-! ## Words -/

/-- The blanks at the start of a line, and its words, each with the blanks
after it. -/
def blanksAndWords : Text → Text × List Text
  | [] => ([], [])
  | c :: t =>
    let (blanks, ws) := blanksAndWords t
    if isBlank c then (c :: blanks, ws)
    else
      match blanks, ws with
      | [], w :: ws => ([], (c :: w) :: ws)
      | _, ws => ([], (c :: blanks) :: ws)

/-- The words of a line, each with the blanks after it, the first also with
those before it; none if there are only blanks. -/
def wordsOf (line : Text) : List Text :=
  match blanksAndWords line with
  | (blanks, w :: ws) => (blanks ++ w) :: ws
  | (_, []) => []

/-- What becomes of a word that is too wide for any line. -/
inductive Overflow where
  | fold
  | ellipsis
deriving DecidableEq, Repr

/-- Lines that are being filled with words. -/
structure Filling where
  /-- The lines before, last first. -/
  before : List Text := []
  line : Text := []
  /-- The cells taken on the line. -/
  used : Nat := 0
deriving DecidableEq, Repr

/-- The lines filled so far, last first. -/
def Filling.lines (f : Filling) : List Text :=
  if f.line = [] then f.before else f.line :: f.before

/-- Goes on with a line of its own. -/
def Filling.next (f : Filling) (line : Text) : Filling := ⟨f.lines, line, cells line⟩

/-- Takes one more word. -/
def Filling.add (o : Overflow) (width : Nat) (f : Filling) (word : Text) : Filling :=
  let size := cells (dropTrailing isBlank word)
  if f.used + size ≤ width then
    { f with line := f.line ++ word, used := f.used + cells word }
  else if width < size ∧ o = .fold then (chop width word).foldl Filling.next f
  else f.next word

/-- A line in lines of a width, the blanks at their ends still there. -/
def breakLine (o : Overflow) (width : Nat) (line : Text) : List Text :=
  match wordsOf line with
  | [] => [line]
  | ws => (ws.foldl (Filling.add o width) {}).lines.reverse

/-! ## Lines -/

/-- A line without those blanks at its end that are too many. -/
def dropExcess (width : Nat) (line : Text) : Text :=
  let blanks := line.length - (dropTrailing isBlank line).length
  line.take (line.length - min blanks (line.length - width))

/-- A line that is not too wide. -/
def fit (o : Overflow) (width : Nat) (line : Text) : Text :=
  if cells line ≤ width then line
  else match o with
    | .fold => crop width line
    | .ellipsis => crop (width - 1) line ++ ['…']

/-- The side on which a line is kept. -/
inductive Side where
  /-- The line is not filled up. -/
  | ragged
  | left
  | right
deriving DecidableEq, Repr

/-- A line that is not too wide, filled up as far as asked. -/
def align (o : Overflow) (s : Side) (width : Nat) (line : Text) : Text :=
  match s with
  | .ragged => fit o width line
  | .left => padRight width (fit o width line)
  | .right => padLeft width (fit o width (dropTrailing isBlank line))

/-- The lines of a text in a width. -/
def layOut (o : Overflow) (s : Side) (width : Nat) (t : Text) : List Text :=
  (t.splitOn '\n').flatMap fun line =>
    (breakLine o width (untab line)).map fun l => align o s width (dropExcess width l)

/-- The width of the terminal. -/
def terminalWidth : Nat := 1000

/-- Lines, each with a line feed after it. -/
def printed (lines : List Text) : Text := lines.flatMap (· ++ ['\n'])

/-- A text as the terminal sets it. -/
def display (t : Text) : Text := printed (layOut .fold .ragged terminalWidth t)

/-! ## Laws -/

/-- **Nothing is lost.** The blanks at the start of a line and its words, one
after another, are the line. -/
theorem flatten_blanksAndWords (line : Text) :
    (blanksAndWords line).1 ++ (blanksAndWords line).2.flatten = line := by
  induction line with
  | nil => rfl
  | cons c t ih =>
    rw [blanksAndWords]
    generalize blanksAndWords t = r at ih
    obtain ⟨blanks, ws⟩ := r
    simp only at ih ⊢
    split
    · simpa using ih
    · split
      · simpa using ih
      · simpa using ih

theorem flatten_wordsOf {line : Text} (h : wordsOf line ≠ []) : (wordsOf line).flatten = line := by
  have hall := flatten_blanksAndWords line
  rw [wordsOf] at h ⊢
  split at h
  · rename_i blanks w ws heq
    rw [heq] at hall
    rwa [List.flatten_cons, List.append_assoc]
  · exact absurd rfl h

theorem Filling.flatten_lines (f : Filling) :
    f.lines.reverse.flatten = f.before.reverse.flatten ++ f.line := by
  unfold Filling.lines
  split
  · rename_i h
    rw [h, List.append_nil]
  · simp

end Report

end LineMacro
