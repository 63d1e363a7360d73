import LineMacro.Report.Layout
/-!
# Reports — tables

A table is a box with a title over it, headings, and rows of cells. A column is
as wide as its widest cell, and a space stands on either side of it. A table
too wide for the terminal takes the space from its widest columns, which then
break their cells into several lines.
-/

namespace LineMacro

namespace Report

open Text

/-- A column of a table. -/
structure Column where
  heading : Text
  side : Side
deriving DecidableEq, Repr

/-! ## Widths -/

/-- Whether a character ends a line where a cell is measured. -/
def endsLine (c : Char) : Bool :=
  let n := c.toNat
  (0x0A ≤ n && n ≤ 0x0D) || (0x1C ≤ n && n ≤ 0x1E) || n == 0x85 || n == 0x2028 || n == 0x2029

/-- The cells of the widest line of a text. -/
def widest (t : Text) : Nat := ((t.splitOnP endsLine).map cells).foldl max 0

/-- The total of some widths. -/
def totalWidth (widths : List Nat) : Nat := widths.foldl (· + ·) 0

/-- A quotient to the nearest whole number, a half to the even one. -/
def nearest (n d : Nat) : Nat :=
  let q := n / d
  let twice := 2 * (n % d)
  if twice < d ∨ (twice = d ∧ q % 2 = 0) then q else q + 1

/-- Cuts the columns of the greatest width, `count` of them, by `excess`
altogether, each by an even share and by no more than `most`. -/
def shave (greatest most : Nat) (excess count : Nat) : List Nat → List Nat
  | [] => []
  | w :: ws =>
    if w = greatest then
      let share := min most (nearest excess count)
      (w - share) :: shave greatest most (excess - share) (count - 1) ws
    else w :: shave greatest most excess count ws

/-- One step of making columns fit: the widest give way, but no further than to
the next widest. -/
def shrinkOnce (limit : Nat) (widths : List Nat) : List Nat :=
  let excess := totalWidth widths - limit
  let greatest := widths.foldl max 0
  let second := (widths.filter (· != greatest)).foldl max 0
  shave greatest (min excess (greatest - second)) excess (widths.count greatest) widths

/-- Widths that fit. Each step makes the widest columns as narrow as the next,
until the last step takes what is left, so there are no more steps than
columns. -/
def shrink (limit : Nat) (widths : List Nat) : List Nat :=
  widths.foldl (fun ws _ => shrinkOnce limit ws) widths

/-- The widths of the columns, with the spaces beside them. -/
def columnWidths (columns : List Column) (rows : List (List Text)) : List Nat :=
  -- One bar stands before each column and one after the last.
  let limit := terminalWidth - (columns.length + 1)
  let natural := rows.foldl (fun ws row => List.zipWith max ws (row.map widest))
    (columns.map fun c => widest c.heading)
  shrink limit (natural.map fun w => min (w + 2) limit)

/-! ## Lines -/

/-- A rule across columns of the given widths, with its corners and joints. -/
def rule (left fill joint right : Char) (widths : List Nat) : Text :=
  left :: ([joint].intercalate (widths.map fun w => List.replicate w fill) ++ [right])

/-- The lines of a cell, without the spaces beside it. -/
def cellLines (c : Column) (width : Nat) (t : Text) : List Text :=
  layOut .ellipsis c.side (width - 2) t

/-- The lines of a row: as many as its highest cell has, with blanks below the
others. -/
def rowLines (bar : Char) (columns : List Column) (widths : List Nat) (row : List Text) :
    List Text :=
  let blocks := (columns.zip (widths.zip row)).map fun (c, w, t) => (w, cellLines c w t)
  let height := (blocks.map fun b => b.2.length).foldl max 0
  (List.range height).map fun i =>
    bar :: blocks.flatMap fun (w, lines) =>
      ' ' :: (lines[i]?.getD (List.replicate (w - 2) ' ') ++ [' ', bar])

/-- A text with spaces on both sides, one more on the right if they are odd. -/
def centred (width : Nat) (t : Text) : Text :=
  padRight width (List.replicate ((width - cells t) / 2) ' ' ++ t)

/-- The lines of a table. -/
def tableLines (title : Text) (columns : List Column) (rows : List (List Text)) : List Text :=
  let widths := columnWidths columns rows
  [centred (totalWidth widths + (columns.length + 1)) title,
    rule '┏' '━' '┳' '┓' widths] ++
    rowLines '┃' columns widths (columns.map Column.heading) ++
    [rule '┡' '━' '╇' '┩' widths] ++
    rows.flatMap (rowLines '│' columns widths) ++
    [rule '└' '─' '┴' '┘' widths]

end Report

end LineMacro
