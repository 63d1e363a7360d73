import LineMacro.Proofs.Document.PointsInto
import LineMacro.Proofs.Report.Inline
import LineMacro.Proofs.Report.OneLine
/-!
# Reports — the caret below a line

A line of the source is printed with its tabs filled up to the next tab stops, and the
caret below it is set in by as many spaces as there are characters before the column
of the failure. Both are counted from the start of the output line, where the source
line is set in by two. So the caret stands at the character that it should point at
if every tab before it happens to take one cell, and to the left of it if one of them
takes more (`columnAfter_eq_iff`). What is printed for a line is told cell by cell
(`joinAtStops_splitOn`), and the report ends in it and the caret (`lines_failure_eq`).
-/

namespace LineMacro

namespace Report

open Text

variable {column k : Nat} {c : Char} {s t line : Text}

/-! ## Columns -/

/-- The column behind a character that is set at a column: a tab goes to the next tab
stop, and any other character takes one cell. -/
def columnBehind (column : Nat) (c : Char) : Nat :=
  if c = '\t' then (column / tabWidth + 1) * tabWidth else column + 1

/-- The column behind a text that is set from a column on. -/
def columnAfter (column : Nat) (t : Text) : Nat := t.foldl columnBehind column

/-- The column of the first cell of a character of a source line, which is set in by
two, or the column just behind the line. Characters and columns are counted from 0. -/
def cellOf (line : Text) (k : Nat) : Nat := columnAfter 2 (line.take k)

/-- What is printed for a character that is set at a column. -/
def cellsAt (column : Nat) (c : Char) : Text :=
  if c = '\t' then List.replicate (columnBehind column c - column) ' ' else [c]

/-- What is printed for a text that is set from a column on. -/
def cellsFrom (column : Nat) : Text → Text
  | [] => []
  | c :: t => cellsAt column c ++ cellsFrom (columnBehind column c) t

/-- Every character takes one cell, except that a tab may take more. -/
def OneCellEach (t : Text) : Prop := ∀ c ∈ t, c = '\t' ∨ Cell.width c = 1

theorem all_eq_true_iff_oneCellEach :
    t.all (fun c => c == '\t' || Cell.width c == 1) = true ↔ OneCellEach t := by
  simp [OneCellEach, List.all_eq_true]

instance : DecidablePred OneCellEach := fun _ => decidable_of_iff _ all_eq_true_iff_oneCellEach

theorem lt_columnBehind (column : Nat) (c : Char) : column < columnBehind column c := by
  unfold columnBehind tabWidth
  split <;> omega

theorem le_columnAfter (column : Nat) (t : Text) : column + t.length ≤ columnAfter column t := by
  induction t generalizing column with
  | nil => exact Nat.le_refl _
  | cons c t ih =>
    have hc := lt_columnBehind column c
    have ht : _ ≤ columnAfter column (c :: t) := ih (columnBehind column c)
    rw [List.length_cons]
    omega

/-- A tab takes one cell if it is the last character before a tab stop. -/
theorem columnBehind_eq_iff :
    columnBehind column c = column + 1 ↔ (c = '\t' → column % tabWidth = 7) := by
  unfold columnBehind tabWidth
  split
  · rename_i hc
    rw [forall_prop_of_true hc]
    omega
  · rename_i hc
    exact iff_of_true rfl fun htab => absurd htab hc

/-- What a character takes too much is not made up for by the rest. -/
theorem columnAfter_cons_eq_iff :
    columnAfter column (c :: t) = column + (c :: t).length ↔
      columnBehind column c = column + 1 ∧
        columnAfter (column + 1) t = column + 1 + t.length := by
  have hcons : columnAfter column (c :: t) = columnAfter (columnBehind column c) t := rfl
  have hle := le_columnAfter (columnBehind column c) t
  have hlt := lt_columnBehind column c
  rw [hcons, List.length_cons]
  constructor
  · intro h
    have hnext : columnBehind column c = column + 1 := by omega
    rw [hnext] at h
    exact ⟨hnext, by omega⟩
  · rintro ⟨hnext, h⟩
    rw [hnext]
    omega

/-- **Characters are columns** as long as every tab takes one cell. -/
theorem columnAfter_eq_iff :
    columnAfter column t = column + t.length ↔
      ∀ j, t[j]? = some '\t' → (column + j) % tabWidth = 7 := by
  induction t generalizing column with
  | nil => simp [columnAfter]
  | cons c t ih =>
    rw [columnAfter_cons_eq_iff, columnBehind_eq_iff, ih]
    constructor
    · rintro ⟨hfirst, hrest⟩ (_ | j) hj
      · exact hfirst (Option.some.inj hj)
      · have hmod := hrest j hj
        rwa [Nat.add_assoc, Nat.add_comm 1] at hmod
    · intro h
      refine ⟨fun hc => h 0 (congrArg some hc), fun j hj => ?_⟩
      rw [Nat.add_assoc, Nat.add_comm 1]
      exact h (j + 1) hj

/-! ## Cells -/

/-- The cells of a character go as far as the column behind it. -/
theorem length_cellsAt (column : Nat) (c : Char) :
    column + (cellsAt column c).length = columnBehind column c := by
  have hlt := lt_columnBehind column c
  unfold cellsAt
  split
  · rw [List.length_replicate]
    omega
  · rename_i hc
    rw [columnBehind, if_neg hc]
    rfl

theorem head?_cellsAt (column : Nat) (c : Char) :
    (cellsAt column c).head? = some (if c = '\t' then ' ' else c) := by
  have hlt := lt_columnBehind column c
  unfold cellsAt
  split
  · rw [List.head?_replicate, if_neg (by omega)]
  · rfl

theorem width_of_mem_cellsAt {d : Char} (h : c = '\t' ∨ Cell.width c = 1)
    (hd : d ∈ cellsAt column c) : Cell.width d = 1 := by
  unfold cellsAt at hd
  split at hd
  · rw [List.eq_of_mem_replicate hd]
    rfl
  · rename_i hc
    rw [List.mem_singleton.1 hd]
    exact h.resolve_left hc

theorem cellsFrom_append (column : Nat) (s t : Text) :
    cellsFrom column (s ++ t) = cellsFrom column s ++ cellsFrom (columnAfter column s) t := by
  induction s generalizing column with
  | nil => rfl
  | cons c s ih =>
    rw [List.cons_append, cellsFrom, cellsFrom, ih, List.append_assoc]
    rfl

/-- So do those of a text. -/
theorem length_cellsFrom (column : Nat) (t : Text) :
    column + (cellsFrom column t).length = columnAfter column t := by
  induction t generalizing column with
  | nil => rfl
  | cons c t ih => rw [cellsFrom, List.length_append, ← Nat.add_assoc, length_cellsAt, ih]; rfl

/-- The first cell of a character is at the column behind those before it. -/
theorem getElem?_cellsFrom_append (column : Nat) (s : Text) (c : Char) (t : Text) :
    (cellsFrom column (s ++ c :: t))[columnAfter column s - column]? =
      some (if c = '\t' then ' ' else c) := by
  have hindex : columnAfter column s - column = (cellsFrom column s).length := by
    rw [← length_cellsFrom, Nat.add_sub_cancel_left]
  rw [cellsFrom_append, hindex, List.getElem?_append_right (Nat.le_refl _), Nat.sub_self,
    ← List.head?_eq_getElem?, cellsFrom, List.head?_append, head?_cellsAt]
  rfl

theorem getElem?_cellsFrom (hk : t[k]? = some c) :
    (cellsFrom column t)[columnAfter column (t.take k) - column]? =
      some (if c = '\t' then ' ' else c) := by
  have hcell := getElem?_cellsFrom_append column (t.take k) c (t.drop (k + 1))
  rwa [Text.take_append_cons_drop hk] at hcell

theorem cellsFrom_of_not_mem (h : '\t' ∉ t) (column : Nat) : cellsFrom column t = t := by
  induction t generalizing column with
  | nil => rfl
  | cons c t ih =>
    rw [List.mem_cons, not_or] at h
    rw [cellsFrom, cellsAt, if_neg fun heq => h.1 heq.symm, ih h.2]
    rfl

theorem columnAfter_of_not_mem (h : '\t' ∉ t) (column : Nat) :
    columnAfter column t = column + t.length :=
  columnAfter_eq_iff.2 fun _ hj => absurd (List.mem_of_getElem? hj) h

theorem width_of_mem_cellsFrom (h : OneCellEach t) (hc : c ∈ cellsFrom column t) :
    Cell.width c = 1 := by
  induction t generalizing column with
  | nil => exact absurd hc List.not_mem_nil
  | cons d t ih =>
    obtain ⟨hd, ht⟩ := List.forall_mem_cons.1 h
    rcases List.mem_append.1 hc with hc | hc
    · exact width_of_mem_cellsAt hd hc
    · exact ih ht hc

/-! ## Tabs filled up -/

/-- A line that is set in by two has two more characters of one cell. -/
theorem OneCellEach.setIn (h : OneCellEach t) : OneCellEach (' ' :: ' ' :: t) :=
  List.forall_mem_cons.2 ⟨Or.inr rfl, List.forall_mem_cons.2 ⟨Or.inr rfl, h⟩⟩

/-- A tab takes a space, and as many more as there are to the next tab stop. -/
theorem columnBehind_tab (column : Nat) :
    columnBehind column '\t' = column + 1 + spacesToStop (column + 1) := by
  rw [columnBehind, if_pos rfl]
  unfold spacesToStop tabWidth
  omega

/-- One part and the tab behind it. -/
theorem joinAtStops_cons (hs : ∀ c ∈ s, Cell.width c = 1) {parts : List Text}
    (hparts : parts ≠ []) :
    joinAtStops column (s :: parts) =
      s ++ (cellsAt (column + s.length) '\t' ++
        joinAtStops (columnBehind (column + s.length) '\t') parts) := by
  have hcells : cells (s ++ [' ']) = s.length + 1 := by
    rw [cells_of_width, List.length_append, List.length_singleton]
    exact List.forall_mem_append.2 ⟨hs, List.forall_mem_singleton.2 rfl⟩
  have hbehind : columnBehind (column + s.length) '\t' =
      column + (s.length + 1) + spacesToStop (column + (s.length + 1)) := columnBehind_tab _
  have hgap : columnBehind (column + s.length) '\t' - (column + s.length) =
      spacesToStop (column + (s.length + 1)) + 1 := by
    rw [hbehind]
    omega
  rw [joinAtStops.eq_3 _ _ _ hparts, hcells, cellsAt, if_pos rfl, hgap, List.replicate_succ,
    hbehind]
  rfl

/-- **A line is printed cell by cell.** -/
theorem joinAtStops_splitOn (h : OneCellEach t) (column : Nat) :
    joinAtStops column (t.splitOn '\t') = cellsFrom column t := by
  induction hn : t.length using Nat.strongRecOn generalizing t column with
  | _ n ih =>
  by_cases htab : '\t' ∈ t
  · obtain ⟨s, u, rfl, hs⟩ := List.eq_append_cons_of_mem htab
    obtain ⟨hwidth, hu⟩ := List.forall_mem_append.1 h
    have hone : ∀ c ∈ s, Cell.width c = 1 := fun c hc =>
      (hwidth c hc).resolve_left fun heq => hs (heq ▸ hc)
    have hlength : u.length < n := by
      rw [← hn, List.length_append, List.length_cons]
      omega
    rw [List.splitOn_append_cons_self, List.splitOn_eq_singleton hs, List.singleton_append,
      joinAtStops_cons hone (List.splitOn_ne_nil '\t' u),
      ih _ hlength (List.forall_mem_cons.1 hu).2 _ rfl, cellsFrom_append, cellsFrom,
      cellsFrom_of_not_mem hs, columnAfter_of_not_mem hs]
  · rw [List.splitOn_eq_singleton htab, joinAtStops, cellsFrom_of_not_mem htab]

/-! ## The lines of a report -/

/-- A line of the output shows a line of the source: each character has its cell, with
a space for a tab, and there is nothing behind the last. -/
structure Shows (row t : Text) : Prop where
  length_eq : row.length = cellOf t t.length
  getElem?_eq : ∀ (k : Nat) (c : Char), t[k]? = some c →
    row[cellOf t k]? = some (if c = '\t' then ' ' else c)

/-- Each tab before a place of a source line is the last character before a tab stop. -/
def TabsTakeOneCell (t : Text) (k : Nat) : Prop :=
  ∀ j < k, t[j]? = some '\t' → (j + 2) % tabWidth = 7

theorem shows_cellsFrom (line : Text) : Shows (cellsFrom 0 (' ' :: ' ' :: line)) line where
  length_eq := by
    have hlength := length_cellsFrom 0 (' ' :: ' ' :: line)
    rw [Nat.zero_add] at hlength
    rw [hlength, cellOf, List.take_length]
    rfl
  getElem?_eq := by
    intro k c hk
    have hindent : (' ' :: ' ' :: line)[k + 2]? = some c := hk
    exact getElem?_cellsFrom hindent

theorem add_two_le_cellOf (hk : k ≤ t.length) : k + 2 ≤ cellOf t k := by
  have hle := le_columnAfter 2 (t.take k)
  rwa [List.length_take_of_le hk, Nat.add_comm] at hle

theorem cellOf_eq_iff (hk : k ≤ t.length) : cellOf t k = k + 2 ↔ TabsTakeOneCell t k := by
  have hiff : cellOf t k = 2 + (t.take k).length ↔ _ := columnAfter_eq_iff
  rw [List.length_take_of_le hk, Nat.add_comm] at hiff
  rw [hiff, TabsTakeOneCell]
  refine forall_congr' fun j => ?_
  rw [List.getElem?_take, Nat.add_comm 2 j]
  split
  · rename_i hj
    simp [hj]
  · rename_i hj
    simp [hj]

/-- A source line is set in by two. -/
theorem sourceLine_eq (line : Text) : sourceLine line = ' ' :: ' ' :: verbatim line := by
  have hcolon : ':' ∉ [' ', ' '] := by decide
  exact verbatim_append hcolon line

/-- **A source line is printed on one line.** -/
theorem display_sourceLine (hfeed : '\n' ∉ line) (hverbatim : verbatim line = line)
    (hone : OneCellEach line) (hroom : cellOf line line.length ≤ terminalWidth) :
    display (sourceLine line) = cellsFrom 0 (' ' :: ' ' :: line) ++ ['\n'] := by
  have hline : sourceLine line = ' ' :: ' ' :: line := by rw [sourceLine_eq, hverbatim]
  have huntab : untab (' ' :: ' ' :: line) = cellsFrom 0 (' ' :: ' ' :: line) :=
    joinAtStops_splitOn hone.setIn 0
  have hfits : room (cellsFrom 0 (' ' :: ' ' :: line)) ≤ terminalWidth := by
    rw [room_of_width fun c hc => width_of_mem_cellsFrom hone.setIn hc,
      (shows_cellsFrom line).length_eq]
    exact hroom
  rw [hline, display_of_untab, huntab]
  · simpa using hfeed
  · rwa [huntab]

/-- **A caret is printed as it is set**, if the terminal is wide enough. -/
theorem display_caretLine (hroom : k + 2 < terminalWidth) :
    display (caretLine (k + 1)) = List.replicate (k + 2) ' ' ++ ['^'] ++ ['\n'] := by
  have hcaret : caretLine (k + 1) = List.replicate (k + 2) ' ' ++ ['^'] := by
    have hk : ((k : Int) + 1 - 1).toNat = k := by omega
    rw [caretLine, hk, List.replicate_succ, List.replicate_succ]
    rfl
  have hmem : ∀ c ∈ List.replicate (k + 2) ' ' ++ ['^'], c = ' ' ∨ c = '^' := by
    intro c hc
    rcases List.mem_append.1 hc with hc | hc
    · exact Or.inl (List.eq_of_mem_replicate hc)
    · exact Or.inr (List.mem_singleton.1 hc)
  have hwidth : ∀ c ∈ List.replicate (k + 2) ' ' ++ ['^'], Cell.width c = 1 := by
    intro c hc
    rcases hmem c hc with rfl | rfl <;> rfl
  rw [hcaret, display_of_room]
  · intro hfeed
    rcases hmem _ hfeed with h | h <;> exact absurd h (by decide)
  · intro htab
    rcases hmem _ htab with h | h <;> exact absurd h (by decide)
  · rw [room_of_width hwidth, List.length_append, List.length_replicate]
    exact hroom

/-- What is printed ends its last line. -/
theorem exists_lines_printed_append (ls : List Text) (t : Text) :
    ∃ above, Text.lines (printed ls ++ t) = above ++ Text.lines t := by
  induction ls with
  | nil => exact ⟨[], rfl⟩
  | cons l ls ih =>
    obtain ⟨above, habove⟩ := ih
    refine ⟨Text.lines l ++ above, ?_⟩
    rw [printed, List.flatMap_cons, List.append_assoc, List.append_assoc, List.singleton_append,
      Text.lines_append]
    rw [printed] at habove
    rw [habove, List.append_assoc]

/-- **The lines of an excerpt**: the source line, the caret, and nothing below. -/
theorem lines_excerpt_eq {e : Failure} {document : Text} (hpoints : e.PointsInto document line)
    (hk : e.column = k + 1) (hverbatim : verbatim line = line) (hone : OneCellEach line)
    (hroom : cellOf line line.length < terminalWidth) :
    Text.lines ((excerpt e.toPlace document).flatMap display) =
      [cellsFrom 0 (' ' :: ' ' :: line), List.replicate (k + 2) ' ' ++ ['^'], []] := by
  have hfeed : '\n' ∉ line := Text.not_mem_of_mem_lines (List.mem_of_getElem? hpoints.line_eq)
  have hcaret : k + 2 < terminalWidth := by
    have hinside := hpoints.column_le
    have hlength := le_columnAfter 2 line
    rw [cellOf, List.take_length] at hroom
    omega
  -- a line feed takes no cell
  have hcells : '\n' ∉ cellsFrom 0 (' ' :: ' ' :: line) := fun hmem =>
    absurd (width_of_mem_cellsFrom hone.setIn hmem) (by decide)
  have hspaces : '\n' ∉ List.replicate (k + 2) ' ' ++ ['^'] := by simp
  rw [hpoints.excerpt_eq, List.flatMap_cons, List.flatMap_singleton, hk,
    display_sourceLine hfeed hverbatim hone (Nat.le_of_lt hroom), display_caretLine hcaret,
    List.append_assoc, List.singleton_append, Text.lines_append, Text.lines_of_not_mem hcells,
    Text.lines_append, Text.lines_of_not_mem hspaces]
  rfl

/-- **The excerpt ends the report.** -/
theorem lines_failure_eq {e : Failure} {document : Text} (hpoints : e.PointsInto document line)
    (hk : e.column = k + 1) (hverbatim : verbatim line = line) (hone : OneCellEach line)
    (hroom : cellOf line line.length < terminalWidth) (path : Text) :
    ∃ above, Text.lines (failure e path document) =
      above ++ [cellsFrom 0 (' ' :: ' ' :: line), List.replicate (k + 2) ' ' ++ ['^'], []] := by
  obtain ⟨above, habove⟩ := exists_lines_printed_append
    (layOut .fold .ragged terminalWidth (header e.message e.toPlace path))
    ((excerpt e.toPlace document).flatMap display)
  refine ⟨above, ?_⟩
  rw [failure, error, List.flatMap_cons]
  exact habove.trans (by rw [lines_excerpt_eq hpoints hk hverbatim hone hroom])

/-- A caret stands at one column. -/
theorem getElem?_caret_iff {j : Nat} :
    (List.replicate k ' ' ++ ['^'])[j]? = some '^' ↔ j = k := by
  rcases Nat.lt_trichotomy j k with h | rfl | h
  · rw [List.getElem?_append_left (by simpa using h), List.getElem?_replicate_of_lt h]
    exact iff_of_false (by decide) (Nat.ne_of_lt h)
  · rw [List.getElem?_append_right (by simp), List.length_replicate, Nat.sub_self]
    simp
  · have hbehind : (List.replicate k ' ' ++ ['^']).length ≤ j := by
      rw [List.length_append, List.length_replicate]
      exact h
    rw [List.getElem?_eq_none hbehind]
    exact iff_of_false nofun (Nat.ne_of_gt h)

/-- **The caret stands at its character exactly if every tab before it takes one
cell.** A run fails at a place in a line of its document. If the terminal changes no
character of the line, each takes one cell, but for tabs, and there is room for the
line, then the report ends in the line, with its tabs filled up, and the caret below
it. The caret never stands to the right of the character at the place, or of the end
of the line; it stands at it if and only if each tab further left is the last character
before a tab stop. -/
theorem caret_at_character {document : Text} {predeclared : List Text}
    {definitions : List (Text × Text)} {e : Failure}
    (hnames : ∀ d ∈ definitions, isName d.1 = true)
    (herr : (run document predeclared definitions).result = .error e) (path : Text) :
    ∃ (line : Text) (k : Nat), e.PointsInto document line ∧ e.column = k + 1 ∧
      (verbatim line = line → OneCellEach line → cellOf line line.length < terminalWidth →
        ∃ above row caret, Text.lines (failure e path document) = above ++ [row, caret, []] ∧
          Shows row line ∧ caret = List.replicate (k + 2) ' ' ++ ['^'] ∧ k + 2 ≤ cellOf line k ∧
          (caret[cellOf line k]? = some '^' ↔ TabsTakeOneCell line k)) := by
  obtain ⟨line, hpoints⟩ := exists_pointsInto hnames herr
  obtain ⟨k, hk, hcolumn, -⟩ := hpoints.exists_caretLine_eq
  refine ⟨line, k, hpoints, hcolumn, fun hverbatim hone hroom => ?_⟩
  obtain ⟨above, hlines⟩ := lines_failure_eq hpoints hcolumn hverbatim hone hroom path
  have hle := add_two_le_cellOf hk
  exact ⟨above, _, _, hlines, shows_cellsFrom line, rfl, hle,
    getElem?_caret_iff.trans (cellOf_eq_iff hk)⟩

/-- A tab at the last place before a tab stop: the caret stands at the call behind it,
in the ninth column of the output. -/
theorem caret_at_character_tab :
    let document := "#define f(x) x\n12345\tf(".toList
    let e : Failure := { line := 2, column := 7, fault := .unclosedArguments ['f'] }
    (run document [] []).result = .error e ∧
      ∃ above row caret,
        Text.lines (failure e "in.txt".toList document) = above ++ [row, caret, []] ∧
          Shows row "12345\tf(".toList ∧ cellOf "12345\tf(".toList 6 = 8 ∧
            caret[8]? = some '^' := by
  have herr : (run "#define f(x) x\n12345\tf(".toList [] []).result =
      .error { line := 2, column := 7, fault := .unclosedArguments ['f'] } := by decide +kernel
  obtain ⟨line, k, hpoints, hcolumn, hshows⟩ :=
    caret_at_character (List.forall_mem_nil _) herr "in.txt".toList
  obtain rfl : "12345\tf(".toList = line := Option.some.inj hpoints.line_eq
  obtain rfl : 6 = k := by
    dsimp only at hcolumn
    omega
  have hcells : OneCellEach "12345\tf(".toList := by decide
  have hcell : cellOf "12345\tf(".toList 6 = 8 := by decide
  obtain ⟨above, row, caret, hlines, hrow, -, -, hcaret⟩ :=
    hshows (by decide +kernel) hcells (by decide)
  refine ⟨herr, above, row, caret, hlines, hrow, hcell, ?_⟩
  rw [← hcell]
  exact hcaret.2 ((cellOf_eq_iff (by decide)).1 hcell)

/-- **The caret does not always stand at the character**: behind a tab at the start of
the line it stands to the left of it, within the cells of the tab. -/
theorem not_forall_caret_at_character :
    ¬ ∀ (document path line row caret : Text) (above : List Text) (e : Failure) (k : Nat),
      (run document [] []).result = .error e → e.PointsInto document line → e.column = k + 1 →
      verbatim line = line → OneCellEach line → cellOf line line.length < terminalWidth →
      Text.lines (failure e path document) = above ++ [row, caret, []] →
      caret[cellOf line k]? = some '^' := by
  intro hall
  have herr : (run "#define f(x) x\n\tf(".toList [] []).result =
      .error { line := 2, column := 2, fault := .unclosedArguments ['f'] } := by decide +kernel
  have hverbatim : verbatim "\tf(".toList = "\tf(".toList := by decide +kernel
  have hcells : OneCellEach "\tf(".toList := by decide
  have hroom : cellOf "\tf(".toList "\tf(".toList.length < terminalWidth := by decide
  obtain ⟨line, hpoints⟩ := exists_pointsInto (List.forall_mem_nil _) herr
  obtain rfl : "\tf(".toList = line := Option.some.inj hpoints.line_eq
  obtain ⟨above, hlines⟩ :=
    lines_failure_eq (k := 1) hpoints rfl hverbatim hcells hroom "in.txt".toList
  have hcaret := hall _ _ _ _ _ _ _ 1 herr hpoints rfl hverbatim hcells hroom hlines
  rw [getElem?_caret_iff] at hcaret
  exact absurd hcaret (by decide)

end Report

end LineMacro
