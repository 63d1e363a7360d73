import LineMacro.Proofs.Document.Visible
import LineMacro.Report.Excerpt
/-!
# Documents — what a failure points at

The failure of a run that starts from names points into the document
(`exists_pointsInto`): its line is one of the document's, and its column is that
of a character in this line or of the place just behind the last one. Neither
number is missing, so whoever shows the failure has a line to show it on.
-/

namespace LineMacro

namespace Failure

/-- The failure points into the document, at a place in the line or just behind
it. -/
structure PointsInto (e : Failure) (document line : Text) : Prop where
  one_le_line : 1 ≤ e.line
  line_eq : (Text.lines document)[(e.line - 1).toNat]? = some line
  one_le_column : 1 ≤ e.column
  column_le : e.column ≤ line.length + 1

namespace PointsInto

variable {e : Failure} {document line path : Text}

theorem line_le (h : e.PointsInto document line) : e.line ≤ (Text.lines document).length := by
  have hlt := (List.getElem?_eq_some_iff.1 h.line_eq).1
  have hone := h.one_le_line
  omega

/-! Both numbers are known. -/

theorem line_ne_zero (h : e.PointsInto document line) : e.line ≠ 0 := by
  have hone := h.one_le_line
  omega

theorem column_ne_zero (h : e.PointsInto document line) : e.column ≠ 0 := by
  have hone := h.one_le_column
  omega

/-- Both are natural numbers. -/
theorem exists_natCast (h : e.PointsInto document line) :
    ∃ l k : Nat, e.line = l ∧ e.column = k := by
  have hline := h.one_le_line
  have hcolumn := h.one_le_column
  exact ⟨e.line.toNat, e.column.toNat, by omega, by omega⟩

/-- The line is the one that a report shows. -/
theorem lineOf?_eq (h : e.PointsInto document line) :
    Report.lineOf? e.toPlace document = some line := by
  have hone := h.one_le_line
  rw [Report.lineOf?, if_pos (by omega), h.line_eq]

/-! A report of it never has to leave a part out. -/

theorem excerpt_eq (h : e.PointsInto document line) :
    Report.excerpt e.toPlace document = [Report.sourceLine line, Report.caretLine e.column] := by
  rw [Report.excerpt, h.lineOf?_eq]
  dsimp only
  rw [if_neg h.column_ne_zero]

/-- No number is left out. -/
theorem locate_eq (h : e.PointsInto document line) (hpath : path ≠ []) :
    e.locate path = [':'].intercalate [path, Text.decimal e.line, Text.decimal e.column] := by
  rw [Place.locate, if_neg hpath, if_neg h.line_ne_zero, if_neg h.column_ne_zero]
  simp [List.intercalate]

theorem exists_caretLine_eq (h : e.PointsInto document line) :
    ∃ k ≤ line.length, e.column = k + 1 ∧
      Report.caretLine e.column = ' ' :: ' ' :: (List.replicate k ' ' ++ ['^']) := by
  have hone := h.one_le_column
  have hinside := h.column_le
  exact ⟨(e.column - 1).toNat, by omega, by omega, rfl⟩

/-- The caret stands within the line, or one place further. -/
theorem caretTrouble?_eq (h : e.PointsInto document line) {room : Int}
    (hroom : line.length < room) (hcount : line.length < Report.countLimit) :
    Report.caretTrouble? room e.toPlace document = none := by
  have hone := h.one_le_column
  have hinside := h.column_le
  rw [Report.countLimit] at hcount
  rw [Report.caretTrouble?, h.lineOf?_eq, if_neg (by simp), Report.countLimit,
    if_neg (by omega), if_neg (by omega)]

end PointsInto

end Failure

/-- **A run fails inside its document.** Seeding is no cause of failure, a line
that cannot be handled is reported with its number, and handling stops at a place
in it. -/
theorem exists_pointsInto {document : Text} {predeclared : List Text}
    {definitions : List (Text × Text)} {e : Failure}
    (hnames : ∀ d ∈ definitions, isName d.1 = true)
    (herr : (run document predeclared definitions).result = .error e) :
    ∃ line, e.PointsInto document line := by
  obtain ⟨above, line, below, -, e', hlines, -, hrefuses, he⟩ :=
    (run_result_eq_error_iff hnames).1 herr
  obtain ⟨k, hk, hstops⟩ := hrefuses.exists_lineStopsAt
  have hinside := hstops.le_length
  have hnumber : e.line = above.length + 1 := by rw [he]
  have hcolumn : e.column = k + 1 := by rw [he, hk]
  have hindex : (e.line - 1).toNat = above.length := by omega
  have hline : (Text.lines document)[(e.line - 1).toNat]? = some line := by
    rw [hindex, hlines, List.getElem?_append_right le_rfl, Nat.sub_self, List.getElem?_cons_zero]
  exact ⟨line, by omega, hline, by omega, by omega⟩

end LineMacro
