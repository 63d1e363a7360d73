import LineMacro.Proofs.Document.Seeds
/-!
# Documents — where a run fails

A run that starts from valid names fails at one line of the document, the first
that cannot be handled, and its failure points into that line
(`exists_firstFailure`). A definition line is reported where reading it stops.
Any other line is reported where its expansion stops, which is at a call of the
line itself and never at a place counted inside an argument.
-/

namespace LineMacro

variable {document : Text} {predeclared : List Text} {definitions : List (Text × Text)}
variable {e : Failure}

/-- What the first lines of a document give and leave in a run. -/
def processAbove (predeclared : List Text) (definitions : List (Text × Text))
    (above : List Text) : Outcome (List Text) :=
  (seeded predeclared definitions).table.processLines 1 above

/-- Why a line cannot be handled under the table, and after how many of its
characters. -/
inductive Table.LineStopsAt (tbl : Table) (line : Text) (k : Nat) (f : Fault) : Prop
  /-- It is a definition line, and reading it stops there. -/
  | definition :
      Definition.isDefinition line = true → Definition.StopsAt line k f → LineStopsAt tbl line k f
  /-- It is any other line, and its expansion stops there. -/
  | text : Definition.isDefinition line = false → tbl.StopsAt line k f → LineStopsAt tbl line k f

/-- The run of the document fails at a line of it, with the lines above and
below. -/
structure FirstFailure (document : Text) (predeclared : List Text)
    (definitions : List (Text × Text)) (e : Failure) (above : List Text) (line : Text)
    (below : List Text) : Prop where
  lines : Text.lines document = above ++ line :: below
  /-- The lines above are handled. -/
  handled : ∃ outs, (processAbove predeclared definitions above).result = .ok outs
  /-- The line itself fails, under the table that they leave. -/
  fails : ((processAbove predeclared definitions above).table.processLine line
    (above.length + 1)).result = .error e
  /-- The failure has the number of the line. -/
  number : e.line = above.length + 1
  /-- It has the column at which handling the line stops. -/
  stops : ∃ k : Nat, e.column = k + 1 ∧
    (processAbove predeclared definitions above).table.LineStopsAt line k e.fault

namespace Table

variable {tbl : Table} {n : Int} {line : Text} {k : Nat} {f : Fault}

theorem LineStopsAt.le_length (h : tbl.LineStopsAt line k f) : k ≤ line.length := by
  cases h with
  | definition _ hstops => exact hstops.le_length
  | text _ hstops => exact Nat.le_of_lt hstops.lt_length

/-- A failure of a line is placed in it. -/
theorem Refuses.exists_lineStopsAt (h : tbl.Refuses n line e) :
    ∃ k : Nat, e.column = k + 1 ∧ tbl.LineStopsAt line k e.fault := by
  cases h with
  | definition hdef hread =>
    obtain ⟨k, hstops, -, hcolumn⟩ := Definition.exists_stopsAt_of_error hdef hread
    exact ⟨k, hcolumn, .definition hdef hstops⟩
  | text hdef hexp =>
    obtain ⟨k, hstops, -, hcolumn⟩ := exists_stopsAt_of_error hexp
    exact ⟨k, hcolumn, .text hdef hstops⟩

end Table

/-- **The place of a failure is exact.** Its line is the first that cannot be
handled, and its column is where handling that line stops: a place in the line
or just behind it. -/
theorem exists_firstFailure (hnames : ∀ d ∈ definitions, isName d.1 = true)
    (herr : (run document predeclared definitions).result = .error e) :
    ∃ above line below, FirstFailure document predeclared definitions e above line below ∧
      1 ≤ e.line ∧ e.line ≤ (Text.lines document).length ∧
        1 ≤ e.column ∧ e.column ≤ line.length + 1 := by
  -- seeding does not fail and joining the lines does not either
  rw [run_result hnames, Failure.map_eq_error_iff] at herr
  obtain ⟨above, line, below, outs, hlines, habove, hline⟩ :=
    Table.exists_of_processLines_eq_error herr
  rw [Int.add_comm] at hline
  obtain ⟨e', hrefuses, rfl⟩ := Table.refuses_of_processLine_eq_error hline
  obtain ⟨k, hcolumn, hstops⟩ := hrefuses.exists_lineStopsAt
  have hk := hstops.le_length
  have hlength : (Text.lines document).length = above.length + (below.length + 1) := by
    rw [hlines, List.length_append, List.length_cons]
  refine ⟨above, line, below, ⟨hlines, ⟨outs, habove⟩, hline, rfl, k, hcolumn, hstops⟩, ?_⟩
  dsimp only
  omega

/-- The outer call on the third line is not closed, and is reported where it
starts: the call inside its arguments is closed, and so are those above. -/
theorem exists_firstFailure_openCall :
    let document := "#define f(x) [x]\nf(p, k) f(f(1))\nk g f(f(2)".toList
    let definitions := [("k".toList, "v".toList)]
    let e : Failure := { line := 3, column := 5, fault := .unclosedArguments ['f'] }
    (∀ d ∈ definitions, isName d.1 = true) ∧
      (run document [['p']] definitions).result = .error e ∧
        ∃ above line below, FirstFailure document [['p']] definitions e above line below ∧
          1 ≤ e.line ∧ e.line ≤ (Text.lines document).length ∧
            1 ≤ e.column ∧ e.column ≤ line.length + 1 := by
  have hnames : ∀ d ∈ [("k".toList, "v".toList)], isName d.1 = true := by decide
  have herr : (run "#define f(x) [x]\nf(p, k) f(f(1))\nk g f(f(2)".toList [['p']]
      [("k".toList, "v".toList)]).result =
        .error { line := 3, column := 5, fault := .unclosedArguments ['f'] } := by decide +kernel
  exact ⟨hnames, herr, exists_firstFailure hnames herr⟩

end LineMacro
