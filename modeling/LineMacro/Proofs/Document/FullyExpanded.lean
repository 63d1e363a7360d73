import LineMacro.Proofs.Document.Session
import LineMacro.Proofs.Expansion.Inert
/-!
# Documents — nothing left to expand

A document without definitions, in whose lines no macro is used, is given back as
it is, and the table stays as it is too (`process_eq_of_fullyExpanded`). Its
lines are put together where they were taken apart, so this holds of empty lines and
of line feeds at the end as well. If the output of a document is of this kind under the
table which that document leaves, it can be processed any number of times and
comes out the same (`process_of_fullyExpanded`).
-/

namespace LineMacro

variable {tbl : Table} {document line : Text} {lines : List Text}

namespace Table

/-- No line of the document is a definition, and none uses a macro. -/
def FullyExpanded (tbl : Table) (document : Text) : Prop :=
  ∀ line ∈ Text.lines document, Definition.isDefinition line = false ∧ tbl.Inert line

instance (tbl : Table) (document : Text) : Decidable (tbl.FullyExpanded document) :=
  inferInstanceAs (Decidable (∀ line ∈ Text.lines document, _ ∧ _))

/-! ## Once -/

theorem processLine_of_inert (hdef : Definition.isDefinition line = false) (h : tbl.Inert line)
    (n : Int) : tbl.processLine line n = ⟨.ok (some line), tbl, []⟩ := by
  have hexp : tbl.expand line = .ok line := expandInside_of_inert h 0
  rw [processLine, hdef, hexp]
  rfl

/-- Lines that use nothing are their own outputs. -/
theorem processLines_of_inert
    (h : ∀ line ∈ lines, Definition.isDefinition line = false ∧ tbl.Inert line) (n : Int) :
    tbl.processLines n lines = ⟨.ok lines, tbl, []⟩ := by
  induction lines generalizing n with
  | nil => rfl
  | cons line lines ih =>
    obtain ⟨⟨hdef, hinert⟩, hrest⟩ := List.forall_mem_cons.1 h
    have hline := processLine_of_inert hdef hinert n
    rw [processLines_cons_of_ok (congrArg Outcome.result hline), hline, ih hrest]
    rfl

/-- **A document with nothing left to expand stays**, and so does the table. Nothing is
recorded. -/
theorem process_eq_of_fullyExpanded (h : tbl.FullyExpanded document) :
    tbl.process document = ⟨.ok document, tbl, []⟩ := by
  rw [process, processLines_of_inert h 1]
  exact congrArg (fun t => (⟨.ok t, tbl, []⟩ : Outcome Text)) (Text.joinLines_lines document)

end Table

/-! ## Any number of times -/

theorem session_replicate_of_fullyExpanded (h : tbl.FullyExpanded document) (n : Nat) :
    (session tbl (List.replicate n (.document document))).map Outcome.result =
        List.replicate n (.ok (some document)) ∧
      tbl.after (List.replicate n (.document document)) = tbl := by
  have hstep : Step.process tbl (.document document) = ⟨.ok (some document), tbl, []⟩ := by
    rw [Step.process, Table.process_eq_of_fullyExpanded h]
    rfl
  induction n with
  | zero => exact ⟨rfl, rfl⟩
  | succ n ih =>
    obtain ⟨hresults, hafter⟩ := ih
    rw [List.replicate_succ, session, Table.after, hstep, List.map_cons, hresults,
      ← List.replicate_succ]
    exact ⟨rfl, hafter⟩

/-- **Fully expanded documents are fixed points**, whatever the table. A document
that holds no definition, and in which no macro is used, gives itself, and leaves the
table as it is. So if a document is processed and its output is of this kind
under the table that is left, the output may be processed again and again: each
time it comes out unchanged, and the table is still the same. -/
theorem process_of_fullyExpanded (tbl : Table) (document : Text) :
    (tbl.FullyExpanded document → tbl.process document = ⟨.ok document, tbl, []⟩) ∧
    ∀ out, (tbl.process document).result = .ok out →
      (tbl.process document).table.FullyExpanded out →
        ∀ n : Nat,
          (session tbl (.document document :: List.replicate n (.document out))).map
              Outcome.result = List.replicate (n + 1) (.ok (some out)) ∧
            tbl.after (.document document :: List.replicate n (.document out)) =
              (tbl.process document).table := by
  refine ⟨Table.process_eq_of_fullyExpanded, fun out hout h n => ?_⟩
  obtain ⟨hresults, hafter⟩ := session_replicate_of_fullyExpanded h n
  have hfirst : (Step.process tbl (.document document)).result = .ok (some out) := by
    rw [Step.process, hout]
    rfl
  refine ⟨?_, hafter⟩
  rw [session, List.map_cons, hfirst, List.replicate_succ]
  exact congrArg (_ :: ·) hresults

/-- The output holds a predeclared name, a macro with parameters that is named at the end of
its line, and parentheses that do not match. It ends in an empty line. -/
theorem process_of_fullyExpanded_bare :
    let tbl : Table := { entries := [{ name := ['k'], body := ['v'] }], predeclared := [['p']] }
    let document := "#define f(x) )x(\n#define p w\np f(k) k\n\n(f\n".toList
    let out := "p )v( v\n\n(f\n".toList
    (tbl.process document).result = .ok out ∧ (tbl.process document).table.FullyExpanded out ∧
      (tbl.process document).table.process out = ⟨.ok out, (tbl.process document).table, []⟩ ∧
        (session tbl [.document document, .document out, .document out]).map Outcome.result =
            [.ok (some out), .ok (some out), .ok (some out)] ∧
          tbl.after [.document document, .document out, .document out] =
            (tbl.process document).table := by
  have hout : (({ entries := [{ name := ['k'], body := ['v'] }], predeclared := [['p']] } :
      Table).process "#define f(x) )x(\n#define p w\np f(k) k\n\n(f\n".toList).result =
        .ok "p )v( v\n\n(f\n".toList := by decide +kernel
  have htable : (({ entries := [{ name := ['k'], body := ['v'] }], predeclared := [['p']] } :
      Table).process "#define f(x) )x(\n#define p w\np f(k) k\n\n(f\n".toList).table =
        { entries := [{ name := ['k'], body := ['v'] },
            { name := ['f'], parameters := [['x']], body := ")x(".toList, line := 1 },
            { name := ['p'], body := ['w'], line := 2 }],
          predeclared := [['p']] } := by decide +kernel
  have hexpanded : (({ entries := [{ name := ['k'], body := ['v'] }], predeclared := [['p']] } :
      Table).process "#define f(x) )x(\n#define p w\np f(k) k\n\n(f\n".toList).table.FullyExpanded
        "p )v( v\n\n(f\n".toList := by
    rw [htable]
    decide
  obtain ⟨-, hagain⟩ := process_of_fullyExpanded _ _
  obtain ⟨hresults, hafter⟩ := hagain _ hout hexpanded 2
  exact ⟨hout, hexpanded, (process_of_fullyExpanded _ _).1 hexpanded, hresults, hafter⟩

end LineMacro
