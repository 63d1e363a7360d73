import LineMacro.Proofs.Definition.Written
import LineMacro.Proofs.Document.Append
/-!
# Documents — seeded macros spelled out

A seeded macro can be written as a definition line, and if its body is one that
can be read back off a line (`Spellable`), it makes no difference whether it is
seeded or such a line stands above the document (`run_spelledOut`). The lines
define what seeding would have installed, in the same order, and give no output.
Only numbers can tell: those of the macros, and those of the lines below, which
are as many further down as there are lines for seeded macros.
-/

namespace LineMacro

/-- A name with a body that can be read back off the line that defines it. -/
structure Spellable (d : Text × Text) : Prop where
  isName : isName d.1 = true
  oneLine : '\n' ∉ d.2
  /-- The body ends in nothing that would be dropped at the end of a line. -/
  noReturn : d.2.getLast? ≠ some '\r'
  noBackslash : d.2.getLast? ≠ some '\\'

/-- The lines that define the seeded macros. -/
def seedLines (definitions : List (Text × Text)) : List Text :=
  definitions.map fun d => (Macro.ofSeed d).definition

/-- The document below the lines that define the seeded macros. -/
def spelledOut (definitions : List (Text × Text)) (document : Text) : Text :=
  (seedLines definitions).foldr (fun line below => line ++ '\n' :: below) document

variable {document : Text} {predeclared : List Text} {definitions : List (Text × Text)}
variable {d : Text × Text} {n : Int}

/-! ## The lines -/

/-- What a seeded macro is written as is its name with its body. -/
theorem definition_ofSeed (d : Text × Text) :
    (Macro.ofSeed d).definition = Definition.keyword ++ ' ' :: (d.1 ++ ' ' :: d.2) := rfl

theorem Spellable.writable (h : Spellable d) : (Macro.ofSeed d).Writable where
  isName := h.isName
  notBlank := (List.cons_ne_nil [] []).symm
  parameter := nofun
  noReturn := h.noReturn
  noBackslash := h.noBackslash

theorem Spellable.macro?_eq (h : Spellable d) (n : Int) :
    Definition.macro? (Macro.ofSeed d).definition n = some { Macro.ofSeed d with line := n } :=
  Definition.macro?_eq_some_iff.2 ⟨Definition.isDefinition_definition _,
    Definition.read_definition h.writable n⟩

theorem Spellable.not_mem_definition (h : Spellable d) : '\n' ∉ (Macro.ofSeed d).definition := by
  have hname : '\n' ∉ d.1 := not_mem_of_isName h.isName (by decide)
  have hkey : '\n' ∉ Definition.keyword := by decide
  rw [definition_ofSeed]
  simp [hkey, hname, h.oneLine]

theorem lines_spelledOut (h : ∀ d ∈ definitions, Spellable d) (document : Text) :
    Text.lines (spelledOut definitions document) =
      seedLines definitions ++ Text.lines document := by
  induction definitions with
  | nil => rfl
  | cons d definitions ih =>
    have hline := Text.lines_of_not_mem (h d List.mem_cons_self).not_mem_definition
    have hbelow := ih fun d' hd' => h d' (List.mem_cons_of_mem d hd')
    rw [spelledOut, seedLines, List.map_cons, List.foldr_cons, Text.lines_append, hline]
    exact congrArg _ hbelow

/-- The lines define the seeded macros. -/
theorem macros_seedLines (h : ∀ d ∈ definitions, Spellable d) (n : Int) :
    (Definition.macros n (seedLines definitions)).map Macro.unnumbered =
      definitions.map Macro.ofSeed := by
  induction definitions generalizing n with
  | nil => rfl
  | cons d definitions ih =>
    have hbelow := ih (fun d' hd' => h d' (List.mem_cons_of_mem d hd')) (n + 1)
    rw [seedLines, List.map_cons, Definition.macros, (h d List.mem_cons_self).macro?_eq,
      List.map_append, List.map_cons]
    exact congrArg (Macro.ofSeed d :: ·) hbelow

/-- They are all handled, and give no output. -/
theorem processLines_seedLines (h : ∀ d ∈ definitions, Spellable d) (tbl : Table) (n : Int) :
    (tbl.processLines n (seedLines definitions)).result = .ok [] := by
  induction definitions generalizing tbl n with
  | nil => rfl
  | cons d definitions ih =>
    have hline := (h d List.mem_cons_self).macro?_eq n
    have hbelow := ih fun d' hd' => h d' (List.mem_cons_of_mem d hd')
    rw [seedLines, List.map_cons, Table.processLines_cons_of_macro? hline]
    exact hbelow _ _

/-! ## Where the documents start -/

/-- **The lines leave what seeding leaves**, but for the numbers. -/
theorem unnumbered_processLines_seedLines (h : ∀ d ∈ definitions, Spellable d)
    (predeclared : List Text) (n : Int) :
    (({ predeclared } : Table).processLines n (seedLines definitions)).table.unnumbered =
      (seeded predeclared definitions).table.unnumbered := by
  have hnil : ({ predeclared } : Table).unnumbered = { predeclared } := rfl
  have hseeds : ∀ l : List (Text × Text),
      (l.map Macro.ofSeed).map Macro.unnumbered = l.map Macro.ofSeed := fun l => by
    rw [List.map_map]
    rfl
  rw [Table.processLines_table (processLines_seedLines h _ n),
    (seeded_of_isName fun d hd => (h d hd).isName).2, Table.unnumbered_defineAll,
    Table.unnumbered_defineAll, macros_seedLines h, hseeds, hnil]
  -- putting elements in place once more leaves them as they are
  have hofSeed : ∀ d : Text × Text, (Macro.ofSeed d).name = d.1 := fun _ => rfl
  refine Table.ext ?_ (by rw [Table.defineAll_predeclared, Table.defineAll_predeclared])
  rw [Table.defineAll_entries, Table.defineAll_entries, Keyed.map_ofList hofSeed]
  exact (Keyed.ofList_of_nodup (Keyed.nodup_ofList _)).symm

/-- A run of the document with the lines above it comes, below them, from a table
like the seeded one. -/
theorem run_spelledOut_eq (h : ∀ d ∈ definitions, Spellable d) (document : Text)
    (predeclared : List Text) :
    ∃ tbl : Table, tbl.unnumbered = (seeded predeclared definitions).table.unnumbered ∧
      (run (spelledOut definitions document) predeclared []).result =
          (tbl.processLines (1 + definitions.length) (Text.lines document)).result.map
            Text.joinLines ∧
        (run (spelledOut definitions document) predeclared []).table =
          (tbl.processLines (1 + definitions.length) (Text.lines document)).table := by
  have hnames : ∀ d ∈ ([] : List (Text × Text)), isName d.1 = true := by simp
  have hseeded : (seeded predeclared []).table = { predeclared } := rfl
  have hlength : (seedLines definitions).length = definitions.length := List.length_map _
  have habove := processLines_seedLines h { predeclared } 1
  refine ⟨_, unnumbered_processLines_seedLines h predeclared 1, ?_, ?_⟩
  · rw [run_result hnames, hseeded, lines_spelledOut h, Table.processLines_append habove, hlength,
      Outcome.preceded_nil_result]
  · rw [run_table hnames, hseeded, lines_spelledOut h, Table.processLines_append habove, hlength]
    rfl

/-- **Seeding is writing above.** If the seeded macros can be spelled out, a run
that starts from them comes to the same as a run of the document that has them
written above it, one definition line each and in the same order. Both give the
same output, or both fail for the same cause and in the same column, the one as
many lines further down as there are seeded macros. Either way they leave the
same macros in the same order. -/
theorem run_spelledOut (document : Text) (predeclared : List Text)
    (definitions : List (Text × Text)) (h : ∀ d ∈ definitions, Spellable d) :
    let o := run document predeclared definitions
    let o' := run (spelledOut definitions document) predeclared []
    o'.result = o.result.mapError (Failure.movedDown definitions.length) ∧
      o'.table.unnumbered = o.table.unnumbered := by
  have hnames : ∀ d ∈ definitions, isName d.1 = true := fun d hd => (h d hd).isName
  obtain ⟨tbl, htbl, hresult, htable⟩ := run_spelledOut_eq h document predeclared
  have hmoved : (1 + definitions.length : Int) - 1 = (definitions.length : Int) := by omega
  intro o o'
  constructor
  · rw [hresult, run_result hnames,
      (Table.SameMacros.of_unnumbered_eq htbl.symm).processLines_result 1, hmoved]
    cases ((seeded predeclared definitions).table.processLines 1 (Text.lines document)).result <;>
      rfl
  · rw [htable, run_table hnames]
    exact Table.unnumbered_processLines htbl _ 1 _

/-- A name is seeded twice, with an empty body and with one that starts with a
space and a parenthesis, and another name is predeclared as well. The third line
fails, which is the sixth below the definitions. -/
theorem run_spelledOut_parenthesis :
    let document := "k p\n#define f(x) <x k>\nf(1) f(".toList
    let definitions := [("k".toList, []), ("p".toList, "v".toList), ("k".toList, " (x) y".toList)]
    let e : Failure := { line := 3, column := 6, fault := .unclosedArguments ['f'] }
    (∀ d ∈ definitions, Spellable d) ∧
      spelledOut definitions document =
        "#define k \n#define p v\n#define k  (x) y\nk p\n#define f(x) <x k>\nf(1) f(".toList ∧
        (run document [['p']] definitions).result = .error e ∧
          (run (spelledOut definitions document) [['p']] []).result =
            .error (e.movedDown definitions.length) := by
  have hspellable : ∀ d ∈ [("k".toList, []), ("p".toList, "v".toList),
      ("k".toList, " (x) y".toList)], Spellable d := by
    intro d hd
    simp only [List.mem_cons, List.not_mem_nil, or_false] at hd
    rcases hd with rfl | rfl | rfl <;> exact ⟨by decide, by decide, by decide, by decide⟩
  have herr : (run "k p\n#define f(x) <x k>\nf(1) f(".toList [['p']]
      [("k".toList, []), ("p".toList, "v".toList), ("k".toList, " (x) y".toList)]).result =
        .error { line := 3, column := 6, fault := .unclosedArguments ['f'] } := by decide +kernel
  have hsame := (run_spelledOut "k p\n#define f(x) <x k>\nf(1) f(".toList [['p']] _ hspellable).1
  refine ⟨hspellable, by decide +kernel, herr, ?_⟩
  rw [hsame, herr]
  rfl

end LineMacro
