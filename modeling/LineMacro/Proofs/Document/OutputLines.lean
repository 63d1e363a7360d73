import LineMacro.Proofs.Definition.Characters
import LineMacro.Proofs.Document.Failure
import LineMacro.Proofs.Document.LastDefinition
import LineMacro.Proofs.Document.Outputs
import LineMacro.Proofs.Expansion.Characters
/-!
# Documents — the lines of an output

The output of a run has one line for each line that is no definition, and each
is the expansion of its own (`lines_run`). What this needs is that no line feed
comes out of an expansion, so that the joined outputs are cut where they were
joined. Expansions make up no characters, and the macros of a run hold no line
feed: seeded bodies have none, and what is read off a line has only characters
of the line (`of_mem_processAbove`).
-/

namespace LineMacro

/-- A macro with a valid name that holds no line feed. -/
structure Macro.OneLine (m : Macro) : Prop where
  isName : isName m.name = true
  name : '\n' ∉ m.name
  parameters : ∀ p ∈ m.parameters, '\n' ∉ p
  body : '\n' ∉ m.body

variable {document line : Text} {predeclared : List Text} {definitions : List (Text × Text)}
variable {lines : List Text} {m : Macro} {n : Int}

/-! ## The macros of a run -/

namespace Macro

theorem OneLine.of_seed {d : Text × Text} (hname : LineMacro.isName d.1 = true)
    (hbody : '\n' ∉ d.2) : (ofSeed d).OneLine where
  isName := hname
  name := not_mem_of_isName hname (by decide)
  parameters := by simp [ofSeed]
  body := hbody

theorem OneLine.of_read (h : Definition.read line n = .ok m) (hline : '\n' ∉ line) :
    m.OneLine := by
  obtain ⟨hname, -, -, hparameters, hbody⟩ := Definition.read_eq_ok h
  exact ⟨hname, not_mem_of_isName hname (by decide), fun p hp hmem => hline (hparameters p hp hmem),
    fun hmem => hline (hbody hmem)⟩

end Macro

namespace Definition

/-- Each macro that lines define is that of one of them. -/
theorem exists_of_mem_macros (h : m ∈ macros n lines) :
    ∃ (j : Nat) (line : Text), lines[j]? = some line ∧ macro? line (n + j) = some m := by
  induction lines generalizing n with
  | nil => exact absurd h List.not_mem_nil
  | cons first lines ih =>
    rw [macros, List.mem_append] at h
    rcases h with h | h
    · refine ⟨0, first, rfl, ?_⟩
      have hn : n + ((0 : Nat) : Int) = n := Int.add_zero n
      rw [hn]
      exact Option.mem_toList.1 h
    · obtain ⟨j, line, hj, hm⟩ := ih h
      refine ⟨j + 1, line, hj, ?_⟩
      have hn : n + ((j + 1 : Nat) : Int) = n + 1 + j := by
        push_cast
        omega
      rw [hn]
      exact hm

end Definition

/-- A table of a run is made of seeded macros and of those that its lines
define. -/
theorem exists_processAbove_table (predeclared : List Text) (definitions : List (Text × Text))
    (lines : List Text) :
    ∃ (seeds : List (Text × Text)) (above : List Text),
      (∀ d ∈ seeds, d ∈ definitions ∧ isName d.1 = true) ∧ above <+: lines ∧
        (processAbove predeclared definitions lines).table = ({ predeclared } : Table).defineAll
          (seeds.map Macro.ofSeed ++ Definition.macros 1 above) := by
  obtain ⟨seeds, rest, hseeds, hnames, hseeded, -⟩ :=
    Table.exists_seed_table { predeclared } (Keyed.ofList Prod.fst definitions)
  refine ⟨seeds, _, fun d hd => ⟨?_, hnames d hd⟩,
    Table.handledLines_isPrefix 1 lines (processAbove predeclared definitions lines).result, ?_⟩
  · exact Keyed.mem_ofList (hseeds ▸ List.mem_append_left rest hd)
  · rw [Table.defineAll_append, ← hseeded]
    exact Table.processLines_table_eq _ 1 lines

/-- **What the table of a run holds.** Each macro is the one of its name, holds
no line feed, and was seeded or read off a definition line of the document. -/
theorem of_mem_processAbove (hbodies : ∀ d ∈ definitions, '\n' ∉ d.2)
    (hlines : ∀ line ∈ lines, '\n' ∉ line)
    (hm : m ∈ (processAbove predeclared definitions lines).table.entries) :
    (processAbove predeclared definitions lines).table.find? m.name = some m ∧ m.OneLine ∧
      (m.line = 0 ∨ ∃ (j : Nat) (line : Text), m.line = j + 1 ∧ lines[j]? = some line ∧
        Definition.isDefinition line = true ∧ Definition.read line m.line = .ok m) := by
  obtain ⟨seeds, above, hseeds, ⟨below, rfl⟩, htable⟩ :=
    exists_processAbove_table predeclared definitions lines
  rw [htable] at hm ⊢
  refine ⟨Keyed.find?_of_mem (Table.nodup_defineAll_empty predeclared _) hm, ?_⟩
  rcases List.mem_append.1 ((Table.mem_defineAll hm).resolve_left List.not_mem_nil) with h | h
  · obtain ⟨d, hd, rfl⟩ := List.mem_map.1 h
    exact ⟨.of_seed (hseeds d hd).2 (hbodies d (hseeds d hd).1), Or.inl rfl⟩
  · obtain ⟨j, line, hj, hmacro⟩ := Definition.exists_of_mem_macros h
    obtain ⟨hdef, hread⟩ := Definition.macro?_eq_some_iff.1 hmacro
    have hj' : (above ++ below)[j]? = some line := by
      rw [List.getElem?_append_left (List.getElem?_eq_some_iff.1 hj).1]
      exact hj
    have hnumber : m.line = 1 + j := (Definition.read_eq_ok hread).2.1
    refine ⟨.of_read hread (hlines line (List.mem_of_getElem? hj')), Or.inr ⟨j, line, ?_, hj',
      hdef, ?_⟩⟩
    · rw [hnumber, Int.add_comm]
    · rw [hnumber]
      exact hread

/-! ## The outputs of a run -/

/-- Without line feeds in the line and in the macros there is none in the
expansion. -/
theorem not_mem_of_expand {tbl : Table} {out : Text} (h : tbl.expand line = .ok out)
    (hline : '\n' ∉ line) (hmacros : ∀ m ∈ tbl.entries, '\n' ∉ m.body) : '\n' ∉ out := by
  intro hout
  rcases Table.mem_of_expandInside_eq_ok h hout with hmem | ⟨w, m, -, hm, hmem⟩
  · exact hline hmem
  · exact hmacros m (Table.mem_of_lookup hm) hmem

theorem not_mem_of_mem_outputs {first : List Text} {out : Text}
    (hbodies : ∀ d ∈ definitions, '\n' ∉ d.2)
    (h : (processAbove predeclared definitions (Text.lines document)).result = .ok first)
    (hout : out ∈ first) : '\n' ∉ out := by
  obtain ⟨above, line, below, hlines, -, hexp⟩ := Table.exists_of_mem_of_processLines_eq_ok h hout
  have hfree : ∀ l ∈ above ++ line :: below, '\n' ∉ l :=
    fun l hl => Text.not_mem_of_mem_lines (hlines ▸ hl)
  refine not_mem_of_expand hexp (hfree line (by simp)) fun m hm => ?_
  exact (of_mem_processAbove hbodies (fun l hl => hfree l (by simp [hl])) hm).2.1.body

/-- **The output of a run, line by line.** -/
theorem lines_of_run_eq_ok (hbodies : ∀ d ∈ definitions, '\n' ∉ d.2) {out : Text}
    (h : (run document predeclared definitions).result = .ok out) :
    (Text.lines out).length = max 1 (Definition.textLines (Text.lines document)).length ∧
      ∀ above line below, Text.lines document = above ++ line :: below →
        Definition.isDefinition line = false →
          ∃ o, (processAbove predeclared definitions above).table.expand line = .ok o ∧
            (Text.lines out)[(Definition.textLines above).length]? = some o := by
  rw [run_result (isName_of_run_eq_ok h), Failure.map_eq_ok_iff] at h
  obtain ⟨first, hfirst, rfl⟩ := h
  have hlength := Table.length_of_processLines_eq_ok hfirst
  have hcut : first ≠ [] → Text.lines (Text.joinLines first) = first :=
    Text.lines_joinLines fun o ho => not_mem_of_mem_outputs hbodies hfirst ho
  constructor
  · by_cases hnil : first = []
    · -- no output at all reads as one empty line
      subst hnil
      rw [← hlength]
      rfl
    · rw [hcut hnil, ← hlength]
      have hpos := List.length_pos_iff.2 hnil
      omega
  · intro above line below hlines hdef
    rw [hlines] at hfirst
    obtain ⟨o, hexp, ho⟩ := Table.getElem?_of_processLines_eq_ok hfirst hdef
    refine ⟨o, hexp, ?_⟩
    rw [hcut (List.ne_nil_of_mem (List.mem_of_getElem? ho))]
    exact ho

/-- **The line structure is kept.** If no seeded body holds a line feed, the
output of a run has as many lines as the document has that are no definitions,
though never less than one, and each of them is the expansion of its own under
the table that the lines above that one left. However many lines have been
processed, and also if one of them has failed, each macro of the table is the
one of its name, which is valid, holds no line feed, and was seeded or read off
the line whose number it carries. -/
theorem lines_run (predeclared : List Text) (definitions : List (Text × Text))
    (hbodies : ∀ d ∈ definitions, '\n' ∉ d.2) (document : Text) :
    (∀ out, (run document predeclared definitions).result = .ok out →
      (Text.lines out).length = max 1 (Definition.textLines (Text.lines document)).length ∧
        ∀ above line below, Text.lines document = above ++ line :: below →
          Definition.isDefinition line = false →
            ∃ o, (processAbove predeclared definitions above).table.expand line = .ok o ∧
              (Text.lines out)[(Definition.textLines above).length]? = some o) ∧
    ∀ (k : Nat) (m : Macro),
      let tbl := (processAbove predeclared definitions ((Text.lines document).take k)).table
      m ∈ tbl.entries → tbl.find? m.name = some m ∧ m.OneLine ∧
        (m.line = 0 ∨ ∃ (j : Nat) (line : Text), j < k ∧ m.line = j + 1 ∧
          (Text.lines document)[j]? = some line ∧ Definition.isDefinition line = true ∧
            Definition.read line m.line = .ok m) := by
  refine ⟨fun out hout => lines_of_run_eq_ok hbodies hout, ?_⟩
  intro k m tbl hm
  have hlines : ∀ line ∈ (Text.lines document).take k, '\n' ∉ line :=
    fun line hline => Text.not_mem_of_mem_lines (List.mem_of_mem_take hline)
  obtain ⟨hfind, hone, horigin⟩ := of_mem_processAbove hbodies hlines hm
  refine ⟨hfind, hone, horigin.imp_right ?_⟩
  rintro ⟨j, line, hnumber, hj, hdef, hread⟩
  rw [List.getElem?_take] at hj
  split at hj
  · rename_i hlt
    exact ⟨j, line, hlt, hnumber, hj, hdef, hread⟩
  · cases hj

/-- The first of three lines of output is empty, and the last is expanded under
a table in which the seeded macro has been defined anew. -/
theorem lines_run_redefined :
    let document := "#define f(x) <x>\n\nf(k) p\n#define k u\nf(p k)".toList
    let definitions := [("k".toList, "v w".toList)]
    let out := "\n<v w> p\n<p u>".toList
    let above := ["#define f(x) <x>".toList, [], "f(k) p".toList, "#define k u".toList]
    (∀ d ∈ definitions, '\n' ∉ d.2) ∧ (run document [['p']] definitions).result = .ok out ∧
      (Text.lines out).length = max 1 (Definition.textLines (Text.lines document)).length ∧
        ∃ o, (processAbove [['p']] definitions above).table.expand "f(p k)".toList = .ok o ∧
          (Text.lines out)[(Definition.textLines above).length]? = some o := by
  have hbodies : ∀ d ∈ [("k".toList, "v w".toList)], '\n' ∉ d.2 := by decide
  have hok : (run "#define f(x) <x>\n\nf(k) p\n#define k u\nf(p k)".toList [['p']]
      [("k".toList, "v w".toList)]).result = .ok "\n<v w> p\n<p u>".toList := by decide +kernel
  obtain ⟨houtput, -⟩ := lines_run [['p']] _ hbodies
    "#define f(x) <x>\n\nf(k) p\n#define k u\nf(p k)".toList
  obtain ⟨hlength, hline⟩ := houtput _ hok
  exact ⟨hbodies, hok, hlength, hline _ "f(p k)".toList [] (by decide +kernel) (by decide +kernel)⟩

end LineMacro
