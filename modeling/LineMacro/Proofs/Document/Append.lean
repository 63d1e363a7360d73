import LineMacro.Proofs.Document.Outputs
import LineMacro.Proofs.Document.SameMacros
/-!
# Documents — one below the other

Two documents, one below the other, are processed as the first is, and then the
second from the table that the first has left (`process_append`). Only the
numbers of lines can tell: those of the second start anew if it is processed by
itself. What is counted from further up is the same otherwise, be it macros
(`macros_add`), failures (`processLines_add`) or tables (`find?_defineAll_movedDown`).
-/

namespace LineMacro

/-- The failure that many lines further down. -/
def Failure.movedDown (k : Nat) (e : Failure) : Failure := { e with line := e.line + k }

/-- The macro that many lines further down. -/
def Macro.movedDown (k : Nat) (m : Macro) : Macro := { m with line := m.line + k }

/-- The output of two documents, one below the other, from theirs. A document of
nothing but definitions has no line of output. -/
def joinOutputs (document document' : Text) (out out' : Text) : Text :=
  if Definition.textLines (Text.lines document) = [] then
    if Definition.textLines (Text.lines document') = [] then [] else out'
  else
    if Definition.textLines (Text.lines document') = [] then out else out ++ '\n' :: out'

namespace Definition

/-- What a line defines carries its number. -/
theorem macro?_add (line : Text) (n : Int) (k : Nat) :
    macro? line (n + k) = (macro? line n).map (Macro.movedDown k) := by
  cases hm : macro? line n with
  | none => exact macro?_eq_none_at hm (n + k)
  | some m =>
    have hline : m.line = n :=
      congrArg Macro.line (Option.some.inj (hm.symm.trans (macro?_at hm n)))
    rw [macro?_at hm (n + k), ← hline]
    rfl

theorem macros_add (n : Int) (k : Nat) (lines : List Text) :
    macros (n + k) lines = (macros n lines).map (Macro.movedDown k) := by
  induction lines generalizing n with
  | nil => rfl
  | cons line lines ih =>
    have hn : n + k + 1 = n + 1 + k := by omega
    rw [macros, macros, macro?_add, hn, ih, List.map_append]
    cases macro? line n <;> rfl

end Definition

namespace Table

variable {tbl : Table} {document document' out : Text}

/-! ## Numbers counted from further up -/

/-- **Lines do the same further down**, but for the number of the line that
fails. -/
theorem processLines_add (tbl : Table) (n : Int) (k : Nat) (lines : List Text) :
    (tbl.processLines (n + k) lines).result =
      (tbl.processLines n lines).result.mapError (Failure.movedDown k) := by
  have hmoved : n + k - n = (k : Int) := by omega
  rw [(SameMacros.refl tbl).processLines_result n (n + k), hmoved]
  rfl

/-- **So they leave the same table**, but for the numbers of the macros that
they define. -/
theorem processLines_add_table (tbl : Table) (n : Int) (k : Nat) (lines : List Text) :
    (tbl.processLines (n + k) lines).table =
      tbl.defineAll ((Definition.macros n
        (handledLines n lines (tbl.processLines n lines).result)).map (Macro.movedDown k)) := by
  rw [(SameMacros.refl tbl).processLines_table n (n + k), Definition.macros_add]

/-! ## Tables with macros from further down -/

/-- Every name has the same parameters and body, in the same place. -/
theorem entries_defineAll_movedDown (tbl : Table) (ms : List Macro) (k : Nat) :
    (tbl.defineAll (ms.map (Macro.movedDown k))).entries.map Macro.unnumbered =
      (tbl.defineAll ms).entries.map Macro.unnumbered := by
  have hmoved : Macro.unnumbered ∘ Macro.movedDown k = Macro.unnumbered := rfl
  refine congrArg Table.entries (?_ : (tbl.defineAll _).unnumbered = (tbl.defineAll ms).unnumbered)
  rw [unnumbered_defineAll, unnumbered_defineAll, List.map_map, hmoved]

/-- The names that are defined anew have other numbers. -/
theorem find?_defineAll_movedDown (tbl : Table) (ms : List Macro) (k : Nat) (name : Text) :
    (tbl.defineAll (ms.map (Macro.movedDown k))).find? name =
      ((tbl.defineAll ms).find? name).map fun m =>
        if name ∈ ms.map Macro.name then m.movedDown k else m := by
  have hkey : (fun m : Macro => (m.movedDown k).name) = Macro.name := rfl
  rw [find?_defineAll, find?_defineAll, Keyed.last?_map, hkey]
  by_cases hname : name ∈ ms.map Macro.name
  · obtain ⟨m, hm⟩ := Option.ne_none_iff_exists'.1 (mt Keyed.last?_eq_none_iff.1 (not_not.2 hname))
    simp [hm, hname]
  · rw [Keyed.last?_eq_none_iff.2 hname]
    simp [hname]

/-! ## The documents -/

/-- The outputs of all lines, joined, are those of the two documents. -/
theorem joinLines_append_eq_joinOutputs {first rest : List Text}
    (h : first.length = (Definition.textLines (Text.lines document)).length)
    (h' : rest.length = (Definition.textLines (Text.lines document')).length) :
    Text.joinLines (first ++ rest) =
      joinOutputs document document' (Text.joinLines first) (Text.joinLines rest) := by
  have hnil : Definition.textLines (Text.lines document) = [] ↔ first = [] := by
    rw [← List.length_eq_zero_iff, ← h, List.length_eq_zero_iff]
  have hnil' : Definition.textLines (Text.lines document') = [] ↔ rest = [] := by
    rw [← List.length_eq_zero_iff, ← h', List.length_eq_zero_iff]
  rw [joinOutputs]
  simp only [hnil, hnil']
  by_cases hfirst : first = []
  · by_cases hrest : rest = []
    · simp [hfirst, hrest, Text.joinLines]
    · simp [hfirst, hrest]
  · by_cases hrest : rest = []
    · simp [hfirst, hrest]
    · rw [if_neg hfirst, if_neg hrest, Text.joinLines_append hfirst hrest]

theorem process_append_result (h : (tbl.process document).result = .ok out) :
    (tbl.process (document ++ '\n' :: document')).result =
      (((tbl.process document).table.process document').result.map
        (joinOutputs document document' out)).mapError
          (Failure.movedDown (Text.lines document).length) := by
  obtain ⟨first, hfirst, rfl⟩ := Failure.map_eq_ok_iff.1 h
  rw [process, Text.lines_append, processLines_append hfirst, process, process,
    Outcome.preceded, processLines_add]
  cases hrest : ((tbl.processLines 1 (Text.lines document)).table.processLines 1
      (Text.lines document')).result with
  | error e => rfl
  | ok rest =>
    exact congrArg Except.ok (joinLines_append_eq_joinOutputs
      (length_of_processLines_eq_ok hfirst) (length_of_processLines_eq_ok hrest))

theorem process_append_table (h : (tbl.process document).result = .ok out) :
    (tbl.process (document ++ '\n' :: document')).table =
      ((tbl.process document).table.processLines (1 + (Text.lines document).length)
        (Text.lines document')).table := by
  obtain ⟨first, hfirst, -⟩ := Failure.map_eq_ok_iff.1 h
  rw [process, Text.lines_append, processLines_append hfirst]
  rfl

/-- **Processing in pieces is processing at once.** Let a document be processed
from any table and succeed. Then the document that has another one below it
fails exactly if the other one does from the table that is left, for the same
cause and as many lines further down; and else it gives the outputs of the two.
Either way the same macros are left in the same order, and those that lines of
the second document have defined have numbers that much larger. -/
theorem process_append (tbl : Table) (document document' : Text) {out : Text}
    (h : (tbl.process document).result = .ok out) :
    let k := (Text.lines document).length
    let o := tbl.process (document ++ '\n' :: document')
    let o' := (tbl.process document).table.process document'
    let defined := Definition.macros 1 (handledLines 1 (Text.lines document') o'.result)
    (∀ e, o.result = .error e ↔ ∃ e', o'.result = .error e' ∧ e = e'.movedDown k) ∧
    (∀ text, o.result = .ok text ↔
      ∃ out', o'.result = .ok out' ∧ text = joinOutputs document document' out out') ∧
    o.table.predeclared = o'.table.predeclared ∧
    o.table.entries.map Macro.unnumbered = o'.table.entries.map Macro.unnumbered ∧
    ∀ name, o.table.find? name = (o'.table.find? name).map fun m =>
      if name ∈ defined.map Macro.name then m.movedDown k else m := by
  intro k o o' defined
  have hresult : o.result =
      (o'.result.map (joinOutputs document document' out)).mapError (Failure.movedDown k) :=
    process_append_result h
  have htable' : o'.table = (tbl.process document).table.defineAll defined :=
    process_table_eq _ document'
  have htable : o.table =
      (tbl.process document).table.defineAll (defined.map (Macro.movedDown k)) := by
    refine (process_append_table h).trans ?_
    rw [processLines_add_table, ← handledLines_map 1 _ Text.joinLines]
    rfl
  refine ⟨fun e => ?_, fun text => ?_, ?_, ?_, fun name => ?_⟩
  · rw [hresult]
    cases o'.result <;> simp [Except.map, Except.mapError, eq_comm]
  · rw [hresult]
    cases o'.result <;> simp [Except.map, Except.mapError, eq_comm]
  · rw [htable, htable', defineAll_predeclared, defineAll_predeclared]
  · rw [htable, htable']
    exact entries_defineAll_movedDown _ defined k
  · rw [htable, htable']
    exact find?_defineAll_movedDown _ defined k name

/-- The second document redefines a macro of the first before it fails on its
second line, the fifth of both, and uses the other as it was. -/
theorem process_append_redefined :
    let tbl : Table := { entries := [{ name := ['k'], body := ['v'] }] }
    let document := "#define f(x) <x>\nf(k)\n#define g u".toList
    let document' := "#define f(x) [x]\nf(k) g f(".toList
    let e' : Failure := { line := 2, column := 8, fault := .unclosedArguments ['f'] }
    let o := tbl.process (document ++ '\n' :: document')
    let o' := (tbl.process document).table.process document'
    (tbl.process document).result = .ok "<v>".toList ∧ o'.result = .error e' ∧
      o.result = .error (e'.movedDown (Text.lines document).length) ∧
        ∀ name, o.table.find? name = (o'.table.find? name).map fun m =>
          if name ∈ (Definition.macros 1 (handledLines 1 (Text.lines document') o'.result)).map
            Macro.name then m.movedDown (Text.lines document).length else m := by
  have hok : (({ entries := [{ name := ['k'], body := ['v'] }] } : Table).process
      "#define f(x) <x>\nf(k)\n#define g u".toList).result = .ok "<v>".toList := by decide +kernel
  have herr : ((({ entries := [{ name := ['k'], body := ['v'] }] } : Table).process
      "#define f(x) <x>\nf(k)\n#define g u".toList).table.process
        "#define f(x) [x]\nf(k) g f(".toList).result =
          .error { line := 2, column := 8, fault := .unclosedArguments ['f'] } := by decide +kernel
  obtain ⟨herror, -, -, -, hfind⟩ := process_append
    { entries := [{ name := ['k'], body := ['v'] }] } _ "#define f(x) [x]\nf(k) g f(".toList hok
  exact ⟨hok, herr, (herror _).2 ⟨_, herr, rfl⟩, hfind⟩

end Table

end LineMacro
