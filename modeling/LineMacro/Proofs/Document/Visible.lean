import LineMacro.Proofs.Document.Failure
import LineMacro.Proofs.Document.Numbers
/-!
# Documents — a run by what is visible

A run keeps one table and changes it line by line. It comes to the same as
handling every line under what is visible below the lines above it
(`run_result_of_visible`): the table that is left after any number of handled
lines answers each look-up so, whatever was defined before and in which order.
So a text line has no say in what the other lines give, and a line has none in
what the lines above it give.
-/

namespace LineMacro

variable {document : Text} {predeclared : List Text} {definitions : List (Text × Text)}
variable {lines lines' above : List Text} {outs outs' : List (Option Text)}

namespace Table

variable {tbl : Table} {n : Int} {line : Text} {out out' : Option Text}

/-- A line gives one thing only. -/
theorem Handles.unique (h : tbl.Handles n line out) (h' : tbl.Handles n line out') :
    out = out' :=
  Except.ok.inj (h.processLine.1.symm.trans h'.processLine.1)

end Table

/-! ## The table of a run -/

theorem filterMap_snoc (outs : List (Option Text)) (out : Option Text) :
    (outs ++ [out]).filterMap id = outs.filterMap id ++ out.toList := by
  rw [List.filterMap_append]
  cases out <;> rfl

/-- The table that handled lines leave answers with what is visible. -/
theorem lookup_processAbove (hnames : ∀ d ∈ definitions, isName d.1 = true) {first : List Text}
    (h : (processAbove predeclared definitions above).result = .ok first) (name : Text) :
    (processAbove predeclared definitions above).table.lookup name =
      visible predeclared definitions above name := by
  rw [processAbove, Table.processLines_table h, lookup_defineAll_macros hnames]

/-- So every word means to the line below them what is visible there. -/
theorem sameMeaning_scope (hnames : ∀ d ∈ definitions, isName d.1 = true) {first : List Text}
    (h : (processAbove predeclared definitions above).result = .ok first) :
    Table.SameMeaning (scope predeclared definitions above)
      (processAbove predeclared definitions above).table :=
  .of_lookup_eq fun name =>
    (lookup_scope predeclared definitions above name).trans (lookup_processAbove hnames h name).symm

/-- **The invariant of a run.** Lines that are handled under what is visible are
handled in a run, and give the same. -/
theorem Handled.result_eq (hnames : ∀ d ∈ definitions, isName d.1 = true)
    (h : Handled predeclared definitions above outs) :
    (processAbove predeclared definitions above).result = .ok (outs.filterMap id) := by
  induction h with
  | nil => rfl
  | @snoc above _ _ _ _ hline ih =>
    -- by induction the run stands at a table in which just this is visible
    obtain ⟨hresult, -⟩ :=
      (hline.of_sameMeaning (sameMeaning_scope hnames ih) (above.length + 1)).processLine
    rw [Int.add_comm] at hresult
    rw [filterMap_snoc]
    exact Table.processLines_snoc_of_ok ih hresult

/-- The first line that fails under what is visible fails in a run. -/
theorem Handled.result_eq_error (hnames : ∀ d ∈ definitions, isName d.1 = true) {line : Text}
    {e : Failure} (h : Handled predeclared definitions above outs)
    (hline : (scope predeclared definitions above).Refuses (above.length + 1) line e)
    (below : List Text) :
    (processAbove predeclared definitions (above ++ line :: below)).result =
      .error { e with line := above.length + 1 } := by
  have habove := h.result_eq hnames
  obtain ⟨hresult, -⟩ :=
    hline.processLine_of_sameMeaning (sameMeaning_scope hnames habove) (above.length + 1)
  rw [Int.add_comm] at hresult ⊢
  exact Table.processLines_append_of_error habove hresult

/-- Either every line is handled under what is visible, or there is a first that
fails. -/
theorem handled_or_refused (predeclared : List Text) (definitions : List (Text × Text))
    (lines : List Text) :
    (∃ outs, Handled predeclared definitions lines outs) ∨
      ∃ above line below outs e, lines = above ++ line :: below ∧
        Handled predeclared definitions above outs ∧
          (scope predeclared definitions above).Refuses (above.length + 1) line e := by
  induction lines using List.reverseRecOn with
  | nil => exact Or.inl ⟨[], .nil⟩
  | append_singleton lines last ih =>
    rcases ih with ⟨outs, houts⟩ | ⟨above, line, below, outs, e, rfl, houts, hline⟩
    · obtain ⟨out, hout⟩ | ⟨e, he⟩ := (scope predeclared definitions lines).handles_or_refuses
        (lines.length + 1) last
      · exact Or.inl ⟨outs ++ [out], houts.snoc hout⟩
      · exact Or.inr ⟨lines, last, [], outs, e, rfl, houts, he⟩
    · refine Or.inr ⟨above, line, below ++ [last], outs, e, ?_, houts, hline⟩
      rw [List.append_assoc, List.cons_append]

/-! ## What an output depends on -/

theorem Handled.length_eq (h : Handled predeclared definitions lines outs) :
    outs.length = lines.length := by
  induction h with
  | nil => rfl
  | snoc _ _ ih => rw [List.length_append, List.length_append, ih]; rfl

/-- Each output is that of its line, under what is visible below the lines above
it. -/
theorem Handled.exists_of_getElem? {k : Nat} {line : Text}
    (h : Handled predeclared definitions lines outs) (hk : lines[k]? = some line) :
    ∃ out, outs[k]? = some out ∧
      (scope predeclared definitions (lines.take k)).Handles (k + 1) line out := by
  induction h with
  | nil => cases hk
  | @snoc above outs last out habove hlast ih =>
    have hlength := habove.length_eq
    have hlt := (List.getElem?_eq_some_iff.1 hk).1
    rw [List.length_append, List.length_singleton] at hlt
    rcases Nat.lt_or_ge k above.length with hk' | hk'
    · -- the line stands further up, where the last one is not visible
      rw [List.getElem?_append_left hk'] at hk
      rw [List.getElem?_append_left (hlength ▸ hk'), List.take_append_of_le_length hk'.le]
      exact ih hk
    · obtain rfl : k = above.length := by omega
      rw [List.getElem?_concat_length] at hk
      obtain rfl : last = line := Option.some.inj hk
      rw [← hlength, List.getElem?_concat_length, hlength, List.take_left]
      exact ⟨out, rfl, hlast⟩

/-- **An output depends on its line and on what is visible there**, and on
nothing else of the document. -/
theorem Handled.getElem?_eq {k : Nat} (h : Handled predeclared definitions lines outs)
    (h' : Handled predeclared definitions lines' outs')
    (hvisible : visible predeclared definitions (lines.take k) =
      visible predeclared definitions (lines'.take k))
    (hk : lines[k]? = lines'[k]?) : outs[k]? = outs'[k]? := by
  cases hline : lines[k]? with
  | none =>
    have hlength := List.getElem?_eq_none_iff.1 hline
    have hlength' := List.getElem?_eq_none_iff.1 (hk.symm.trans hline)
    rw [List.getElem?_eq_none (h.length_eq ▸ hlength),
      List.getElem?_eq_none (h'.length_eq ▸ hlength')]
  | some line =>
    obtain ⟨out, hout, hhandles⟩ := h.exists_of_getElem? hline
    obtain ⟨out', hout', hhandles'⟩ := h'.exists_of_getElem? (hk.symm.trans hline)
    have hsame : Table.SameMeaning (scope predeclared definitions (lines.take k))
        (scope predeclared definitions (lines'.take k)) :=
      .of_lookup_eq fun w => by rw [lookup_scope, lookup_scope, hvisible]
    rw [hout, hout', (hhandles.of_sameMeaning hsame _).unique hhandles']

/-- Lines that are no definitions define nothing. -/
theorem SameButText.macros_eq (h : SameButText lines lines') (n : Int) :
    Definition.macros n lines = Definition.macros n lines' := by
  induction h generalizing n with
  | nil => rfl
  | cons hline _ ih =>
    rw [Definition.macros, Definition.macros, ih]
    rcases hline with rfl | ⟨htext, htext'⟩
    · rfl
    · rw [Definition.macro?, Definition.macro?, htext, htext']
      rfl

/-- **Text lines do not count** for what is visible. -/
theorem SameButText.visible_eq (h : SameButText lines lines') :
    visible predeclared definitions lines = visible predeclared definitions lines' := by
  funext name
  rw [visible, visible, h.macros_eq]

theorem SameButText.getElem?_eq {k : Nat} (h : SameButText lines lines')
    (houts : Handled predeclared definitions lines outs)
    (houts' : Handled predeclared definitions lines' outs') (hk : lines[k]? = lines'[k]?) :
    outs[k]? = outs'[k]? :=
  houts.getElem?_eq houts' (SameButText.visible_eq (List.forall₂_take k h)) hk

/-- **Lines below do not count** for what the lines above them give. -/
theorem Handled.take_eq {below below' : List Text}
    (h : Handled predeclared definitions (above ++ below) outs)
    (h' : Handled predeclared definitions (above ++ below') outs') :
    outs.take above.length = outs'.take above.length := by
  refine List.ext_getElem? fun k => ?_
  rw [List.getElem?_take, List.getElem?_take]
  split
  · rename_i hk
    refine h.getElem?_eq h' ?_ ?_
    · rw [List.take_append_of_le_length hk.le, List.take_append_of_le_length hk.le]
    · rw [List.getElem?_append_left hk, List.getElem?_append_left hk]
  · rfl

/-! ## The run -/

theorem run_result_eq_ok_iff (hnames : ∀ d ∈ definitions, isName d.1 = true) {text : Text} :
    (run document predeclared definitions).result = .ok text ↔
      ∃ outs, Handled predeclared definitions (Text.lines document) outs ∧
        text = Text.joinLines (outs.filterMap id) := by
  rw [run_result hnames, Failure.map_eq_ok_iff]
  constructor
  · rintro ⟨first, hfirst, rfl⟩
    obtain ⟨outs, houts⟩ | ⟨above, line, below, outs, e, hlines, houts, hline⟩ :=
      handled_or_refused predeclared definitions (Text.lines document)
    · obtain rfl := Except.ok.inj (hfirst.symm.trans (houts.result_eq hnames))
      exact ⟨outs, houts, rfl⟩
    · -- a line that fails under what is visible would have ended the run
      have herr := houts.result_eq_error hnames hline below
      rw [processAbove, ← hlines, hfirst] at herr
      cases herr
  · rintro ⟨outs, houts, rfl⟩
    exact ⟨_, houts.result_eq hnames, rfl⟩

theorem run_result_eq_error_iff (hnames : ∀ d ∈ definitions, isName d.1 = true) {e : Failure} :
    (run document predeclared definitions).result = .error e ↔
      ∃ above line below outs e', Text.lines document = above ++ line :: below ∧
        Handled predeclared definitions above outs ∧
          (scope predeclared definitions above).Refuses (above.length + 1) line e' ∧
            e = { e' with line := above.length + 1 } := by
  rw [run_result hnames, Failure.map_eq_error_iff]
  constructor
  · intro herr
    obtain ⟨outs, houts⟩ | ⟨above, line, below, outs, e', hlines, houts, hline⟩ :=
      handled_or_refused predeclared definitions (Text.lines document)
    · have hok := houts.result_eq hnames
      rw [processAbove, herr] at hok
      cases hok
    · have herr' := houts.result_eq_error hnames hline below
      rw [processAbove, ← hlines, herr] at herr'
      exact ⟨above, line, below, outs, e', hlines, houts, hline, Except.error.inj herr'⟩
  · rintro ⟨above, line, below, outs, e', hlines, houts, hline, rfl⟩
    rw [hlines]
    exact houts.result_eq_error hnames hline below

/-- **A run goes by what is visible.** The output is that of the lines which are
no definitions, each expanded under what is visible below the lines above it, or
the run fails with the first line that cannot be handled so; and the table of
the run holds just that at every line. What is visible depends on definition
lines only, so no text line changes what another line gives, and no line what is
given above it. -/
theorem run_result_of_visible (document : Text) (predeclared : List Text)
    (definitions : List (Text × Text)) (hnames : ∀ d ∈ definitions, isName d.1 = true) :
    (∀ above name, (scope predeclared definitions above).lookup name =
      visible predeclared definitions above name) ∧
    (∀ text, (run document predeclared definitions).result = .ok text ↔
      ∃ outs, Handled predeclared definitions (Text.lines document) outs ∧
        text = Text.joinLines (outs.filterMap id)) ∧
    (∀ e, (run document predeclared definitions).result = .error e ↔
      ∃ above line below outs e', Text.lines document = above ++ line :: below ∧
        Handled predeclared definitions above outs ∧
          (scope predeclared definitions above).Refuses (above.length + 1) line e' ∧
            e = { e' with line := above.length + 1 }) ∧
    (∀ above outs name, Handled predeclared definitions above outs →
      (processAbove predeclared definitions above).table.lookup name =
        visible predeclared definitions above name) ∧
    (∀ lines lines', SameButText lines lines' →
      visible predeclared definitions lines = visible predeclared definitions lines' ∧
        ∀ (outs outs' : List (Option Text)) (k : Nat),
          Handled predeclared definitions lines outs →
          Handled predeclared definitions lines' outs' → lines[k]? = lines'[k]? →
            outs[k]? = outs'[k]?) ∧
    (∀ above below below' outs outs', Handled predeclared definitions (above ++ below) outs →
      Handled predeclared definitions (above ++ below') outs' →
        outs.take above.length = outs'.take above.length) := by
  refine ⟨lookup_scope predeclared definitions, fun text => run_result_eq_ok_iff hnames,
    fun e => run_result_eq_error_iff hnames, ?_, ?_, ?_⟩
  · intro above outs name houts
    exact lookup_processAbove hnames (houts.result_eq hnames) name
  · intro lines lines' hsame
    exact ⟨hsame.visible_eq, fun outs outs' k houts houts' => hsame.getElem?_eq houts houts'⟩
  · intro above below below' outs outs' houts houts'
    exact houts.take_eq houts'

/-- A seeded macro is redefined twice, with a parameter and without, and a
definition of a predeclared name shows nowhere. -/
theorem run_result_of_visible_redefined :
    let document := "k p\n#define k(x) <x>\nk k(p)\n#define k w\n#define p r\nk(1) p".toList
    let definitions := [("k".toList, "v".toList), ("p".toList, "q".toList)]
    (∀ d ∈ definitions, isName d.1 = true) ∧
      (run document [['p']] definitions).result = .ok "v p\nk <p>\nw(1) p".toList ∧
        ∃ outs, Handled [['p']] definitions (Text.lines document) outs ∧
          "v p\nk <p>\nw(1) p".toList = Text.joinLines (outs.filterMap id) := by
  have hnames : ∀ d ∈ [("k".toList, "v".toList), ("p".toList, "q".toList)],
      isName d.1 = true := by decide
  have hok : (run "k p\n#define k(x) <x>\nk k(p)\n#define k w\n#define p r\nk(1) p".toList
      [['p']] [("k".toList, "v".toList), ("p".toList, "q".toList)]).result =
        .ok "v p\nk <p>\nw(1) p".toList := by decide +kernel
  obtain ⟨-, hgives, -⟩ := run_result_of_visible
    "k p\n#define k(x) <x>\nk k(p)\n#define k w\n#define p r\nk(1) p".toList [['p']] _ hnames
  exact ⟨hnames, hok, (hgives _).1 hok⟩

end LineMacro
