import LineMacro.Proofs.Document.Failure
import LineMacro.Proofs.Document.SameMacros
/-!
# Documents — neighbouring lines that change places

Two neighbouring lines may change places if neither can tell which of them comes
first (`Independent`): both define macros, of different names, or one does and
the other is a text line that does not hold the name as a word. In either order
they then give the same and leave tables of the same macros (`commuteAt`), so
nothing below them can tell either, and the run comes to the same (`run_swap`).
Only a text line that fails does so under the number that it has.
-/

namespace LineMacro

/-- Neither of the two lines looks at what the other one changes. -/
inductive Independent : Text → Text → Prop
  /-- They define macros of different names. -/
  | definitions {l l' : Text} {m m' : Macro} :
      Definition.macro? l 0 = some m → Definition.macro? l' 0 = some m' → m.name ≠ m'.name →
      Independent l l'
  /-- The first defines a macro, and its name is no word of the second, which is
  no definition. -/
  | definitionText {l l' : Text} {m : Macro} :
      Definition.macro? l 0 = some m → Definition.isDefinition l' = false →
      ¬ Table.WordOf l' m.name → Independent l l'
  /-- The same the other way round. -/
  | textDefinition {l l' : Text} {m : Macro} :
      Definition.isDefinition l = false → Definition.macro? l' 0 = some m →
      ¬ Table.WordOf l m.name → Independent l l'

namespace Table

variable {tbl : Table} {n : Int} {l l' line : Text} {above below lines outs : List Text}
variable {m : Macro} {out out' : Option Text} {e : Failure}

/-- What two neighbouring lines come to in one order and in the other. -/
inductive CommuteAt (tbl : Table) (n : Int) (l l' : Text) : Prop
  /-- They give the same, and leave tables of the same macros. -/
  | handled {outs : List Text} :
      (tbl.processLines n [l, l']).result = .ok outs →
      (tbl.processLines n [l', l]).result = .ok outs →
      SameMacros (tbl.processLines n [l, l']).table (tbl.processLines n [l', l]).table →
      CommuteAt tbl n l l'
  /-- The first is a text line that fails, wherever it stands. -/
  | refused {e : Failure} :
      Definition.isDefinition l = false →
      (tbl.processLines n [l, l']).result = .error { e with line := n } →
      (tbl.processLines n [l', l]).result = .error { e with line := n + 1 } →
      CommuteAt tbl n l l'
  /-- The second is. -/
  | refused' {e : Failure} :
      Definition.isDefinition l' = false →
      (tbl.processLines n [l, l']).result = .error { e with line := n + 1 } →
      (tbl.processLines n [l', l]).result = .error { e with line := n } →
      CommuteAt tbl n l l'

theorem CommuteAt.symm (h : CommuteAt tbl n l l') : CommuteAt tbl n l' l := by
  cases h with
  | handled hok hok' hsame => exact .handled hok' hok hsame.symm
  | refused htext herr herr' => exact .refused' htext herr' herr
  | refused' htext herr herr' => exact .refused htext herr' herr

/-! ## The two lines -/

theorem Handles.processLines_singleton (h : tbl.Handles n l out) :
    (tbl.processLines n [l]).result = .ok out.toList ∧
      (tbl.processLines n [l]).table = tbl.defineAll (Definition.macro? l n).toList := by
  rw [processLines_cons_of_ok h.processLine.1, h.processLine.2]
  exact ⟨congrArg Except.ok (List.append_nil _), rfl⟩

/-- Both lines are handled, the second under the table that the first leaves. -/
theorem Handles.processLines_pair (h : tbl.Handles n l out)
    (h' : (tbl.defineAll (Definition.macro? l n).toList).Handles (n + 1) l' out') :
    (tbl.processLines n [l, l']).result = .ok (out.toList ++ out'.toList) := by
  obtain ⟨hok, htable⟩ := h.processLines_singleton
  rw [← htable] at h'
  exact processLines_snoc_of_ok hok h'.processLine.1

/-- Only the first is. -/
theorem Handles.processLines_pair_of_refuses (h : tbl.Handles n l out)
    (h' : (tbl.defineAll (Definition.macro? l n).toList).Refuses (n + 1) l' e) :
    (tbl.processLines n [l, l']).result = .error { e with line := n + 1 } := by
  obtain ⟨hok, htable⟩ := h.processLines_singleton
  rw [← htable] at h'
  exact processLines_append_of_error hok h'.processLine.1

/-- Not even the first is. -/
theorem Refuses.processLines_cons (h : tbl.Refuses n l e) :
    (tbl.processLines n (l :: lines)).result = .error { e with line := n } := by
  rw [processLines_cons_of_error h.processLine.1]

/-- A line that defines a macro is handled under every table. -/
theorem handles_of_macro? {k : Int} (h : Definition.macro? l k = some m) (tbl : Table) (n : Int) :
    tbl.Handles n l none :=
  let ⟨hdef, hread⟩ := Definition.macro?_eq_some_iff.1 (Definition.macro?_at h n)
  .definition hdef hread

/-- A text line cannot tell whether a macro is defined that it has no word for. -/
theorem expand_defineAll_macro? {k : Int} (h : Definition.macro? l k = some m)
    (hw : ¬ WordOf line m.name) (tbl : Table) (n : Int) :
    (tbl.defineAll (Definition.macro? l n).toList).expand line = tbl.expand line := by
  have hnumbered : ¬ WordOf line ({ m with line := n } : Macro).name := hw
  rw [Definition.macro?_at h n]
  exact expandInside_define hnumbered 0

/-! ## Two lines among others -/

/-- Two lines that come to the same in either order do so among others. -/
theorem processLines_eq_of_handled {first : List Text}
    (h : SameMacros ((tbl.processLines n above).table.processLines (n + above.length) [l, l']).table
      ((tbl.processLines n above).table.processLines (n + above.length) [l', l]).table)
    (habove : (tbl.processLines n above).result = .ok first)
    (hok : ((tbl.processLines n above).table.processLines (n + above.length) [l, l']).result =
      .ok outs)
    (hok' : ((tbl.processLines n above).table.processLines (n + above.length) [l', l]).result =
      .ok outs) (below : List Text) :
    (tbl.processLines n (above ++ l' :: l :: below)).result =
        (tbl.processLines n (above ++ l :: l' :: below)).result ∧
      SameMacros (tbl.processLines n (above ++ l :: l' :: below)).table
        (tbl.processLines n (above ++ l' :: l :: below)).table := by
  have hsame := h.processLines_append rfl hok hok' below
  rw [processLines_append habove, processLines_append habove]
  exact ⟨congrArg (Except.map (first ++ ·)) hsame.1, hsame.2⟩

/-- If the two lines fail below those above, so does the whole. -/
theorem processLines_eq_error_of_pair {first : List Text}
    (habove : (tbl.processLines n above).result = .ok first)
    (hpair : ((tbl.processLines n above).table.processLines (n + above.length) [l, l']).result =
      .error e) (below : List Text) :
    (tbl.processLines n (above ++ l :: l' :: below)).result = .error e :=
  (processLines_append_eq_error_iff habove).2 (processLines_append_eq_error hpair below)

/-- Lines that fail below two that are handled do so at one below the two. -/
theorem exists_getElem?_below {first : List Text}
    (habove : (tbl.processLines n above).result = .ok first)
    (hok : ((tbl.processLines n above).table.processLines (n + above.length) [l, l']).result =
      .ok outs)
    (herr : (tbl.processLines n (above ++ l :: l' :: below)).result = .error e) :
    ∃ (k : Nat) (line : Text), below[k]? = some line ∧
      e.line = n + (above.length + (k + 2) : Nat) := by
  have hbelow := (processLines_append_eq_error_iff hok).1
    ((processLines_append_eq_error_iff habove).1 herr)
  obtain ⟨k, line, hline, hnumber⟩ := exists_getElem?_of_processLines_eq_error hbelow
  have htwo : ([l, l'].length : Int) = 2 := rfl
  exact ⟨k, line, hline, by rw [hnumber, htwo]; omega⟩

end Table

open Table

namespace Independent

variable {tbl : Table} {n : Int} {l l' : Text} {above below outs : List Text}
variable {e : Failure}

theorem symm (h : Independent l l') : Independent l' l := by
  cases h with
  | definitions hm hm' hne => exact .definitions hm' hm hne.symm
  | definitionText hm htext hw => exact .textDefinition htext hm hw
  | textDefinition htext hm hw => exact .definitionText hm htext hw

/-- Of every name the two lines leave the same macro, whatever their order. -/
theorem last?_macros (h : Independent l l') (n : Int) (name : Text) :
    Keyed.last? Macro.name name ((Definition.macros n [l, l']).map Macro.unnumbered) =
      Keyed.last? Macro.name name ((Definition.macros n [l', l]).map Macro.unnumbered) := by
  have htwo : ∀ a b : Text, (Definition.macros n [a, b]).map Macro.unnumbered =
      ((Definition.macro? a 0).map Macro.unnumbered).toList ++
        ((Definition.macro? b 0).map Macro.unnumbered).toList := fun a b => by
    rw [Definition.macros, Definition.macros, Definition.macros, List.append_nil, List.map_append,
      ← Option.toList_map, ← Option.toList_map, Definition.map_unnumbered_macro? a n 0,
      Definition.map_unnumbered_macro? b (n + 1) 0]
  rw [htwo, htwo]
  refine Keyed.last?_append_comm (fun a ha b hb => ?_) name
  obtain ⟨m, hm, rfl⟩ := Option.map_eq_some_iff.1 (Option.mem_toList.1 ha)
  obtain ⟨m', hm', rfl⟩ := Option.map_eq_some_iff.1 (Option.mem_toList.1 hb)
  cases h with
  | definitions h h' hne =>
    obtain rfl := Option.some.inj (h.symm.trans hm)
    obtain rfl := Option.some.inj (h'.symm.trans hm')
    exact hne
  | definitionText _ htext =>
    rw [Definition.macro?_eq_none_of_text htext] at hm'
    cases hm'
  | textDefinition htext _ =>
    rw [Definition.macro?_eq_none_of_text htext] at hm
    cases hm

/-- If both orders give something they leave the same macros. -/
theorem sameMacros (h : Independent l l') {outs' : List Text}
    (hok : (tbl.processLines n [l, l']).result = .ok outs)
    (hok' : (tbl.processLines n [l', l]).result = .ok outs') :
    SameMacros (tbl.processLines n [l, l']).table (tbl.processLines n [l', l]).table := by
  rw [processLines_table hok, processLines_table hok']
  exact (SameMacros.refl tbl).defineAll (h.last?_macros n)

/-- A definition and a text line below it. -/
theorem commuteAt_definitionText {m : Macro} (hm : Definition.macro? l 0 = some m)
    (htext : Definition.isDefinition l' = false) (hw : ¬ WordOf l' m.name) (tbl : Table)
    (n : Int) : tbl.CommuteAt n l l' := by
  have hexpand := expand_defineAll_macro? hm hw tbl n
  cases hexp : tbl.expand l' with
  | ok out =>
    rw [hexp] at hexpand
    have hhandles : tbl.Handles n l' (some out) := .text htext hexp
    have hok := (handles_of_macro? hm tbl n).processLines_pair (.text htext hexpand)
    have hok' := hhandles.processLines_pair (handles_of_macro? hm _ (n + 1))
    exact .handled hok hok' ((Independent.definitionText hm htext hw).sameMacros hok hok')
  | error e =>
    rw [hexp] at hexpand
    have hrefuses : tbl.Refuses n l' e := .text htext hexp
    exact .refused' htext
      ((handles_of_macro? hm tbl n).processLines_pair_of_refuses (.text htext hexpand))
      hrefuses.processLines_cons

/-- **The order of the two lines does not matter**, under any table. -/
theorem commuteAt (h : Independent l l') (tbl : Table) (n : Int) : tbl.CommuteAt n l l' := by
  cases h with
  | definitions hm hm' hne =>
    have hok := (handles_of_macro? hm tbl n).processLines_pair (handles_of_macro? hm' _ (n + 1))
    have hok' := (handles_of_macro? hm' tbl n).processLines_pair (handles_of_macro? hm _ (n + 1))
    exact .handled hok hok' ((Independent.definitions hm hm' hne).sameMacros hok hok')
  | definitionText hm htext hw => exact commuteAt_definitionText hm htext hw tbl n
  | textDefinition htext hm hw => exact (commuteAt_definitionText hm htext hw tbl n).symm

/-- **Lines give the same in either order**, and leave the same macros. -/
theorem processLines_eq_ok (h : Independent l l')
    (hok : (tbl.processLines n (above ++ l :: l' :: below)).result = .ok outs) :
    (tbl.processLines n (above ++ l' :: l :: below)).result = .ok outs ∧
      SameMacros (tbl.processLines n (above ++ l :: l' :: below)).table
        (tbl.processLines n (above ++ l' :: l :: below)).table := by
  obtain ⟨first, habove⟩ := exists_of_processLines_append_eq_ok hok
  cases h.commuteAt (tbl.processLines n above).table (n + above.length) with
  | handled hpair hpair' hsame =>
    obtain ⟨hresult, htables⟩ := processLines_eq_of_handled hsame habove hpair hpair' below
    exact ⟨hresult.trans hok, htables⟩
  | refused _ herr | refused' _ herr =>
    -- the two lines would fail above the others as well
    cases (processLines_eq_error_of_pair habove herr below).symm.trans hok

/-- **They fail for the same cause**, and at the same line. If that is one of the
two, which then is no definition, its number follows it. -/
theorem processLines_eq_error (h : Independent l l')
    (herr : (tbl.processLines n (above ++ l :: l' :: below)).result = .error e) :
    ∃ (k k' : Nat) (line : Text), (above ++ l :: l' :: below)[k]? = some line ∧
      (above ++ l' :: l :: below)[k']? = some line ∧ e.line = n + k ∧
        (tbl.processLines n (above ++ l' :: l :: below)).result =
          .error { e with line := n + k' } ∧
        (k' = k ∨ Definition.isDefinition line = false ∧
          (k = above.length ∧ k' = k + 1 ∨ k' = above.length ∧ k = k' + 1)) := by
  cases habove : (tbl.processLines n above).result with
  | error e' =>
    obtain rfl : e' = e :=
      Except.error.inj ((processLines_append_eq_error habove _).symm.trans herr)
    obtain ⟨k, line, hline, hnumber⟩ := exists_getElem?_of_processLines_eq_error habove
    have hk : k < above.length := (List.getElem?_eq_some_iff.1 hline).1
    refine ⟨k, k, line, ?_, ?_, hnumber, ?_, Or.inl rfl⟩
    · rw [List.getElem?_append_left hk, hline]
    · rw [List.getElem?_append_left hk, hline]
    · rw [processLines_append_eq_error habove, ← hnumber]
  | ok first =>
    cases h.commuteAt (tbl.processLines n above).table (n + above.length) with
    | @handled outs hpair hpair' hsame =>
      obtain ⟨hresult, -⟩ := processLines_eq_of_handled hsame habove hpair hpair' below
      obtain ⟨k, line, hline, hnumber⟩ := exists_getElem?_below habove hpair herr
      have hall : ∀ a a' : Text, (above ++ a :: a' :: below)[above.length + (k + 2)]? = some line :=
        fun a a' => by rwa [List.getElem?_append_right (Nat.le_add_right _ _),
          Nat.add_sub_cancel_left, List.getElem?_cons_succ, List.getElem?_cons_succ]
      refine ⟨_, _, line, hall l l', hall l' l, hnumber, ?_, Or.inl rfl⟩
      rw [hresult, herr, ← hnumber]
    | refused htext hpair hpair' =>
      obtain rfl := Except.error.inj
        ((processLines_eq_error_of_pair habove hpair below).symm.trans herr)
      refine ⟨above.length, above.length + 1, l, by simp, by simp, rfl, ?_,
        Or.inr ⟨htext, by simp⟩⟩
      rw [processLines_eq_error_of_pair habove hpair' below, Int.natCast_add, Int.add_assoc]
      rfl
    | refused' htext hpair hpair' =>
      obtain rfl := Except.error.inj
        ((processLines_eq_error_of_pair habove hpair below).symm.trans herr)
      refine ⟨above.length + 1, above.length, l', by simp, by simp, ?_, ?_,
        Or.inr ⟨htext, by simp⟩⟩
      · simp [Int.add_assoc]
      · rw [processLines_eq_error_of_pair habove hpair' below]

end Independent

/-! ## Runs -/

/-- **Independent neighbours may change places.** Let two documents be alike but
for two neighbouring lines, which are independent and stand in either order.
Then their runs give the same output, and leave the same macros; or both fail,
for the same cause, in the same column and at the same line. The line has the
same number in both unless it is one of the two, and then it is the text
line. -/
theorem run_swap {document document' l l' : Text} {above below : List Text}
    (predeclared : List Text) (definitions : List (Text × Text))
    (hnames : ∀ d ∈ definitions, isName d.1 = true)
    (hlines : Text.lines document = above ++ l :: l' :: below)
    (hlines' : Text.lines document' = above ++ l' :: l :: below) (h : Independent l l') :
    let o := run document predeclared definitions
    let o' := run document' predeclared definitions
    (∀ out, o.result = .ok out ↔ o'.result = .ok out) ∧
    (∀ e, o.result = .error e → ∃ (k k' : Nat) (line : Text),
      (Text.lines document)[k]? = some line ∧ (Text.lines document')[k']? = some line ∧
        e.line = k + 1 ∧ o'.result = .error { e with line := k' + 1 } ∧
        (k' = k ∨ Definition.isDefinition line = false ∧
          (k = above.length ∧ k' = k + 1 ∨ k' = above.length ∧ k = k' + 1))) ∧
    ∀ out, o.result = .ok out → ∀ name,
      (o.table.find? name).map Macro.unnumbered = (o'.table.find? name).map Macro.unnumbered := by
  intro o o'
  have hresult : o.result = ((seeded predeclared definitions).table.processLines 1
      (above ++ l :: l' :: below)).result.map Text.joinLines := hlines ▸ run_result hnames
  have hresult' : o'.result = ((seeded predeclared definitions).table.processLines 1
      (above ++ l' :: l :: below)).result.map Text.joinLines := hlines' ▸ run_result hnames
  have htable : o.table = _ := run_table hnames
  have htable' : o'.table = _ := run_table hnames
  rw [hresult, hresult', htable, htable', hlines, hlines']
  refine ⟨fun out => ⟨fun hok => ?_, fun hok => ?_⟩, fun e herr => ?_, fun out hok => ?_⟩
  · obtain ⟨outs, houts, rfl⟩ := Failure.map_eq_ok_iff.1 hok
    exact Failure.map_eq_ok_iff.2 ⟨outs, (h.processLines_eq_ok houts).1, rfl⟩
  · obtain ⟨outs, houts, rfl⟩ := Failure.map_eq_ok_iff.1 hok
    exact Failure.map_eq_ok_iff.2 ⟨outs, (h.symm.processLines_eq_ok houts).1, rfl⟩
  · obtain ⟨k, k', line, hk, hk', hnumber, herr', hplace⟩ :=
      h.processLines_eq_error (Failure.map_eq_error_iff.1 herr)
    refine ⟨k, k', line, hk, hk', by rw [hnumber, Int.add_comm], ?_, hplace⟩
    rw [Failure.map_eq_error_iff, herr', Int.add_comm]
  · obtain ⟨outs, houts, -⟩ := Failure.map_eq_ok_iff.1 hok
    exact (h.processLines_eq_ok houts).2.find?

/-- A text line and a definition below it, of a name that is only part of a word
of the line and was seeded with another body. -/
theorem run_swap_seeded :
    let document := "#define f(x) <x>\nf(kk)\n#define k f(p)\nk f(k)".toList
    let document' := "#define f(x) <x>\n#define k f(p)\nf(kk)\nk f(k)".toList
    let definitions := [("k".toList, "w".toList)]
    let o := run document [['p']] definitions
    let o' := run document' [['p']] definitions
    Independent "f(kk)".toList "#define k f(p)".toList ∧
      o.result = .ok "<kk>\nf(p) <f(p)>".toList ∧ o'.result = .ok "<kk>\nf(p) <f(p)>".toList ∧
        ∀ name, (o.table.find? name).map Macro.unnumbered =
          (o'.table.find? name).map Macro.unnumbered := by
  have hword : ¬ WordOf "f(kk)".toList ['k'] := by
    rw [wordOf_iff_mem_tokens]
    decide
  have hind : Independent "f(kk)".toList "#define k f(p)".toList :=
    .textDefinition (m := { name := ['k'], body := "f(p)".toList }) (by decide)
      (by decide +kernel) hword
  have hnames : ∀ d ∈ [("k".toList, "w".toList)], isName d.1 = true := by decide
  have hok : (run "#define f(x) <x>\nf(kk)\n#define k f(p)\nk f(k)".toList [['p']]
      [("k".toList, "w".toList)]).result = .ok "<kk>\nf(p) <f(p)>".toList := by decide +kernel
  have hlines : Text.lines "#define f(x) <x>\nf(kk)\n#define k f(p)\nk f(k)".toList =
      ["#define f(x) <x>".toList] ++ "f(kk)".toList :: "#define k f(p)".toList ::
        ["k f(k)".toList] := by decide
  have hlines' : Text.lines "#define f(x) <x>\n#define k f(p)\nf(kk)\nk f(k)".toList =
      ["#define f(x) <x>".toList] ++ "#define k f(p)".toList :: "f(kk)".toList ::
        ["k f(k)".toList] := by decide
  obtain ⟨hsame, -, htables⟩ := run_swap [['p']] _ hnames hlines hlines' hind
  exact ⟨hind, hok, (hsame _).1 hok, htables _ hok⟩

end LineMacro
