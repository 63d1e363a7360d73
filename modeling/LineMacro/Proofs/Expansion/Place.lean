import LineMacro.Proofs.Expansion.Depth
/-!
# Expansion — where it stops

A text of its own that cannot be expanded is reported at the start of a call of
that text itself (`exists_stopsAt_of_error`). The column is counted from where
the text starts, and a failure inside an argument has none until the outermost
call fills it in; calls in arguments are closed, so of a call that is not
closed only the text itself can be at fault. What stands before the reported
call expands.
-/

namespace LineMacro

namespace Table

variable {tbl : Table} {size : Nat} {c : Char} {before after copied rest text t w : Text}
variable {m : Macro} {item : Item} {e : Failure} {f : Fault} {k : Nat}

/-- No word runs from the end of one text into the other. -/
def Apart (s t : Text) : Prop :=
  ∀ c ∈ s.getLast?, ∀ d ∈ t.head?, Text.isWordChar c = false ∨ Text.isWordChar d = false

/-- A word that begins where the text before it ends, and ends where the text
after it begins. -/
structure WordBetween (before w after : Text) : Prop extends WordBefore w after where
  begins : ∀ c ∈ before.getLast?, Text.isWordChar c = false

/-- Why the expansion of a text stops, and after how many characters. A whole
word follows them that names a macro with parameters and starts a call, and
they expand by themselves. -/
inductive StopsAt (tbl : Table) (text : Text) : Nat → Fault → Prop
  /-- Nothing in the text closes the call. -/
  | unclosed {before w t : Text} {m : Macro} :
      text = before ++ (w ++ '(' :: t) → WordBetween before w ('(' :: t) →
      tbl.lookup w = some m → m.parameters ≠ [] → (∃ out, tbl.expand before = .ok out) →
      (∀ inner rest, t = inner ++ ')' :: rest → ¬ Arguments.Balanced inner) →
      StopsAt tbl text before.length (.unclosedArguments w)
  /-- The call is closed, and the chain of calls it starts is too long. -/
  | tooDeep {before w inner t name : Text} {m : Macro} {n : Nat} :
      text = before ++ (w ++ '(' :: (inner ++ ')' :: t)) →
      WordBetween before w ('(' :: (inner ++ ')' :: t)) →
      tbl.lookup w = some m → m.parameters ≠ [] → (∃ out, tbl.expand before = .ok out) →
      Arguments.Balanced inner → Nests tbl (w ++ '(' :: (inner ++ [')'])) n → nestingLimit < n →
      StopsAt tbl text before.length (.tooDeep name)

/-- Expansion stops inside the text. -/
theorem StopsAt.lt_length (h : StopsAt tbl text k f) : k < text.length := by
  cases h with
  | unclosed htext | tooDeep htext =>
    rw [htext]
    simp only [List.length_append, List.length_cons]
    omega

/-! ## Passing over an item -/

/-- What an expansion has passed over: no word runs across its end, and it does
not keep a part of the rest from being expanded. -/
structure Passes (tbl : Table) (copied rest : Text) : Prop where
  apart : ∀ c ∈ copied.getLast?, ∀ d ∈ rest.head?,
    Text.isWordChar c = false ∨ Text.isWordChar d = false
  expands : ∀ r s, rest = r ++ s → (∃ out, tbl.expand r = .ok out) →
    ∃ out, tbl.expand (copied ++ r) = .ok out

/-- A word that begins in the rest begins there in the whole text. -/
theorem WordBetween.append_left (h : WordBetween before w after)
    (hp : Apart copied (before ++ (w ++ after))) : WordBetween (copied ++ before) w after := by
  refine ⟨h.toWordBefore, fun c hc => ?_⟩
  rcases List.eq_nil_or_concat before with rfl | ⟨b, d, rfl⟩
  · -- the word starts the rest, so the rest has to be apart from what is passed
    rw [List.append_nil] at hc
    cases w with
    | nil => exact absurd rfl h.nonempty
    | cons d w =>
      have hd := h.isWord d List.mem_cons_self
      rcases hp c hc d rfl with hleft | hright
      · exact hleft
      · rw [hright] at hd
        cases hd
  · refine h.begins c ?_
    rw [List.concat_eq_append, ← List.append_assoc] at hc
    rw [List.concat_eq_append]
    simpa using hc

/-- **Stopping in the rest is stopping in the text**, as many characters
further on as have been passed over. -/
theorem StopsAt.append_left (h : StopsAt tbl rest k f) (hp : Passes tbl copied rest) :
    StopsAt tbl (copied ++ rest) (copied.length + k) f := by
  cases h with
  | @unclosed before w t m htext hw hm hparams hbefore hopen =>
    subst htext
    rw [← List.length_append]
    exact .unclosed (List.append_assoc _ _ _).symm (hw.append_left hp.apart) hm hparams
      (hp.expands before _ rfl hbefore) hopen
  | @tooDeep before w inner t name m n htext hw hm hparams hbefore hb hnests hdeep =>
    subst htext
    rw [← List.length_append]
    exact .tooDeep (List.append_assoc _ _ _).symm (hw.append_left hp.apart) hm hparams
      (hp.expands before _ rfl hbefore) hb hnests hdeep

/-! ## What the reader passes over -/

theorem WordBefore.of_append {r s : Text} (h : WordBefore w (r ++ s)) : WordBefore w r := by
  refine ⟨h.nonempty, h.isWord, fun c hc => h.apart c ?_⟩
  rw [Option.mem_def] at hc ⊢
  rw [List.head?_append, hc]
  rfl

/-- A word before a parenthesis is one, whatever follows the parenthesis. -/
theorem WordBefore.paren (h : WordBefore w ('(' :: t)) (t' : Text) : WordBefore w ('(' :: t') :=
  ⟨h.nonempty, h.isWord, h.apart⟩

/-- Where a text stands does not matter for what it expands to. -/
theorem expandRest_of_expand {out : Text} (h : tbl.expand text = .ok out) :
    tbl.expandRest 0 size text = .ok out :=
  expandRest_eq_ok_iff.2 (expandRest_eq_ok_iff.1 h)

theorem Reads.expand_plain (h : Reads tbl text (.plain copied rest))
    (hrest : ∃ out, tbl.expand rest = .ok out) : ∃ out, tbl.expand text = .ok out := by
  obtain ⟨c, t, rfl, hread⟩ := h.exists_cons
  obtain ⟨out, ho⟩ := hrest
  refine ⟨copied ++ out, ?_⟩
  rw [expand, expandInside, expandRest_plain hread, expandRest_of_expand ho]
  rfl

theorem Reads.expand_constant (h : Reads tbl text (.constant m rest))
    (hrest : ∃ out, tbl.expand rest = .ok out) : ∃ out, tbl.expand text = .ok out := by
  obtain ⟨c, t, rfl, hread⟩ := h.exists_cons
  obtain ⟨out, ho⟩ := hrest
  refine ⟨m.body ++ out, ?_⟩
  rw [expand, expandInside, expandRest_constant hread, expandRest_of_expand ho]
  rfl

theorem Reads.expand_call {inner : Text} {args : List Text}
    (h : Reads tbl text (.call m inner rest))
    (hargs : tbl.expandAll (0 + 1) (Arguments.split inner) = .ok args)
    (hrest : ∃ out, tbl.expand rest = .ok out) : ∃ out, tbl.expand text = .ok out := by
  obtain ⟨c, t, rfl, hread⟩ := h.exists_cons
  obtain ⟨out, ho⟩ := hrest
  exact ⟨_, (expandRest_call_eq_ok_iff hread).2
    ⟨by decide, args, out, hargs, expandRest_of_expand ho, rfl⟩⟩

/-- **What follows an item is apart from it**, and of what follows the reader
needs no more than where it starts: cut short anywhere, it follows the same
item. -/
theorem Reads.exists_passed (h : Reads tbl text item) (hclosed : ∀ m, item ≠ .unclosed m) :
    ∃ copied, text = copied ++ item.rest ∧ Apart copied item.rest ∧
      ∀ r s, item.rest = r ++ s → Reads tbl (copied ++ r) (item.withRest r) := by
  cases h with
  | @gap c t hc =>
    refine ⟨[c], rfl, fun d hd _ _ => Or.inl ?_, fun r s _ => .gap hc⟩
    obtain rfl : c = d := Option.some.inj hd
    exact hc
  | @other w t hw hm =>
    refine ⟨w, rfl, fun _ _ d hd => Or.inr (hw.apart d hd), fun r s hr => ?_⟩
    obtain rfl : t = r ++ s := hr
    exact .other hw.of_append hm
  | @constant w t m hw hm hp =>
    refine ⟨w, rfl, fun _ _ d hd => Or.inr (hw.apart d hd), fun r s hr => ?_⟩
    obtain rfl : t = r ++ s := hr
    exact .constant hw.of_append hm hp
  | @bare w t m hw hm hp hhead =>
    refine ⟨w, rfl, fun _ _ d hd => Or.inr (hw.apart d hd), fun r s hr => ?_⟩
    obtain rfl : t = r ++ s := hr
    refine .bare hw.of_append hm hp fun hr => hhead ?_
    rw [List.head?_append, hr]
    rfl
  | @call w inner t m hw hm hp hb =>
    refine ⟨(w ++ '(' :: inner) ++ [')'], by simp [Item.rest], fun c hc _ _ => Or.inl ?_,
      fun r s _ => ?_⟩
    · rw [List.getLast?_concat] at hc
      obtain rfl : ')' = c := Option.some.inj hc
      decide
    · -- the call stands at the end of its own text as well
      simpa [Item.withRest] using Reads.call (hw.paren (inner ++ ')' :: r)) hm hp hb
  | @unclosed _ _ m => exact absurd rfl (hclosed m)

/-- An item is passed over whole, if it keeps nothing that follows it from being
expanded. -/
theorem Reads.exists_passes (h : Reads tbl text item) (hclosed : ∀ m, item ≠ .unclosed m)
    (hexp : ∀ text r, Reads tbl text (item.withRest r) → (∃ out, tbl.expand r = .ok out) →
      ∃ out, tbl.expand text = .ok out) :
    ∃ copied, text = copied ++ item.rest ∧ Passes tbl copied item.rest := by
  obtain ⟨copied, htext, hapart, hread⟩ := h.exists_passed hclosed
  exact ⟨copied, htext, hapart, fun r s hr => hexp _ r (hread r s hr)⟩

/-! ## The place of a failure -/

/-- The column of the rest of a text is further on by what has been passed. -/
theorem column_append (h : (copied ++ rest).length ≤ size) :
    column size rest = column size (copied ++ rest) + copied.length := by
  rw [List.length_append] at h
  simp only [column, List.length_append]
  omega

/-- The failure has no line, and its column is where the expansion of the text
stops, counted in the text of `size` characters of which it is the end. -/
def Placed (tbl : Table) (size : Nat) (text : Text) (e : Failure) : Prop :=
  ∃ k, StopsAt tbl text k e.fault ∧ e.line = 0 ∧ e.column = column size text + k

theorem Placed.append_left (hp : Passes tbl copied rest) (hsize : (copied ++ rest).length ≤ size)
    (h : rest.length ≤ size → Placed tbl size rest e) : Placed tbl size (copied ++ rest) e := by
  have hle : rest.length ≤ size := by
    rw [List.length_append] at hsize
    omega
  obtain ⟨k, hk, hline, hcolumn⟩ := h hle
  refine ⟨copied.length + k, hk.append_left hp, hline, ?_⟩
  rw [hcolumn, column_append hsize]
  push_cast
  omega

/-- A call at the front that is not closed is where the text stops. -/
theorem Reads.placed_unclosed (h : Reads tbl text (.unclosed m)) :
    Placed tbl size text
      { column := column size text, fault := .unclosedArguments m.name } := by
  cases h with
  | @unclosed w t _ hw hm hp hopen =>
    have hbetween : WordBetween [] w ('(' :: t) := ⟨hw, by simp⟩
    refine ⟨0, ?_, rfl, (Int.add_zero _).symm⟩
    rw [name_of_lookup hm]
    exact .unclosed rfl hbetween hm hp ⟨[], expandRest_nil⟩ hopen

/-- Arguments of a call fail for their depth only, and without a place. -/
theorem Reads.tooDeep_of_expandAll {inner : Text} (h : Reads tbl text (.call m inner rest))
    (hall : tbl.expandAll (0 + 1) (Arguments.split inner) = .error e) :
    (∃ name, e.fault = .tooDeep name) ∧ e.line = 0 ∧ e.column = 0 ∧
      nestingLimit < 1 + tbl.nestingAll (Arguments.split inner) := by
  obtain ⟨a, ha, harg⟩ := exists_mem_of_expandAll_eq_error hall
  have hclosed := h.closed_of_mem_split ha
  obtain ⟨hname, hline, hcolumn⟩ := tooDeep_of_closed hclosed harg
  have hdeep := not_within_of_closed hclosed harg
  have hle : tbl.nesting a ≤ _ := nesting_le_nestingAll ha
  refine ⟨hname, hline, hcolumn (by decide), ?_⟩
  unfold Within at hdeep
  omega

/-- So is one whose arguments cannot be expanded: the failure comes without a
column and is given that of the call. -/
theorem Reads.placed_call {inner : Text} (h : Reads tbl text (.call m inner rest))
    (hall : tbl.expandAll (0 + 1) (Arguments.split inner) = .error e) :
    Placed tbl size text (e.atColumn (column size text)) := by
  obtain ⟨⟨name, hname⟩, hline, hcolumn, hdeep⟩ := h.tooDeep_of_expandAll hall
  refine ⟨0, ?_, ?_, ?_⟩
  · rw [Failure.atColumn_fault, hname]
    cases h with
    | @call w inner rest _ hw hm hp hb =>
      have hbetween : WordBetween [] w ('(' :: (inner ++ ')' :: rest)) := ⟨hw, by simp⟩
      have hnests := (Reads.call (hw.paren (inner ++ [')'])) hm hp hb).nests_call
      exact .tooDeep rfl hbetween hm hp ⟨[], expandRest_nil⟩ hb hnests hdeep
  · rw [Failure.atColumn_line, hline]
  · -- inside the call the failure has no column yet
    rw [Failure.atColumn_column hcolumn]
    exact (Int.add_zero _).symm

/-- **A failure is placed.** Reading goes past what expands, and the first call
that does not is reported. -/
theorem placed_of_error (hsize : text.length ≤ size)
    (herr : tbl.expandRest 0 size text = .error e) : Placed tbl size text e := by
  induction text using reading_induction tbl with
  | nil =>
    rw [expandRest_nil] at herr
    cases herr
  | @plain c t copied rest hread ih =>
    obtain ⟨passed, htext, hp⟩ :=
      (reads_iff.2 hread).exists_passes nofun fun _ _ h hrest => h.expand_plain hrest
    rw [expandRest_plain hread, Failure.map_eq_error_iff] at herr
    rw [htext] at hsize ⊢
    exact Placed.append_left hp hsize fun hle => ih hle herr
  | constant hread ih =>
    obtain ⟨passed, htext, hp⟩ :=
      (reads_iff.2 hread).exists_passes nofun fun _ _ h hrest => h.expand_constant hrest
    rw [expandRest_constant hread, Failure.map_eq_error_iff] at herr
    rw [htext] at hsize ⊢
    exact Placed.append_left hp hsize fun hle => ih hle herr
  | call hread _ ih =>
    obtain ⟨hd, -⟩ | ⟨-, ⟨e', hall, rfl⟩ | ⟨⟨args, hargs⟩, hrest⟩⟩ :=
      (expandRest_call_eq_error_iff hread).1 herr
    · exact absurd hd (by decide)
    · rw [if_pos rfl]
      exact (reads_iff.2 hread).placed_call hall
    · obtain ⟨passed, htext, hp⟩ :=
        (reads_iff.2 hread).exists_passes nofun fun _ _ h hrest => h.expand_call hargs hrest
      rw [htext] at hsize ⊢
      exact Placed.append_left hp hsize fun hle => ih hle hrest
  | unclosed hread =>
    rw [expandRest_unclosed hread] at herr
    cases herr
    exact (reads_iff.2 hread).placed_unclosed

/-- **Where the expansion of a text of its own stops.** -/
theorem exists_stopsAt_of_error (herr : tbl.expand text = .error e) :
    ∃ k, StopsAt tbl text k e.fault ∧ e.line = 0 ∧ e.column = k + 1 := by
  obtain ⟨k, hk, hline, hcolumn⟩ := placed_of_error (Nat.le_refl text.length) herr
  refine ⟨k, hk, hline, ?_⟩
  rw [hcolumn, column]
  omega

end Table

end LineMacro
