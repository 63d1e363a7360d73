import LineMacro.Report.Inline
/-!
# Reports — texts put together inside a line

What follows a text without colons is printed as if it stood alone, provided that no
bracket is in it: then the text before has the same pieces but for the last, which
goes on to the end (`embedded_append`). And a text of characters that mean nothing to
the printer is printed as it is (`embedded_of_plain`).
-/

namespace LineMacro

namespace Report

variable {s t : Text} {c : Char}

/-! ## Symbols -/

/-- No code starts before the first colon. -/
theorem withSymbols_append (h : ':' ∉ t) (s : Text) :
    withSymbols (t ++ s) = t ++ withSymbols s := by
  induction t with
  | nil => rfl
  | cons c t ih =>
    rw [List.mem_cons, not_or] at h
    rw [List.cons_append, withSymbols, withSymbolsFrom, if_neg fun e => h.1 e.symm]
    exact congrArg (c :: ·) (ih h.2)

/-- A word between two colons is looked up as a whole. -/
theorem withSymbolsFrom_word {w : Text} (hcolon : ':' ∉ w)
    (hblank : ∀ c ∈ w, Text.isBlank c = false) (read s : Text) :
    withSymbolsFrom (some read) (w ++ ':' :: s) =
      symbolOr (read.reverse ++ w) ++ withSymbols s := by
  induction w generalizing read with
  | nil =>
    rw [List.nil_append, withSymbolsFrom, if_pos rfl, List.append_nil]
    rfl
  | cons c w ih =>
    rw [List.mem_cons, not_or] at hcolon
    obtain ⟨hc, hw⟩ := List.forall_mem_cons.1 hblank
    rw [List.cons_append, withSymbolsFrom, if_neg fun e => hcolon.1 e.symm, hc, ih hcolon.2 hw,
      List.reverse_cons, List.append_assoc]
    rfl

/-! ## Pieces -/

/-- A text without brackets is one piece with what has been read. -/
theorem piecesFrom_of_not_mem (hopen : '[' ∉ s) (hclose : ']' ∉ s) (plain : Text)
    (style : Option Text) :
    piecesFrom plain style s = [(style.getD [] ++ plain).reverse ++ s] := by
  fun_induction piecesFrom plain style s with
  | case1 => rw [List.append_nil]
  | case2 => exact absurd List.mem_cons_self hopen
  | case3 plain c t _ ih =>
    rw [List.mem_cons, not_or] at hopen hclose
    simpa using ih hopen.2 hclose.2
  | case4 plain c t _ s _ ih =>
    rw [List.mem_cons, not_or] at hopen hclose
    simpa using ih hopen.2 hclose.2
  | case5 => exact absurd List.mem_cons_self hclose
  | case6 plain c t _ s _ _ ih =>
    rw [List.mem_cons, not_or] at hopen hclose
    simpa using ih hopen.2 hclose.2

/-- What has no brackets goes on the last piece. -/
theorem exists_piecesFrom_append (hopen : '[' ∉ s) (hclose : ']' ∉ s) (plain : Text)
    (style : Option Text) (t : Text) :
    ∃ ps p, piecesFrom plain style t = ps ++ [p] ∧
      piecesFrom plain style (t ++ s) = ps ++ [p ++ s] := by
  fun_induction piecesFrom plain style t with
  | case1 plain style =>
    exact ⟨[], _, rfl, piecesFrom_of_not_mem hopen hclose plain style⟩
  | case2 plain style t ih =>
    obtain ⟨ps, p, ht, hs⟩ := ih
    refine ⟨ps, p, ht, ?_⟩
    rw [List.cons_append, piecesFrom.eq_def]
    exact (if_pos rfl).trans hs
  | case3 plain c t hc ih =>
    obtain ⟨ps, p, ht, hs⟩ := ih
    exact ⟨ps, p, ht, by rw [List.cons_append, piecesFrom, if_neg hc, hs]⟩
  | case4 plain c t hc read hread ih =>
    obtain ⟨ps, p, ht, hs⟩ := ih
    refine ⟨ps, p, ht, ?_⟩
    rw [List.cons_append, piecesFrom, if_neg hc]
    exact (if_pos hread).trans hs
  | case5 plain t read hc hread ih =>
    obtain ⟨ps, p, ht, hs⟩ := ih
    refine ⟨piecesBefore plain ++ (']' :: read).reverse :: ps, p, by simp [ht], ?_⟩
    rw [List.cons_append, piecesFrom, if_neg hc]
    simp only [if_neg hread, if_true, hs]
    simp
  | case6 plain c t hc read hread hclosed ih =>
    obtain ⟨ps, p, ht, hs⟩ := ih
    refine ⟨ps, p, ht, ?_⟩
    rw [List.cons_append, piecesFrom, if_neg hc]
    exact (if_neg hread).trans ((if_neg hclosed).trans hs)

theorem bareBrackets_of_not_mem (hopen : '[' ∉ s) : bareBrackets s = s := by
  fun_induction bareBrackets s with
  | case1 => rfl
  | case2 => simp at hopen
  | case3 c t _ ih =>
    rw [List.mem_cons, not_or] at hopen
    rw [ih hopen.2]

/-- No backslash before what has no brackets is dropped. -/
theorem bareBrackets_append (hopen : '[' ∉ s) (t : Text) :
    bareBrackets (t ++ s) = bareBrackets t ++ s := by
  fun_induction bareBrackets t with
  | case1 => exact bareBrackets_of_not_mem hopen
  | case2 t ih => rw [List.cons_append, List.cons_append, bareBrackets, ih, List.cons_append]
  | case3 c t hc ih =>
    rw [List.cons_append, bareBrackets, ih, List.cons_append]
    -- what follows a backslash is in the first text, or is no bracket
    intro u hback heq
    cases t with
    | nil =>
      rw [List.nil_append] at heq
      exact hopen (heq ▸ List.mem_cons_self)
    | cons d t =>
      obtain ⟨rfl, -⟩ := List.cons.inj heq
      exact hc t hback rfl

theorem bareBrackets_subset (t : Text) : bareBrackets t ⊆ t := by
  fun_induction bareBrackets t with
  | case1 => exact List.Subset.refl []
  | case2 t ih => exact List.subset_cons_of_subset '\\' (List.cons_subset_cons '[' ih)
  | case3 c t _ ih => exact List.cons_subset_cons c ih

/-! ## Texts inside a line -/

theorem verbatim_append (hcolon : ':' ∉ t) (s : Text) :
    verbatim (t ++ s) = verbatim t ++ verbatim s := by
  rw [verbatim, verbatim, verbatim, withSymbols_append hcolon, List.filter_append,
    withSymbols_of_not_mem hcolon]

/-- Without colons there are no codes. -/
theorem verbatim_of_not_mem (hcolon : ':' ∉ t) :
    verbatim t = t.filter fun c => !movesCursor c := by
  rw [verbatim, withSymbols_of_not_mem hcolon]

/-- **What follows a text without colons** is printed as if it stood alone, if no
bracket is in it. -/
theorem embedded_append (hcolon : ':' ∉ t) (hopen : '[' ∉ s) (hclose : ']' ∉ s) :
    embedded (t ++ s) = embedded t ++ verbatim s := by
  obtain ⟨ps, p, ht, hs⟩ := exists_piecesFrom_append hopen hclose [] none t
  have hlast : ':' ∉ bareBrackets p := by
    intro hmem
    have hp : p ∈ pieces t := by
      rw [pieces, ht]
      exact List.mem_append_right ps List.mem_cons_self
    have ht' : ':' ∈ (pieces t).flatten :=
      List.mem_flatten_of_mem hp (bareBrackets_subset p hmem)
    rw [flatten_pieces] at ht'
    exact hcolon ht'
  rw [embedded, embedded, pieces, pieces, ht, hs, List.flatMap_append, List.flatMap_append,
    List.flatMap_singleton, List.flatMap_singleton, bareBrackets_append hopen,
    verbatim_append hlast, List.append_assoc]

/-- The characters that mean nothing to the printer. -/
def isPlain (c : Char) : Bool :=
  !List.contains [':', '[', ']', '\\', '\n', '\t'] c && !movesCursor c

theorem isPlain_iff : isPlain c = true ↔
    c ∉ [':', '[', ']', '\\', '\n', '\t'] ∧ movesCursor c = false := by
  rw [isPlain, Bool.and_eq_true, Bool.not_eq_true', Bool.not_eq_true', ← Bool.not_eq_true,
    List.contains_iff_mem]

/-- What means something is not in a plain text. -/
theorem not_mem_of_plain (h : t.all isPlain = true)
    (hc : c ∈ [':', '[', ']', '\\', '\n', '\t']) : c ∉ t :=
  fun hmem => (isPlain_iff.1 (List.all_eq_true.1 h c hmem)).1 hc

theorem verbatim_of_plain (h : t.all isPlain = true) : verbatim t = t := by
  rw [verbatim_of_not_mem (not_mem_of_plain h (by decide)), List.filter_eq_self]
  intro c hc
  rw [(isPlain_iff.1 (List.all_eq_true.1 h c hc)).2]
  rfl

/-- **A plain text is printed as it is.** -/
theorem embedded_of_plain (h : t.all isPlain = true) : embedded t = t := by
  have hempty : ':' ∉ ([] : Text) := List.not_mem_nil
  rw [← List.nil_append t, embedded_append hempty (not_mem_of_plain h (by decide))
    (not_mem_of_plain h (by decide)), verbatim_of_plain h]
  rfl

/-- A text that does not end in a backslash is put into a line as it is. -/
theorem shown_of_getLast?_ne (h : t.getLast? ≠ some '\\') : shown t = t := by
  rw [shown, if_neg fun hends => h hends.1]

end Report

end LineMacro
