import LineMacro.Proofs.Expansion.Steps
/-!
# Expansion — closed calls and their nesting

What is computed of the calls of a text is what is said of them: a text is
found closed exactly if it is (`closed_iff`), and then its nesting is the one
that it has (`nests_iff`). The arguments of a closed call are balanced, so the
calls in them are closed as well, and every closed text has a nesting.
-/

namespace LineMacro

namespace Table

variable {tbl : Table} {depth : Int} {text inner rest a : Text} {m : Macro} {n : Nat}

/-! ## Calls in a balanced text are closed -/

/-- A call that nothing closes is met in no balanced text. -/
theorem Reads.not_balancedAt (h : Reads tbl text (.unclosed m)) :
    ¬ Arguments.BalancedAt depth text := by
  intro hb
  cases h with
  | unclosed hw hm hp hopen =>
    obtain ⟨inner, rest, ht, hinner⟩ := Arguments.exists_closing_of_balancedAt hb.of_append
    exact hopen inner rest ht hinner

/-- A text that is balanced from some depth has only closed calls. -/
theorem closed_of_balancedAt (h : Arguments.BalancedAt depth text) : tbl.closed text = true := by
  induction text using reading_induction tbl generalizing depth with
  | nil => exact closed_nil
  | plain hread ih =>
    obtain ⟨depth', hrest⟩ := h.exists_of_suffix (reads_iff.2 hread).rest_suffix
    rw [closed_plain hread]
    exact ih hrest
  | constant hread ih =>
    obtain ⟨depth', hrest⟩ := h.exists_of_suffix (reads_iff.2 hread).rest_suffix
    rw [closed_constant hread]
    exact ih hrest
  | call hread _ ih =>
    obtain ⟨depth', hrest⟩ := h.exists_of_suffix (reads_iff.2 hread).rest_suffix
    rw [closed_call hread]
    exact ih hrest
  | unclosed hread => exact absurd h (reads_iff.2 hread).not_balancedAt

theorem Reads.balanced_inner (h : Reads tbl text (.call m inner rest)) :
    Arguments.Balanced inner := by
  cases h with
  | call _ _ _ hb => exact hb

/-- **Calls in the arguments of a call are closed.** -/
theorem Reads.closed_of_mem_split (h : Reads tbl text (.call m inner rest))
    (ha : a ∈ Arguments.split inner) : tbl.closed a = true :=
  closed_of_balancedAt
    (Arguments.balanced_iff_balancedAt.1 (Arguments.balanced_of_mem_split h.balanced_inner ha))

/-! ## Closed texts -/

theorem closed_of_eq_true (h : tbl.closed text = true) : Closed tbl text := by
  induction text using reading_induction tbl with
  | nil => exact .nil
  | plain hread ih =>
    rw [closed_plain hread] at h
    exact .plain (reads_iff.2 hread) (ih h)
  | constant hread ih =>
    rw [closed_constant hread] at h
    exact .constant (reads_iff.2 hread) (ih h)
  | call hread _ ih =>
    rw [closed_call hread] at h
    exact .call (reads_iff.2 hread) (ih h)
  | unclosed hread =>
    rw [closed_unclosed hread] at h
    cases h

theorem Closed.eq_true (h : Closed tbl text) : tbl.closed text = true := by
  induction h with
  | nil => exact closed_nil
  | plain hread _ ih =>
    obtain ⟨c, t, rfl, hfront⟩ := hread.exists_cons
    rw [closed_plain hfront, ih]
  | constant hread _ ih =>
    obtain ⟨c, t, rfl, hfront⟩ := hread.exists_cons
    rw [closed_constant hfront, ih]
  | call hread _ ih =>
    obtain ⟨c, t, rfl, hfront⟩ := hread.exists_cons
    rw [closed_call hfront, ih]

/-- **What is found closed is closed.** -/
theorem closed_iff : tbl.closed text = true ↔ Closed tbl text :=
  ⟨closed_of_eq_true, Closed.eq_true⟩

/-! ## The nesting of a closed text -/

theorem nestingAll_eq_foldr (texts : List Text) :
    tbl.nestingAll texts = (texts.map tbl.nesting).foldr max 0 := by
  induction texts with
  | nil => exact nestingAll_nil
  | cons a texts ih => rw [nestingAll_cons, ih, List.map_cons, List.foldr_cons]

theorem nests_of_closed (h : tbl.closed text = true) : Nests tbl text (tbl.nesting text) := by
  induction text using reading_induction tbl with
  | nil =>
    rw [nesting_nil]
    exact .nil
  | plain hread ih =>
    rw [closed_plain hread] at h
    rw [nesting_plain hread]
    exact .plain (reads_iff.2 hread) (ih h)
  | constant hread ih =>
    rw [closed_constant hread] at h
    rw [nesting_constant hread]
    exact .constant (reads_iff.2 hread) (ih h)
  | call hread ihargs ih =>
    have hr := reads_iff.2 hread
    have hlists := (Arguments.split_eq_iff_lists hr.balanced_inner).1 rfl
    rw [closed_call hread] at h
    rw [nesting_call hread, nestingAll_eq_foldr]
    exact .call hr hlists (fun a ha => ihargs a ha (hr.closed_of_mem_split ha)) (ih h)
  | unclosed hread =>
    rw [closed_unclosed hread] at h
    cases h

theorem Nests.closed_and_nesting (h : Nests tbl text n) :
    tbl.closed text = true ∧ tbl.nesting text = n := by
  induction h with
  | nil => exact ⟨closed_nil, nesting_nil⟩
  | plain hread _ ih =>
    obtain ⟨c, t, rfl, hfront⟩ := hread.exists_cons
    rwa [closed_plain hfront, nesting_plain hfront]
  | constant hread _ ih =>
    obtain ⟨c, t, rfl, hfront⟩ := hread.exists_cons
    rwa [closed_constant hfront, nesting_constant hfront]
  | @call _ inner rest m texts deep n hread hlists _ _ ihargs ih =>
    -- the list has these arguments only, and the induction gives the depth of each
    have hsplit := (Arguments.split_eq_iff_lists hread.balanced_inner).2 hlists
    have hdeep : texts.map tbl.nesting = texts.map deep :=
      List.map_congr_left fun a ha => (ihargs a ha).2
    obtain ⟨c, t, rfl, hfront⟩ := hread.exists_cons
    rw [closed_call hfront, nesting_call hfront, hsplit, nestingAll_eq_foldr, hdeep, ih.2]
    exact ⟨ih.1, rfl⟩

/-- **A closed text has one nesting**, the one that is computed. -/
theorem nests_iff : Nests tbl text n ↔ tbl.closed text = true ∧ tbl.nesting text = n := by
  refine ⟨Nests.closed_and_nesting, ?_⟩
  rintro ⟨hclosed, rfl⟩
  exact nests_of_closed hclosed

/-- A call by itself is one longer than what is nested in its arguments. -/
theorem Reads.nests_call (h : Reads tbl text (.call m inner [])) :
    Nests tbl text (1 + tbl.nestingAll (Arguments.split inner)) := by
  obtain ⟨c, t, rfl, hread⟩ := h.exists_cons
  rw [nests_iff, closed_call hread, nesting_call hread, nesting_nil]
  exact ⟨closed_nil, Nat.max_zero _⟩

end Table

end LineMacro
