import LineMacro.Proofs.Expansion.Depth
/-!
# Expansion — parentheses that match

A parenthesis that opens a list matches the one `)` which a balanced text keeps
apart from it (`ClosesAt`): reading finds this one, and finds none exactly where
nothing after the opening parenthesis closes more than it opens
(`matching_eq_some_iff`, `matching_eq_none_iff`). In a balanced text every list is
closed. An argument that was cut from a closed list is balanced, and so is each
argument of a call in it; so no call that is met on the way down is left open
(`Meets.not_balancedAt`).
-/

namespace LineMacro

namespace Arguments

variable {t : Text} {start stop stop' : Nat}

/-- A `)` further on closes the list that opens at the start: what stands between
them is balanced. -/
structure ClosesAt (t : Text) (start stop : Nat) : Prop where
  lt : start < stop
  getElem?_eq : t[stop]? = some ')'
  balanced : Balanced ((t.take stop).drop (start + 1))

/-- The list closes after a balanced text that follows the opening parenthesis. -/
theorem closesAt_iff :
    ClosesAt t start stop ↔ ∃ inner rest, t.drop (start + 1) = inner ++ ')' :: rest ∧
      Balanced inner ∧ stop = start + 1 + inner.length := by
  constructor
  · rintro ⟨hlt, hclosed, hb⟩
    obtain ⟨hstop, -⟩ := List.getElem?_eq_some_iff.1 hclosed
    have hle : start + 1 ≤ (t.take stop).length := by
      rw [List.length_take_of_le (Nat.le_of_lt hstop)]
      exact hlt
    refine ⟨_, t.drop (stop + 1), ?_, hb, ?_⟩
    · calc
        t.drop (start + 1) = (t.take stop ++ t.drop stop).drop (start + 1) := by
          rw [List.take_append_drop]
        _ = (t.take stop).drop (start + 1) ++ t.drop stop := List.drop_append_of_le_length hle
        _ = (t.take stop).drop (start + 1) ++ ')' :: t.drop (stop + 1) := by
          rw [Text.drop_eq_cons hclosed]
    · rw [List.length_drop, List.length_take_of_le (Nat.le_of_lt hstop)]
      omega
  · rintro ⟨inner, rest, hdrop, hb, rfl⟩
    have hinner : (t.take (start + 1 + inner.length)).drop (start + 1) = inner := by
      rw [List.drop_take, hdrop, Nat.add_sub_cancel_left, List.take_left]
    refine ⟨by omega, ?_, by rwa [hinner]⟩
    rw [← List.getElem?_drop, hdrop, List.getElem?_append_right (Nat.le_refl _), Nat.sub_self,
      List.getElem?_cons_zero]

/-! ## What reading finds -/

/-- Reading from an opening parenthesis looks for the end of the list that follows
it. -/
theorem matching_natCast (h : t[start]? = some '(') :
    matching start t =
      .ok ((closing? 1 (t.drop (start + 1))).map fun k => ((start + 1 + k : Nat) : Int)) := by
  have hopen : closing? 0 (t.drop start) =
      (closing? 1 (t.drop (start + 1))).map (· + 1) := by
    rw [Text.drop_eq_cons h, closing?, if_neg (by decide)]
    rfl
  rw [matching, Position.readFrom_natCast]
  dsimp only
  rw [hopen]
  cases closing? 1 (t.drop (start + 1)) with
  | none => rfl
  | some k =>
    have hindex : (start : Int) + (k + 1 : Nat) = (start + 1 + k : Nat) := by omega
    exact congrArg (fun c => Except.ok (some c)) hindex

/-- **The parenthesis that is found** closes the list. -/
theorem matching_eq_some_iff (h : t[start]? = some '(') {c : Int} :
    matching start t = .ok (some c) ↔ ∃ stop : Nat, c = stop ∧ ClosesAt t start stop := by
  rw [matching_natCast h, Except.ok.injEq, Option.map_eq_some_iff]
  constructor
  · rintro ⟨k, hk, rfl⟩
    obtain ⟨inner, rest, hdrop, hb, rfl⟩ := closing?_one_eq_some_iff.1 hk
    exact ⟨_, rfl, closesAt_iff.2 ⟨inner, rest, hdrop, hb, rfl⟩⟩
  · rintro ⟨stop, rfl, hcloses⟩
    obtain ⟨inner, rest, hdrop, hb, rfl⟩ := closesAt_iff.1 hcloses
    exact ⟨inner.length, closing?_one_eq_some_iff.2 ⟨inner, rest, hdrop, hb, rfl⟩, rfl⟩

/-- **Only one parenthesis closes a list.** -/
theorem ClosesAt.unique (h : t[start]? = some '(') (hstop : ClosesAt t start stop)
    (hstop' : ClosesAt t start stop') : stop = stop' := by
  have hfound := (matching_eq_some_iff h).2 ⟨stop, rfl, hstop⟩
  have hfound' := (matching_eq_some_iff h).2 ⟨stop', rfl, hstop'⟩
  rw [hfound, Except.ok.injEq, Option.some_inj] at hfound'
  exact Int.ofNat.inj hfound'

/-- **None is found** exactly where nothing after the opening parenthesis closes more
than it opens. -/
theorem matching_eq_none_iff (h : t[start]? = some '(') :
    matching start t = .ok none ↔
      ∀ p, p <+: t.drop (start + 1) → p.count ')' ≤ p.count '(' := by
  rw [matching_natCast h, Except.ok.injEq, Option.map_eq_none_iff,
    ← Int.zero_add 1, closing?_eq_none_iff (Int.le_refl 0), NeverBelow]
  refine forall₂_congr fun p _ => ?_
  rw [height]
  omega

/-- In a balanced text every list is closed. -/
theorem exists_matching_of_balanced (hb : Balanced t) (h : t[start]? = some '(') :
    ∃ stop : Nat, matching start t = .ok (some stop) := by
  rw [← Text.take_append_cons_drop h, balanced_iff_balancedAt] at hb
  obtain ⟨inner, rest, hdrop, hinner⟩ := exists_closing_of_balancedAt hb.of_append
  exact ⟨_, (matching_eq_some_iff h).2
    ⟨_, rfl, closesAt_iff.2 ⟨inner, rest, hdrop, hinner, rfl⟩⟩⟩

end Arguments

namespace Table

variable {tbl : Table} {text : Text} {m : Macro} {depth : Int}

/-- The item is met when the text is expanded, with the arguments of its calls. -/
inductive Meets (tbl : Table) : Text → Item → Prop
  /-- The item at the front of the text is met. -/
  | front {text : Text} {item : Item} : Reads tbl text item → Meets tbl text item
  /-- So are those of what follows it. -/
  | rest {text : Text} {item later : Item} :
      Reads tbl text item → Meets tbl item.rest later → Meets tbl text later
  /-- If it is a call, those of its arguments are met too. -/
  | argument {text inner rest a : Text} {m : Macro} {item : Item} :
      Reads tbl text (.call m inner rest) → a ∈ Arguments.split inner → Meets tbl a item →
      Meets tbl text item

/-- **No call is left open in a balanced text**, nor in the arguments of its calls, at
any level. -/
theorem Meets.not_balancedAt (h : Meets tbl text (.unclosed m)) :
    ¬ Arguments.BalancedAt depth text := by
  generalize hitem : Item.unclosed m = item at h
  induction h generalizing depth with
  | front hread =>
    subst hitem
    exact hread.not_balancedAt
  | rest hread _ ih =>
    intro hb
    obtain ⟨depth', hrest⟩ := hb.exists_of_suffix hread.rest_suffix
    exact ih hitem hrest
  | argument hread ha _ ih =>
    have hbalanced := Arguments.balanced_of_mem_split hread.balanced_inner ha
    exact absurd (Arguments.balanced_iff_balancedAt.1 hbalanced) (ih hitem)

end Table

namespace Arguments

/-- **Matching parentheses.** From an opening parenthesis reading finds the index that
closes the list, of which there is no more than one, or it finds that nothing after the
parenthesis closes more than it opens; in a balanced text it finds an index. Where the
list is closed, no call that is met in one of its arguments is left open, at any level,
so expanding the argument can fail for depth only. -/
theorem matching_of_open {t : Text} {start : Nat} (h : t[start]? = some '(') :
    (∃ r, matching start t = .ok r) ∧
    (∀ c : Int, matching start t = .ok (some c) ↔ ∃ stop : Nat, c = stop ∧ ClosesAt t start stop) ∧
    (∀ stop stop', ClosesAt t start stop → ClosesAt t start stop' → stop = stop') ∧
    (matching start t = .ok none ↔
      ∀ p, p <+: t.drop (start + 1) → p.count ')' ≤ p.count '(') ∧
    (Balanced t → ∃ stop : Nat, matching start t = .ok (some stop)) ∧
    ∀ stop : Nat, matching start t = .ok (some stop) →
      ∀ a ∈ split ((t.take stop).drop (start + 1)), ∀ tbl : Table,
        (∀ m, ¬ tbl.Meets a (.unclosed m)) ∧
        ∀ depth e, tbl.expandInside depth a = .error e → ∃ name, e.fault = .tooDeep name := by
  refine ⟨⟨_, matching_natCast h⟩, fun c => matching_eq_some_iff h,
    fun stop stop' => ClosesAt.unique h, matching_eq_none_iff h,
    fun hb => exists_matching_of_balanced hb h, ?_⟩
  intro stop hfound a ha tbl
  obtain ⟨stop', heq, hcloses⟩ := (matching_eq_some_iff h).1 hfound
  obtain rfl : stop = stop' := Int.ofNat.inj heq
  have hbalanced : BalancedAt 0 a :=
    balanced_iff_balancedAt.1 (balanced_of_mem_split hcloses.balanced ha)
  refine ⟨fun m hmet => hmet.not_balancedAt hbalanced, fun depth e herr => ?_⟩
  exact (Table.tooDeep_of_closed (Table.closed_of_balancedAt hbalanced) herr).1

/-- A list in a list of a balanced text, with a call in its second argument. -/
theorem matching_of_open_nested :
    let t := "f((a), g(b, h())) )(".toList
    let tbl : Table := { entries := [{ name := ['h'], parameters := [['x']] }] }
    matching 8 t = .ok (some 15) ∧ ClosesAt t 8 15 ∧ "h()".toList ∈ split "b, h()".toList ∧
      (∀ m, ¬ tbl.Meets "h()".toList (.unclosed m)) ∧
        matching 19 t = .ok none ∧ ∀ p, p <+: t.drop 20 → p.count ')' ≤ p.count '(' := by
  have hinner : ("f((a), g(b, h())) )(".toList)[8]? = some '(' := by decide
  have hlast : ("f((a), g(b, h())) )(".toList)[19]? = some '(' := by decide
  have hfound : matching 8 "f((a), g(b, h())) )(".toList = .ok (some 15) := by decide +kernel
  have hnone : matching 19 "f((a), g(b, h())) )(".toList = .ok none := by decide +kernel
  have hmem : "h()".toList ∈ split "b, h()".toList := by decide
  obtain ⟨-, hsome, -, -, -, hargs⟩ := matching_of_open hinner
  obtain ⟨-, -, -, hopen, -⟩ := matching_of_open hlast
  obtain ⟨stop, hstop, hcloses⟩ := (hsome 15).1 hfound
  obtain rfl : 15 = stop := Int.ofNat.inj hstop
  exact ⟨hfound, hcloses, hmem, (hargs 15 hfound _ hmem _).1, hnone, hopen.1 hnone⟩

end Arguments

end LineMacro
