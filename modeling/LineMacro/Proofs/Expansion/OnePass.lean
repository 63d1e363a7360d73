import LineMacro.Proofs.Expansion.Nesting
/-!
# Expansion — the expander computes the relation

Reading a text along its items unfolds the relation just as it unfolds the
expander (`expands_cons_iff`), so the two agree wherever no call stands too
deep (`expandRest_eq_ok_iff`). What a text expands to is unique: the relation
has no depth, and a text is never too deep inside few enough calls.
-/

namespace LineMacro

namespace Table

variable {tbl : Table} {depth : Int} {size : Nat} {c : Char}
variable {text t out : Text} {item : Item} {texts args outs : List Text}

/-! ## The relation along items -/

/-- What a text that starts with the item expands to. -/
def Item.Yields (tbl : Table) (out : Text) : Item → Prop
  | .plain copied rest => ∃ o, Expands tbl rest o ∧ out = copied ++ o
  | .constant m rest => ∃ o, Expands tbl rest o ∧ out = m.body ++ o
  | .call m inner rest => ∃ args o,
      ExpandsAll tbl (Arguments.split inner) args ∧ Expands tbl rest o ∧
        out = m.substitute args ++ o
  | .unclosed _ => False

theorem expands_nil_iff : Expands tbl [] out ↔ out = [] := by
  constructor
  · intro h
    generalize htext : ([] : Text) = text at h
    cases h with
    | nil => rfl
    | gap => cases htext
    | other hw | constant hw | bare hw | call hw =>
      exact absurd (List.append_eq_nil_iff.1 htext.symm).1 hw.nonempty
  · rintro rfl
    exact .nil

theorem Expands.yields (h : Expands tbl text out) (heq : text = c :: t) :
    (tbl.read c t).Yields tbl out := by
  cases h with
  | nil => cases heq
  | gap hc ho =>
    rw [(Reads.gap hc).read_eq heq]
    exact ⟨_, ho, rfl⟩
  | other hw hm ho =>
    rw [(Reads.other hw hm).read_eq heq]
    exact ⟨_, ho, rfl⟩
  | constant hw hm hp ho =>
    rw [(Reads.constant hw hm hp).read_eq heq]
    exact ⟨_, ho, rfl⟩
  | bare hw hm hp hhead ho =>
    rw [(Reads.bare hw hm hp hhead).read_eq heq]
    exact ⟨_, ho, rfl⟩
  | call hw hm hp hb hl hargs ho =>
    rw [(Reads.call hw hm hp hb).read_eq heq]
    refine ⟨_, _, ?_, ho, by rw [Macro.substitute_eq_replaceWords]⟩
    rwa [(Arguments.split_eq_iff_lists hb).2 hl]

theorem Reads.expands (h : Reads tbl text item) (hy : item.Yields tbl out) :
    Expands tbl text out := by
  cases h with
  | gap hc =>
    obtain ⟨o, ho, rfl⟩ := hy
    exact .gap hc ho
  | other hw hm =>
    obtain ⟨o, ho, rfl⟩ := hy
    exact .other hw hm ho
  | constant hw hm hp =>
    obtain ⟨o, ho, rfl⟩ := hy
    exact .constant hw hm hp ho
  | bare hw hm hp hhead =>
    obtain ⟨o, ho, rfl⟩ := hy
    exact .bare hw hm hp hhead ho
  | call hw hm hp hb =>
    obtain ⟨args, o, hargs, ho, rfl⟩ := hy
    rw [Macro.substitute_eq_replaceWords]
    exact .call hw hm hp hb ((Arguments.split_eq_iff_lists hb).1 rfl) hargs ho
  | unclosed => exact absurd hy not_false

/-- **The relation unfolds along the items that are read.** -/
theorem expands_cons_iff : Expands tbl (c :: t) out ↔ (tbl.read c t).Yields tbl out :=
  ⟨fun h => h.yields rfl, fun h => (reads_read tbl c t).expands h⟩

/-! ## Where nothing stands too deep -/

/-- A text of the nesting may stand inside `depth` calls: it has no call, or
its longest chain of calls ends within the limit. -/
def Within (depth : Int) (n : Nat) : Prop := n = 0 ∨ depth + n ≤ nestingLimit

theorem within_zero : Within depth 0 := Or.inl rfl

theorem within_max {a b : Nat} : Within depth (max a b) ↔ Within depth a ∧ Within depth b := by
  unfold Within
  omega

/-- A call needs a place of its own, one level more for its arguments, and the
room that what follows it needs. -/
theorem within_call {a b : Nat} :
    Within depth (max (1 + a) b) ↔
      depth < nestingLimit ∧ Within (depth + 1) a ∧ Within depth b := by
  unfold Within
  omega

/-! ## Agreement -/

theorem expandAll_eq_ok_iff_expandsAll
    (h : ∀ a ∈ texts, ∀ b, tbl.expandInside depth a = .ok b ↔
      Expands tbl a b ∧ Within depth (tbl.nesting a)) :
    tbl.expandAll depth texts = .ok args ↔
      ExpandsAll tbl texts args ∧ Within depth (tbl.nestingAll texts) := by
  induction texts generalizing args with
  | nil =>
    rw [expandAll_nil, nestingAll_nil]
    constructor
    · intro hok
      cases hok
      exact ⟨.nil, within_zero⟩
    · rintro ⟨hall, -⟩
      cases hall
      rfl
  | cons a texts ih =>
    have ha := h a List.mem_cons_self
    have htail : ∀ args, tbl.expandAll depth texts = .ok args ↔
        ExpandsAll tbl texts args ∧ Within depth (tbl.nestingAll texts) :=
      fun args => ih fun a' ha' => h a' (List.mem_cons_of_mem a ha')
    simp only [expandAll_eq_ok_iff] at htail ⊢
    rw [nestingAll_cons, within_max]
    constructor
    · intro hall
      obtain ⟨b, bs, hb, hbs, rfl⟩ := List.forall₂_cons_left_iff.1 hall
      obtain ⟨hexp, hwithin⟩ := (ha b).1 hb
      obtain ⟨hexps, hwithins⟩ := (htail bs).1 hbs
      exact ⟨.cons hexp hexps, hwithin, hwithins⟩
    · rintro ⟨hall, hwithin, hwithins⟩
      cases hall with
      | cons hexp hexps => exact .cons ((ha _).2 ⟨hexp, hwithin⟩) ((htail _).2 ⟨hexps, hwithins⟩)

/-- **The expander computes the relation**, where nothing stands too deep. -/
theorem expandRest_eq_ok_iff :
    tbl.expandRest depth size text = .ok out ↔
      Expands tbl text out ∧ Within depth (tbl.nesting text) := by
  induction text using reading_induction tbl generalizing depth size out with
  | nil =>
    rw [expandRest_nil, expands_nil_iff, nesting_nil]
    constructor
    · intro h
      cases h
      exact ⟨rfl, within_zero⟩
    · rintro ⟨rfl, -⟩
      rfl
  | plain h ih =>
    rw [expandRest_plain h, Failure.map_eq_ok_iff, expands_cons_iff, h, nesting_plain h]
    simp only [ih, Item.Yields, and_right_comm, exists_and_right]
  | constant h ih =>
    rw [expandRest_constant h, Failure.map_eq_ok_iff, expands_cons_iff, h, nesting_constant h]
    simp only [ih, Item.Yields, and_right_comm, exists_and_right]
  | @call c t m inner rest h ihargs ih =>
    have hall : ∀ args, tbl.expandAll (depth + 1) (Arguments.split inner) = .ok args ↔
        ExpandsAll tbl (Arguments.split inner) args ∧
          Within (depth + 1) (tbl.nestingAll (Arguments.split inner)) :=
      fun args => expandAll_eq_ok_iff_expandsAll fun a ha b => ihargs a ha
    rw [expandRest_call_eq_ok_iff h, expands_cons_iff, h, nesting_call h, within_call]
    simp only [hall, ih, Item.Yields]
    constructor
    · rintro ⟨hd, args, o, ⟨hargs, hin⟩, ⟨ho, hrest⟩, rfl⟩
      exact ⟨⟨args, o, hargs, ho, rfl⟩, hd, hin, hrest⟩
    · rintro ⟨⟨args, o, hargs, ho, rfl⟩, hd, hin, hrest⟩
      exact ⟨hd, args, o, ⟨hargs, hin⟩, ⟨ho, hrest⟩, rfl⟩
  | unclosed h =>
    rw [expandRest_unclosed h, expands_cons_iff, h]
    simp [Item.Yields]

/-- A text expands to one text only. Inside few enough calls it is not too
deep, and there both are what the expander gives. -/
theorem Expands.unique {out' : Text} (h : Expands tbl text out) (h' : Expands tbl text out') :
    out = out' := by
  -- at this depth even the longest chain of calls ends within the limit
  have hwithin : Within (-(tbl.nesting text : Int)) (tbl.nesting text) :=
    Or.inr (by unfold nestingLimit; omega)
  have hout : tbl.expandRest _ 0 text = .ok out := expandRest_eq_ok_iff.2 ⟨h, hwithin⟩
  rw [expandRest_eq_ok_iff.2 ⟨h', hwithin⟩] at hout
  exact (Except.ok.inj hout).symm

/-- Only a text whose calls are closed expands to anything. -/
theorem Expands.closed (h : Expands tbl text out) : tbl.closed text = true := by
  induction text using reading_induction tbl generalizing out with
  | nil => exact closed_nil
  | plain hread ih =>
    rw [expands_cons_iff, hread] at h
    obtain ⟨o, ho, -⟩ := h
    rw [closed_plain hread, ih ho]
  | constant hread ih =>
    rw [expands_cons_iff, hread] at h
    obtain ⟨o, ho, -⟩ := h
    rw [closed_constant hread, ih ho]
  | call hread _ ih =>
    rw [expands_cons_iff, hread] at h
    obtain ⟨args, o, -, ho, -⟩ := h
    rw [closed_call hread, ih ho]
  | unclosed hread =>
    rw [expands_cons_iff, hread] at h
    exact absurd h not_false

/-- **Expansion is the one-pass rewriting.** A text of its own is expanded to
what the relation gives for it, and to nothing else, exactly if its calls are
nested within the limit; and the relation gives at most one text. -/
theorem expand_eq_ok_iff_expands (tbl : Table) (text : Text) :
    (∀ out, tbl.expand text = .ok out ↔
        Expands tbl text out ∧ ∃ n, Nests tbl text n ∧ n ≤ nestingLimit) ∧
      ∀ out out', Expands tbl text out → Expands tbl text out' → out = out' := by
  refine ⟨fun out => ?_, fun out out' h h' => h.unique h'⟩
  have hwithin : Within 0 (tbl.nesting text) ↔ tbl.nesting text ≤ nestingLimit := by
    unfold Within
    omega
  rw [expand, expandInside, expandRest_eq_ok_iff, hwithin]
  constructor
  · rintro ⟨hexp, hn⟩
    exact ⟨hexp, tbl.nesting text, nests_of_closed hexp.closed, hn⟩
  · rintro ⟨hexp, n, hnests, hn⟩
    rw [(nests_iff.1 hnests).2]
    exact ⟨hexp, hn⟩

end Table

end LineMacro
