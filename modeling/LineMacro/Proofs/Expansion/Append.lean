import LineMacro.Proofs.Expansion.Place
/-!
# Expansion — cutting a text in two

A text may be cut where no word runs across and where no call is torn from its
argument list (`CleanCut`). Then its parts are expanded one after the other:
what stands before the cut is read as if nothing followed it, unless a call in
it is left open for what follows to close (`expandRest_append`). So if the first
part expands, the second decides about the whole, and a failure of it is only
further on by the length of the first (`expand_append`).
-/

namespace LineMacro

/-- The failure with its column so many characters further on. -/
def Failure.movedBy (k : Nat) (e : Failure) : Failure := { e with column := e.column + k }

namespace Table

/-- The place between two texts cuts no word in two and takes no argument list
from the word that it belongs to. -/
structure CleanCut (tbl : Table) (a b : Text) : Prop where
  apart : Apart a b
  bare : ∀ before w m, a = before ++ w → WordBetween before w b → tbl.lookup w = some m →
    m.parameters ≠ [] → b.head? ≠ some '('

variable {tbl : Table} {depth : Int} {size : Nat} {a b text copied rest inner t w out : Text}
variable {c : Char} {m : Macro} {item : Item}

/-! ## Reading up to the cut -/

/-- Only the end of a text matters for what it is apart from. -/
theorem Apart.of_append_left (h : Apart (copied ++ a) b) : Apart a b :=
  fun c hc => h c (List.mem_getLast?_append_of_mem_getLast? hc)

theorem WordBefore.append (h : WordBefore w t) (hb : Apart (w ++ t) b) :
    WordBefore w (t ++ b) := by
  refine ⟨h.nonempty, h.isWord, fun d hd => ?_⟩
  cases t with
  | cons c t => exact h.apart d hd
  | nil =>
    -- the word ends the text, so what follows must not go on with it
    rw [List.append_nil] at hb
    have hlast := List.getLast?_eq_some_getLast h.nonempty
    have hword := h.isWord _ (List.getLast_mem h.nonempty)
    rcases hb _ hlast d hd with hleft | hright
    · rw [hword] at hleft
      cases hleft
    · exact hright

/-- A closing parenthesis is where it was, if no other comes after the text. -/
theorem exists_eq_of_append_eq (hb : ')' ∉ b) (h : t ++ b = inner ++ ')' :: rest) :
    ∃ rest', t = inner ++ ')' :: rest' := by
  rcases List.append_eq_append_iff.1 h with ⟨s, rfl, hs⟩ | ⟨s, rfl, hs⟩
  · rw [hs] at hb
    exact absurd (List.mem_append_right s List.mem_cons_self) hb
  · cases s with
    | nil =>
      rw [← List.nil_append b, ← hs] at hb
      exact absurd List.mem_cons_self hb
    | cons d s =>
      obtain ⟨rfl, -⟩ := List.cons.inj hs
      exact ⟨s, rfl⟩

/-- **The item at the front does not see the cut.** Only a call that is left
open could be closed by what follows. -/
theorem Reads.append (h : Reads tbl text item) (hb : CleanCut tbl text b)
    (hopen : ∀ m, item = .unclosed m → ')' ∉ b) :
    Reads tbl (text ++ b) (item.withRest (item.rest ++ b)) := by
  cases h with
  | gap hc => exact .gap hc
  | other hw hm =>
    rw [List.append_assoc]
    exact .other (hw.append hb.apart) hm
  | constant hw hm hp =>
    rw [List.append_assoc]
    exact .constant (hw.append hb.apart) hm hp
  | @bare w t m hw hm hp hhead =>
    rw [List.append_assoc]
    refine .bare (hw.append hb.apart) hm hp ?_
    cases t with
    | cons c t => exact hhead
    | nil =>
      -- the bare word ends the text, where no argument list may follow
      have hw' : WordBefore w ([] ++ b) := hw.append hb.apart
      exact hb.bare [] w m (List.append_nil w) ⟨hw', by simp⟩ hm hp
  | @call w inner t m hw hm hp hbal =>
    have h := Reads.call (hw.paren (inner ++ ')' :: (t ++ b))) hm hp hbal
    simpa [Item.withRest, Item.rest] using h
  | @unclosed w t m hw hm hp hunclosed =>
    rw [List.append_assoc]
    refine .unclosed (hw.paren (t ++ b)) hm hp fun inner rest heq => ?_
    obtain ⟨rest', rfl⟩ := exists_eq_of_append_eq (hopen m rfl) heq
    exact hunclosed inner rest' rfl

theorem read_append (hread : tbl.read c t = item) (hb : CleanCut tbl (c :: t) b)
    (hopen : ∀ m, item = .unclosed m → ')' ∉ b) :
    tbl.read c (t ++ b) = item.withRest (item.rest ++ b) :=
  ((reads_iff.2 hread).append hb hopen).read_eq rfl

theorem CleanCut.of_append (h : CleanCut tbl (copied ++ rest) b) (hc : Apart copied (rest ++ b)) :
    CleanCut tbl rest b := by
  refine ⟨h.apart.of_append_left, fun before w m hrest hw => ?_⟩
  subst hrest
  rw [List.append_assoc] at hc
  exact h.bare (copied ++ before) w m (List.append_assoc _ _ _).symm (hw.append_left hc)

/-- **After the item the same cut is left.** -/
theorem CleanCut.of_reads (hb : CleanCut tbl text b) (h : Reads tbl text item)
    (hclosed : ∀ m, item ≠ .unclosed m) : CleanCut tbl item.rest b := by
  have happ := h.append hb fun m hm => absurd hm (hclosed m)
  have hclosed' : ∀ m, item.withRest (item.rest ++ b) ≠ .unclosed m := by
    cases item <;> simp_all [Item.withRest]
  have hrest : (item.withRest (item.rest ++ b)).rest = item.rest ++ b := by
    cases item <;> simp_all [Item.withRest, Item.rest]
  obtain ⟨copied, htext, hapart, -⟩ := happ.exists_passed hclosed'
  rw [hrest] at htext hapart
  rw [← List.append_assoc, List.append_cancel_right_eq] at htext
  rw [htext] at hb
  exact hb.of_append hapart

/-! ## Expanding up to the cut -/

/-- What two texts give, one after the other: the first failure, or both. -/
def inTurn (x y : Except Failure Text) : Except Failure Text :=
  match x with
  | .ok out => y.map (out ++ ·)
  | .error e => .error e

theorem inTurn_map {x y : Except Failure Text} :
    inTurn (x.map (copied ++ ·)) y = (inTurn x y).map (copied ++ ·) := by
  cases x with
  | error e => rfl
  | ok out =>
    cases y with
    | error e => rfl
    | ok out' => exact congrArg Except.ok (List.append_assoc _ _ _)

/-- The same place has the same column, however much stands after it. -/
theorem column_append_right : column (size + b.length) (text ++ b) = column size text := by
  rw [column, column, List.length_append, Nat.add_sub_add_right]

/-- **A text is expanded up to the cut as if nothing came after it.** This needs
the calls before the cut to be closed, or nothing after it that closes one. -/
theorem expandRest_append (hb : CleanCut tbl a b) (hclosed : tbl.closed a = true ∨ ')' ∉ b) :
    tbl.expandRest depth (size + b.length) (a ++ b) =
      inTurn (tbl.expandRest depth size a) (tbl.expandRest depth (size + b.length) b) := by
  induction a using reading_induction tbl with
  | nil =>
    rw [expandRest_nil, inTurn, List.nil_append]
    cases tbl.expandRest depth (size + b.length) b <;> rfl
  | @plain c t copied rest hread ih =>
    have happ : tbl.read c (t ++ b) = .plain copied (rest ++ b) := read_append hread hb nofun
    have hrest := hb.of_reads (reads_iff.2 hread) nofun
    rw [closed_plain hread] at hclosed
    rw [List.cons_append, expandRest_plain happ, expandRest_plain hread, inTurn_map,
      ih hrest hclosed]
  | @constant c t m rest hread ih =>
    have happ : tbl.read c (t ++ b) = .constant m (rest ++ b) := read_append hread hb nofun
    have hrest := hb.of_reads (reads_iff.2 hread) nofun
    rw [closed_constant hread] at hclosed
    rw [List.cons_append, expandRest_constant happ, expandRest_constant hread, inTurn_map,
      ih hrest hclosed]
  | @call c t m inner rest hread _ ih =>
    have happ : tbl.read c (t ++ b) = .call m inner (rest ++ b) := read_append hread hb nofun
    have hrest := hb.of_reads (reads_iff.2 hread) nofun
    rw [closed_call hread] at hclosed
    rw [List.cons_append, expandRest_call happ, expandRest_call hread, ← List.cons_append,
      column_append_right, ih hrest hclosed]
    split
    · rfl
    · cases tbl.expandAll (depth + 1) (Arguments.split inner) with
      | error e => rfl
      | ok args => exact inTurn_map.symm
  | @unclosed c t m hread =>
    rw [closed_unclosed hread] at hclosed
    have happ : tbl.read c (t ++ b) = .unclosed m :=
      read_append hread hb fun _ _ => hclosed.resolve_left (by decide)
    rw [List.cons_append, expandRest_unclosed happ, expandRest_unclosed hread, ← List.cons_append,
      column_append_right]
    rfl

/-! ## What comes after the cut -/

theorem column_add_size {k : Nat} (h : text.length ≤ size) :
    column (size + k) text = column size text + k := by
  rw [column, column]
  omega

/-- Arguments that fail have no column yet, so the call gives the failure its
own. -/
theorem Reads.atColumn_of_expandAll {e : Failure} (h : Reads tbl text (.call m inner rest))
    (hall : tbl.expandAll (0 + 1) (Arguments.split inner) = .error e) (n : Int) :
    e.atColumn n = { e with column := n } := by
  obtain ⟨-, -, hcolumn, -⟩ := h.tooDeep_of_expandAll hall
  exact if_pos hcolumn

theorem map_mapError {x : Except Failure Text} {f : Text → Text} {g : Failure → Failure} :
    (x.map f).mapError g = (x.mapError g).map f := by
  cases x <;> rfl

/-- **The end of a longer text fails alike**, further on by as much as the text
is longer. -/
theorem expandRest_add_size {k : Nat} (h : text.length ≤ size) :
    tbl.expandRest 0 (size + k) text =
      (tbl.expandRest 0 size text).mapError (Failure.movedBy k) := by
  induction text using reading_induction tbl with
  | nil =>
    rw [expandRest_nil, expandRest_nil]
    rfl
  | plain hread ih =>
    have hle := (reads_iff.2 hread).rest_suffix.length_le
    rw [expandRest_plain hread, expandRest_plain hread, map_mapError, ih (Nat.le_trans hle h)]
  | constant hread ih =>
    have hle := (reads_iff.2 hread).rest_suffix.length_le
    rw [expandRest_constant hread, expandRest_constant hread, map_mapError, ih (Nat.le_trans hle h)]
  | @call c t m inner rest hread _ ih =>
    have hr := reads_iff.2 hread
    have hle := hr.rest_suffix.length_le
    rw [expandRest_call hread, expandRest_call hread, ih (Nat.le_trans hle h), column_add_size h,
      if_neg (by decide), if_neg (by decide)]
    cases hall : tbl.expandAll (0 + 1) (Arguments.split inner) with
    | error e =>
      simp only [if_true, hr.atColumn_of_expandAll hall]
      rfl
    | ok args => exact map_mapError.symm
  | unclosed hread =>
    rw [expandRest_unclosed hread, expandRest_unclosed hread, column_add_size h]
    rfl

/-- What a text gives that is cut after a part which expands. -/
theorem expand_append_eq (h : tbl.expand a = .ok out) (hb : CleanCut tbl a b) :
    tbl.expand (a ++ b) = ((tbl.expand b).mapError (Failure.movedBy a.length)).map (out ++ ·) := by
  have hclosed : tbl.closed a = true := (expandRest_eq_ok_iff.1 h).1.closed
  have hsize : (a ++ b).length = a.length + b.length := List.length_append
  rw [expand, expandInside, hsize, expandRest_append hb (Or.inl hclosed), Nat.add_comm,
    expandRest_add_size (Nat.le_refl b.length)]
  have ha : tbl.expandRest 0 a.length a = .ok out := h
  rw [ha]
  rfl

/-- **Cutting at a safe place.** Let the first part of a text expand, and the
cut neither run through a word nor tear a call from its argument list. Then the
whole expands to what the parts expand to, and if the second part fails the
whole fails in the same way, further on by the length of the first. -/
theorem expand_append (h : tbl.expand a = .ok out) (hb : CleanCut tbl a b) :
    (∀ out', tbl.expand b = .ok out' → tbl.expand (a ++ b) = .ok (out ++ out')) ∧
      ∀ e, tbl.expand b = .error e →
        tbl.expand (a ++ b) = .error { e with column := e.column + a.length } := by
  rw [expand_append_eq h hb]
  constructor
  · intro out' hout
    rw [hout]
    rfl
  · intro e he
    rw [he]
    rfl

/-- The first part ends in a macro that is not called, and the list after the
cut is none of its arguments. -/
theorem expand_append_bare :
    let tbl : Table := { entries :=
      [{ name := ['f'], parameters := [['x']], body := "[x]".toList },
        { name := ['k'], body := ['v'] }] }
    let a := "k f(k, k) f".toList
    let b := " (k) f(f(2)".toList
    tbl.expand a = .ok "v [v] f".toList ∧ CleanCut tbl a b ∧
      tbl.expand b = .error { column := 6, fault := .unclosedArguments ['f'] } ∧
        tbl.expand (a ++ b) = .error { column := 17, fault := .unclosedArguments ['f'] } := by
  have ha : ({ entries := [{ name := ['f'], parameters := [['x']], body := "[x]".toList },
      { name := ['k'], body := ['v'] }] } : Table).expand "k f(k, k) f".toList =
        .ok "v [v] f".toList := by decide +kernel
  have hb : ({ entries := [{ name := ['f'], parameters := [['x']], body := "[x]".toList },
      { name := ['k'], body := ['v'] }] } : Table).expand " (k) f(f(2)".toList =
        .error { column := 6, fault := .unclosedArguments ['f'] } := by decide +kernel
  have hcut : ∀ tbl : Table, CleanCut tbl "k f(k, k) f".toList " (k) f(f(2)".toList := by
    refine fun tbl => ⟨fun c _ d hd => Or.inr ?_, fun _ _ _ _ _ _ _ => by decide⟩
    obtain rfl : ' ' = d := Option.some.inj hd
    decide
  exact ⟨ha, hcut _, hb, (expand_append ha (hcut _)).2 _ hb⟩

end Table

end LineMacro
