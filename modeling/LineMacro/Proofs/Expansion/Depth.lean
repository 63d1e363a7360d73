import LineMacro.Proofs.Expansion.OnePass
/-!
# Expansion — how deep is too deep

The expander compares the limit with the depth of the call it stands at, and
not with the height of the tree below it. On a text whose calls are all closed
this comes to the nesting of the text (`expandInside_of_closed`): the arguments
of a closed call are balanced, so their calls are closed as well, and depth is
the only thing that can stop the pass.
-/

namespace LineMacro

namespace Table

variable {tbl : Table} {depth : Int} {size : Nat} {text out : Text} {m : Macro} {e : Failure}
variable {texts : List Text}

/-! ## What a closed text gives -/

theorem exists_expandsAll (h : ∀ a ∈ texts, ∃ b, Expands tbl a b) :
    ∃ args, ExpandsAll tbl texts args := by
  induction texts with
  | nil => exact ⟨[], .nil⟩
  | cons a texts ih =>
    obtain ⟨b, hb⟩ := h a List.mem_cons_self
    obtain ⟨bs, hbs⟩ := ih fun a' ha' => h a' (List.mem_cons_of_mem a ha')
    exact ⟨b :: bs, .cons hb hbs⟩

/-- A text whose calls are closed expands to something. -/
theorem exists_expands_of_closed (h : tbl.closed text = true) : ∃ out, Expands tbl text out := by
  induction text using reading_induction tbl with
  | nil => exact ⟨[], .nil⟩
  | plain hread ih =>
    rw [closed_plain hread] at h
    obtain ⟨o, ho⟩ := ih h
    exact ⟨_, (reads_iff.2 hread).expands ⟨o, ho, rfl⟩⟩
  | constant hread ih =>
    rw [closed_constant hread] at h
    obtain ⟨o, ho⟩ := ih h
    exact ⟨_, (reads_iff.2 hread).expands ⟨o, ho, rfl⟩⟩
  | call hread ihargs ih =>
    have hr := reads_iff.2 hread
    rw [closed_call hread] at h
    obtain ⟨o, ho⟩ := ih h
    obtain ⟨args, hargs⟩ := exists_expandsAll fun a ha => ihargs a ha (hr.closed_of_mem_split ha)
    exact ⟨_, hr.expands ⟨args, o, hargs, ho, rfl⟩⟩
  | unclosed hread =>
    rw [closed_unclosed hread] at h
    cases h

/-- **A closed text fails for its depth only.** The failure has no line, and
inside a call it has no column. -/
theorem tooDeep_of_closed (h : tbl.closed text = true)
    (herr : tbl.expandRest depth size text = .error e) :
    (∃ name, e.fault = .tooDeep name) ∧ e.line = 0 ∧ (0 < depth → e.column = 0) := by
  induction text using reading_induction tbl generalizing depth size e with
  | nil =>
    rw [expandRest_nil] at herr
    cases herr
  | plain hread ih =>
    rw [closed_plain hread] at h
    rw [expandRest_plain hread, Failure.map_eq_error_iff] at herr
    exact ih h herr
  | constant hread ih =>
    rw [closed_constant hread] at h
    rw [expandRest_constant hread, Failure.map_eq_error_iff] at herr
    exact ih h herr
  | call hread ihargs ih =>
    rw [closed_call hread] at h
    obtain ⟨-, rfl⟩ | ⟨-, ⟨e', hall, rfl⟩ | ⟨-, hrest⟩⟩ :=
      (expandRest_call_eq_error_iff hread).1 herr
    · exact ⟨⟨_, rfl⟩, rfl, fun _ => rfl⟩
    · obtain ⟨a, ha, harg⟩ := exists_mem_of_expandAll_eq_error hall
      have hclosed := (reads_iff.2 hread).closed_of_mem_split ha
      obtain ⟨⟨name, hname⟩, hline, hcolumn⟩ := ihargs a ha hclosed harg
      -- only the outermost call fills in the column, and it stands at depth 0
      by_cases hd : depth = 0
      · rw [if_pos hd, Failure.atColumn_fault, Failure.atColumn_line]
        exact ⟨⟨name, hname⟩, hline, by omega⟩
      · rw [if_neg hd]
        exact ⟨⟨name, hname⟩, hline, fun hpos => hcolumn (by omega)⟩
    · exact ih h hrest
  | unclosed hread =>
    rw [closed_unclosed hread] at h
    cases h

/-- And it fails only where a call of it stands too deep. -/
theorem not_within_of_closed (h : tbl.closed text = true)
    (herr : tbl.expandRest depth size text = .error e) : ¬ Within depth (tbl.nesting text) := by
  intro hwithin
  obtain ⟨out, hout⟩ := exists_expands_of_closed h
  rw [expandRest_eq_ok_iff.2 ⟨hout, hwithin⟩] at herr
  cases herr

/-- **The limit is exact, and depth has no other effect.** A text whose calls
are all closed has one nesting, and there is one text that every depth gives
which gives any. A depth fails exactly where the chain of calls would reach
past the limit, and then because a call stands too deep. -/
theorem expandInside_of_closed (h : Closed tbl text) :
    ∃ n out, Nests tbl text n ∧ (∀ n', Nests tbl text n' → n' = n) ∧
      ∀ depth : Int,
        ((∃ e name, tbl.expandInside depth text = .error e ∧ e.fault = .tooDeep name) ↔
            0 < n ∧ nestingLimit < depth + n) ∧
          (tbl.expandInside depth text = .ok out ∨
            ∃ e name, tbl.expandInside depth text = .error e ∧ e.fault = .tooDeep name) := by
  have hclosed := h.eq_true
  obtain ⟨out, hout⟩ := exists_expands_of_closed hclosed
  refine ⟨tbl.nesting text, out, nests_of_closed hclosed, ?_, fun depth => ?_⟩
  · intro n' hn'
    exact (nests_iff.1 hn').2.symm
  have hok : tbl.expandInside depth text = .ok out ↔ Within depth (tbl.nesting text) := by
    rw [expandInside, expandRest_eq_ok_iff, and_iff_right hout]
  have hwithin : Within depth (tbl.nesting text) ↔
      ¬ (0 < tbl.nesting text ∧ nestingLimit < depth + tbl.nesting text) := by
    unfold Within
    omega
  by_cases hdeep : 0 < tbl.nesting text ∧ nestingLimit < depth + tbl.nesting text
  · -- too deep, so there is a failure, and a closed text has only this kind
    have hfails : ∃ e name, tbl.expandInside depth text = .error e ∧ e.fault = .tooDeep name := by
      cases hres : tbl.expandInside depth text with
      | ok o =>
        exact absurd hdeep (hwithin.1 (expandRest_eq_ok_iff.1 hres).2)
      | error e =>
        obtain ⟨⟨name, hname⟩, -, -⟩ := tooDeep_of_closed hclosed hres
        exact ⟨e, name, rfl, hname⟩
    exact ⟨⟨fun _ => hdeep, fun _ => hfails⟩, Or.inr hfails⟩
  · have hgives := hok.2 (hwithin.2 hdeep)
    refine ⟨⟨?_, fun h => absurd h hdeep⟩, Or.inl hgives⟩
    rintro ⟨e, name, herr, -⟩
    rw [hgives] at herr
    cases herr

/-- The longest chain of calls is hidden in an argument that the macro has no
parameter for, and ends in a call without arguments. -/
theorem expandInside_of_closed_surplus :
    let tbl : Table := { entries := [{ name := ['f'], parameters := [['x']], body := ['x'] }] }
    let text := "f(1) f(f(2), f(f( )))".toList
    Closed tbl text ∧ Nests tbl text 3 ∧
      ∃ n out, Nests tbl text n ∧ (∀ n', Nests tbl text n' → n' = n) ∧
        ∀ depth : Int,
          ((∃ e name, tbl.expandInside depth text = .error e ∧ e.fault = .tooDeep name) ↔
              0 < n ∧ nestingLimit < depth + n) ∧
            (tbl.expandInside depth text = .ok out ∨
              ∃ e name, tbl.expandInside depth text = .error e ∧ e.fault = .tooDeep name) := by
  have hclosed : ({ entries := [{ name := ['f'], parameters := [['x']], body := ['x'] }] } :
      Table).closed "f(1) f(f(2), f(f( )))".toList = true := by decide +kernel
  have hnesting : ({ entries := [{ name := ['f'], parameters := [['x']], body := ['x'] }] } :
      Table).nesting "f(1) f(f(2), f(f( )))".toList = 3 := by decide +kernel
  exact ⟨closed_iff.1 hclosed, nests_iff.2 ⟨hclosed, hnesting⟩,
    expandInside_of_closed (closed_iff.1 hclosed)⟩

end Table

end LineMacro
