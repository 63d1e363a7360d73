import LineMacro.Proofs.Arguments.Heights
/-!
# Argument lists — the arguments of a list

A list that is balanced is cut in one way only: into balanced pieces without a
comma of their own, which the separating commas join again
(`cut_eq_iff`). So splitting a balanced list gives exactly what the list holds
(`split_eq_iff_lists`), and every argument is balanced again
(`balanced_of_mem_split`). Balanced or not, a list has its arguments between
commas and blanks (`exists_of_mem_split`).
-/

namespace LineMacro

namespace Arguments

variable {depth : Int} {inner t : Text} {args ps : List Text}

/-! ## Cutting and joining -/

/-- Joining the pieces with commas gives the text back. -/
theorem intercalate_cut (depth : Int) (t : Text) : [','].intercalate (cut depth t) = t := by
  induction t generalizing depth with
  | nil => rfl
  | cons c t ih =>
    rw [cut]
    split
    · rename_i h
      rw [List.intercalate_cons_of_ne_nil (cut_ne_nil depth t), ih, h.1]
      rfl
    · have hjoin := ih (depth + depthChange c)
      have hne := cut_ne_nil (depth + depthChange c) t
      cases hcut : cut (depth + depthChange c) t with
      | nil => exact absurd hcut hne
      | cons a l =>
        rw [hcut] at hjoin
        rw [List.modifyHead_cons, List.intercalate_cons_cons_left, hjoin]

/-- A text without separating commas is a single piece. -/
theorem cut_of_commaFreeAt (h : CommaFreeAt depth t) : cut depth t = [t] := by
  induction t generalizing depth with
  | nil => rfl
  | cons c t ih =>
    obtain ⟨hc, ht⟩ := commaFreeAt_cons.1 h
    rw [cut, if_neg hc, ih ht]
    rfl

/-- The first piece ends at the first comma that stands at depth zero. -/
theorem cut_append_comma {q : Text} (hq : CommaFreeAt depth q) (hd : depth + height q = 0) :
    cut depth (q ++ ',' :: t) = q :: cut 0 t := by
  induction q generalizing depth with
  | nil =>
    rw [height_nil] at hd
    obtain rfl : depth = 0 := by omega
    rw [List.nil_append, cut, if_pos ⟨rfl, rfl⟩]
  | cons c q ih =>
    obtain ⟨hc, hq⟩ := commaFreeAt_cons.1 hq
    rw [height_cons] at hd
    rw [List.cons_append, cut, if_neg hc, ih hq (by omega)]
    rfl

/-- **Cutting undoes joining**, for pieces that are balanced and have no comma
of their own. -/
theorem cut_intercalate (hne : ps ≠ []) (hps : ∀ p ∈ ps, Balanced p ∧ CommaFree p) :
    cut 0 ([','].intercalate ps) = ps := by
  induction ps with
  | nil => exact absurd rfl hne
  | cons p ps ih =>
    obtain ⟨hb, hc⟩ := hps p List.mem_cons_self
    rw [commaFree_iff_commaFreeAt] at hc
    cases ps with
    | nil =>
      rw [List.intercalate_singleton]
      exact cut_of_commaFreeAt hc
    | cons q ps =>
      rw [List.intercalate_cons_cons, List.append_assoc, List.singleton_append,
        cut_append_comma hc (by rw [hb.level]; rfl),
        ih (by simp) fun r hr => hps r (List.mem_cons_of_mem p hr)]

/-- The pieces of a text read from the depth it balances: the first carries the
depth down to zero, and the others are balanced on their own. -/
theorem forall_mem_cut (h : BalancedAt depth t) :
    ∃ q ps, cut depth t = q :: ps ∧ BalancedAt depth q ∧ CommaFreeAt depth q ∧
      ∀ p ∈ ps, Balanced p ∧ CommaFree p := by
  induction t generalizing depth with
  | nil => exact ⟨[], [], rfl, h, commaFreeAt_nil, by simp⟩
  | cons c t ih =>
    obtain ⟨h0, ht⟩ := balancedAt_cons.1 h
    rw [cut]
    split
    · rename_i hc
      obtain ⟨rfl, rfl⟩ := hc
      obtain ⟨q, ps, hcut, hb, hf, hps⟩ := ih ht
      refine ⟨[], q :: ps, congrArg _ hcut, balancedAt_nil.2 rfl, commaFreeAt_nil, ?_⟩
      rw [List.forall_mem_cons]
      exact ⟨⟨balanced_iff_balancedAt.2 hb, commaFree_iff_commaFreeAt.2 hf⟩, hps⟩
    · rename_i hc
      obtain ⟨q, ps, hcut, hb, hf, hps⟩ := ih ht
      refine ⟨c :: q, ps, ?_, balancedAt_cons.2 ⟨h0, hb⟩, commaFreeAt_cons.2 ⟨hc, hf⟩, hps⟩
      rw [hcut, List.modifyHead_cons]

/-- **What a balanced list is cut into**: the balanced pieces without commas
that make it up. -/
theorem cut_eq_iff (h : Balanced inner) :
    cut 0 inner = ps ↔
      ps ≠ [] ∧ inner = [','].intercalate ps ∧ ∀ p ∈ ps, Balanced p ∧ CommaFree p := by
  constructor
  · rintro rfl
    refine ⟨cut_ne_nil 0 inner, (intercalate_cut 0 inner).symm, ?_⟩
    obtain ⟨q, ps, hcut, hb, hf, hps⟩ := forall_mem_cut (balanced_iff_balancedAt.1 h)
    rw [hcut, List.forall_mem_cons]
    exact ⟨⟨balanced_iff_balancedAt.2 hb, commaFree_iff_commaFreeAt.2 hf⟩, hps⟩
  · rintro ⟨hne, rfl, hps⟩
    exact cut_intercalate hne hps

/-! ## Trimming and splitting -/

theorem isAllBlank_eq_true_iff : Text.isAllBlank t = true ↔ ∀ c ∈ t, Text.isBlank c = true :=
  List.all_eq_true

/-- A list that is not blank has pieces. -/
theorem ne_nil_of_not_blank (h : ∃ c ∈ [','].intercalate ps, Text.isBlank c = false) :
    ps ≠ [] := by
  rintro rfl
  obtain ⟨c, hc, -⟩ := h
  exact absurd hc (by simp)

/-- **Splitting a balanced list** gives what the list holds. -/
theorem split_eq_iff_lists (h : Balanced inner) : split inner = args ↔ Lists inner args := by
  rw [split]
  constructor
  · rintro rfl
    split
    · rename_i hb
      exact .blank (isAllBlank_eq_true_iff.1 hb)
    · rename_i hb
      obtain ⟨-, hjoin, hps⟩ := (cut_eq_iff h).1 rfl
      refine .pieces ?_ hjoin hps
      simpa [Text.isAllBlank] using hb
  · intro hl
    cases hl with
    | blank hb => rw [if_pos (isAllBlank_eq_true_iff.2 hb)]
    | pieces hb hjoin hps =>
      have hn : ¬ Text.isAllBlank inner = true := by
        rw [isAllBlank_eq_true_iff]
        obtain ⟨c, hc, hcb⟩ := hb
        exact fun hall => absurd (hall c hc) (by rw [hcb]; decide)
      rw [if_neg hn, (cut_eq_iff h).2 ⟨ne_nil_of_not_blank (hjoin ▸ hb), hjoin, hps⟩]

/-- The arguments of a balanced list are pieces of it, trimmed. -/
theorem piece_of_mem_split (h : Balanced inner) {a : Text} (ha : a ∈ split inner) :
    Balanced a ∧ CommaFree a := by
  have hl : Lists inner (split inner) := (split_eq_iff_lists h).1 rfl
  generalize split inner = args at ha hl
  cases hl with
  | blank => exact absurd ha List.not_mem_nil
  | pieces _ _ hps =>
    obtain ⟨p, hp, rfl⟩ := List.mem_map.1 ha
    have hpad := Text.pads_trim p
    exact ⟨(balanced_iff_of_pads hpad).1 (hps p hp).1, (commaFree_iff_of_pads hpad).1 (hps p hp).2⟩

theorem balanced_of_mem_split (h : Balanced inner) {a : Text} (ha : a ∈ split inner) :
    Balanced a :=
  (piece_of_mem_split h ha).1

/-! ## Where an argument stands -/

/-- Pieces joined by commas stand between commas. -/
theorem exists_of_mem_intercalate {p : Text} (h : p ∈ ps) :
    ∃ before after, [','].intercalate ps = before ++ (p ++ after) ∧
      (∀ c ∈ before.getLast?, c = ',') ∧ ∀ c ∈ after.head?, c = ',' := by
  induction ps with
  | nil => exact absurd h List.not_mem_nil
  | cons q ps ih =>
    rcases List.mem_cons.1 h with rfl | hmem
    · cases ps with
      | nil => exact ⟨[], [], by simp, by simp, by simp⟩
      | cons r ps =>
        refine ⟨[], ',' :: [','].intercalate (r :: ps), ?_, by simp, by simp⟩
        rw [List.intercalate_cons_cons, List.append_assoc]
        rfl
    · -- a comma follows the first piece, so one stands before the others
      obtain ⟨before, after, hjoin, hbefore, hafter⟩ := ih hmem
      refine ⟨q ++ ',' :: before, after, ?_, fun c hc => ?_, hafter⟩
      · rw [List.intercalate_cons_of_ne_nil (List.ne_nil_of_mem hmem), hjoin]
        simp
      · rw [List.getLast?_append, List.getLast?_cons] at hc
        cases hlast : before.getLast? with
        | none => simpa [hlast, eq_comm] using hc
        | some d => exact hbefore c (by simpa [hlast] using hc)

/-- **Where an argument stands**: in its list, between commas and blanks or the
ends. -/
theorem exists_of_mem_split {a : Text} (h : a ∈ split inner) :
    ∃ before after, inner = before ++ (a ++ after) ∧
      (∀ c ∈ before.getLast?, c = ',' ∨ Text.isBlank c = true) ∧
        ∀ c ∈ after.head?, c = ',' ∨ Text.isBlank c = true := by
  rw [split] at h
  split at h
  · exact absurd h List.not_mem_nil
  · obtain ⟨p, hp, rfl⟩ := List.mem_map.1 h
    obtain ⟨before, after, hjoin, hbefore, hafter⟩ := exists_of_mem_intercalate hp
    obtain ⟨lead, trail, htrim, hlead, htrail⟩ := Text.exists_trim_append p
    rw [intercalate_cut] at hjoin
    refine ⟨before ++ lead, trail ++ after, ?_, fun c hc => ?_, fun c hc => ?_⟩
    · calc
        inner = before ++ (p ++ after) := hjoin
        _ = before ++ (lead ++ Text.trim p ++ trail ++ after) := by rw [← htrim]
        _ = before ++ lead ++ (Text.trim p ++ (trail ++ after)) := by simp
    · rw [List.getLast?_append, Option.mem_def, Option.or_eq_some_iff] at hc
      rcases hc with hc | ⟨-, hc⟩
      · exact Or.inr (hlead c (List.mem_of_getLast? hc))
      · exact Or.inl (hbefore c hc)
    · rw [List.head?_append, Option.mem_def, Option.or_eq_some_iff] at hc
      rcases hc with hc | ⟨-, hc⟩
      · exact Or.inr (htrail c (List.mem_of_head? hc))
      · exact Or.inl (hafter c hc)

end Arguments

end LineMacro
