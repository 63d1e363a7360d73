import LineMacro.Text.Blank
import LineMacro.Text.Cell
/-!
# Text — cells of texts put together

The cells that a text takes behind another one depend on a single character of it,
the one that a selector might still widen (`cellsAfter_append`). So the cells of two
texts add up where the first ends in a blank, and where the second starts with a
character that takes a cell. Where no joiner is, the clusters of a text are such texts,
all but the first, and so their cells add up to those of the text
(`CanFollow.cells_append`). Chopping it between them loses nothing and leaves no piece too
wide (`flatten_chop`, `cells_le_of_mem_chop`), and cropping it takes nothing but blanks
where there was room for all before them (`withoutBlanks_crop`).
-/

namespace LineMacro

namespace Text

open Cell

variable {last : Option Char} {c : Char} {s t : Text} {k : Cluster} {ks : List Cluster}
variable {room used : Nat}

/-! ## The character that a selector may widen -/

/-- The character of a text that a selector behind it would widen, if it can be;
`last` is that of what stands before. -/
def lastAfter (last : Option Char) : Text → Option Char
  | [] => last
  | c :: t =>
    if c = selector then lastAfter none t
    else if width c = 0 then lastAfter last t
    else lastAfter (some c) t

theorem ne_joiner_of_width_ne_zero (h : width c ≠ 0) : c ≠ joiner := by
  rintro rfl
  exact h rfl

theorem ne_selector_of_width_ne_zero (h : width c ≠ 0) : c ≠ selector := by
  rintro rfl
  exact h rfl

theorem width_le_two (c : Char) : width c ≤ 2 := by
  unfold width
  split
  · omega
  · split
    · omega
    · split <;> omega

/-- The ranges of what a selector widens have nothing in common with those of what
takes no cell. -/
theorem disjoint_of_mem_selectable :
    ∀ r ∈ selectable, ∀ z ∈ zeroBasic ++ zeroBeyond, r.2 < z.1 ∨ z.2 < r.1 := by
  -- there are tens of thousands of pairs, and comparing them by `Nat.blt` is fastest
  have hall : (selectable.all fun r => (zeroBasic ++ zeroBeyond).all fun z =>
      Nat.blt r.2 z.1 || Nat.blt z.2 r.1) = true := by decide +kernel
  intro r hr z hz
  simpa using List.all_eq_true.1 (List.all_eq_true.1 hall r hr) z hz

/-- What takes no cell is not widened. -/
theorem isSelectable_of_width_eq_zero (h : width c = 0) : isSelectable c = false := by
  rw [Bool.eq_false_iff]
  intro hselectable
  obtain ⟨r, hr, hin⟩ := List.any_eq_true.1 hselectable
  have hzero : within (zeroBasic ++ zeroBeyond) c = true := by
    rw [within, List.any_append, ← within, ← within]
    unfold width at h
    split at h
    · cases h
    · split at h
      · assumption
      · split at h <;> cases h
  obtain ⟨z, hz, hin'⟩ := List.any_eq_true.1 hzero
  rw [Bool.and_eq_true, decide_eq_true_eq, decide_eq_true_eq] at hin hin'
  have hdisjoint := disjoint_of_mem_selectable r hr z hz
  omega

/-- Nor is a blank. -/
theorem isSelectable_of_isBlank (h : isBlank c = true) : isSelectable c = false := by
  rw [Bool.eq_false_iff]
  intro hselectable
  obtain ⟨r, hr, hin⟩ := List.any_eq_true.1 hselectable
  have hnone : ∀ r ∈ selectable, ∀ b ∈ [(0x09, 0x0D), (0x1C, 0x20), (0x85, 0x85), (0xA0, 0xA0),
      (0x1680, 0x1680), (0x2000, 0x200A), (0x2028, 0x2029), (0x202F, 0x202F), (0x205F, 0x205F),
      (0x3000, 0x3000)], r.2 < b.1 ∨ b.2 < r.1 := by decide +kernel
  have hdisjoint := hnone r hr
  simp only [List.forall_mem_cons, List.not_mem_nil, false_implies, implies_true] at hdisjoint
  rw [Bool.and_eq_true, decide_eq_true_eq, decide_eq_true_eq] at hin
  simp only [isBlank, Bool.or_eq_true, Bool.and_eq_true, decide_eq_true_eq, beq_iff_eq] at h
  omega

/-! ## Cells add up -/

theorem cellsAfter_cons (h : c ≠ joiner) :
    cellsAfter last (c :: t) =
      if c = selector then (if last.any isSelectable then 1 else 0) + cellsAfter none t
      else if width c = 0 then cellsAfter last t
      else width c + cellsAfter (some c) t := by
  rw [cellsAfter.eq_def]
  exact if_neg h

/-- **What stands before counts for one character.** -/
theorem cellsAfter_append (h : joiner ∉ s) (last : Option Char) (t : Text) :
    cellsAfter last (s ++ t) = cellsAfter last s + cellsAfter (lastAfter last s) t := by
  induction s generalizing last with
  | nil => exact (Nat.zero_add _).symm
  | cons c s ih =>
    rw [List.mem_cons, not_or] at h
    rw [List.cons_append, cellsAfter_cons fun hc => h.1 hc.symm,
      cellsAfter_cons fun hc => h.1 hc.symm, lastAfter, ih h.2, ih h.2, ih h.2]
    split
    · rw [Nat.add_assoc]
    · split
      · rfl
      · rw [Nat.add_assoc]

/-- And for no more than whether it can be widened. -/
theorem cellsAfter_of_not_selectable (h : last.any isSelectable = false) (t : Text) :
    cellsAfter last t = cells t := by
  fun_induction cellsAfter last t with
  | case1 => rfl
  | case2 => rfl
  | case3 last d t ih => rw [ih h, cells, cells, cellsAfter, if_pos rfl]
  | case4 last t _ ih =>
    rw [cells, cellsAfter_cons (by decide), if_pos rfl, h]
    rfl
  | case5 last c t hjoiner hselector hzero ih =>
    rw [ih h, cells, cells, cellsAfter_cons hjoiner, if_neg hselector, if_pos hzero]
  | case6 last c t hjoiner hselector hzero ih =>
    rw [cells, cellsAfter_cons hjoiner, if_neg hselector, if_neg hzero]

theorem lastAfter_append (last : Option Char) (s t : Text) :
    lastAfter last (s ++ t) = lastAfter (lastAfter last s) t := by
  induction s generalizing last with
  | nil => rfl
  | cons c s ih =>
    rw [List.cons_append, lastAfter, lastAfter, ih, ih, ih]
    split
    · rfl
    · split <;> rfl

theorem cellsAfter_of_width_ne_zero (h : width c ≠ 0) (last : Option Char) (t : Text) :
    cellsAfter last (c :: t) = width c + cellsAfter (some c) t := by
  rw [cellsAfter_cons (ne_joiner_of_width_ne_zero h), if_neg (ne_selector_of_width_ne_zero h),
    if_neg h]

/-- **Cells add up** before a character that takes one. -/
theorem cells_append_cons (hs : joiner ∉ s) (hc : width c ≠ 0) (t : Text) :
    cells (s ++ c :: t) = cells s + cells (c :: t) := by
  rw [cells, cellsAfter_append hs, cellsAfter_of_width_ne_zero hc, cells, cells,
    cellsAfter_of_width_ne_zero hc]

/-- The last character is a blank, if there is one. -/
def EndsInBlank (t : Text) : Prop := ∀ c ∈ t.getLast?, isBlank c = true

/-- No character is a joiner, and no blank takes no cell: how many cells a word takes
does then not depend on the words before it. -/
def Steady (t : Text) : Prop := ∀ c ∈ t, c ≠ joiner ∧ (isBlank c = true → width c ≠ 0)

-- the characters of the text are gone through, not all characters
instance : DecidablePred Steady := fun t =>
  List.decidableBAll (fun c => c ≠ joiner ∧ (isBlank c = true → width c ≠ 0)) t

theorem Steady.not_mem (h : Steady t) : joiner ∉ t := fun hmem => (h _ hmem).1 rfl

theorem Steady.subset (h : Steady t) (hs : s ⊆ t) : Steady s := fun c hc => h c (hs hc)

theorem Steady.append (hs : Steady s) (ht : Steady t) : Steady (s ++ t) :=
  List.forall_mem_append.2 ⟨hs, ht⟩

/-- **Cells add up** behind a blank. -/
theorem cells_append_of_endsInBlank (hs : Steady s) (hend : EndsInBlank s) (t : Text) :
    cells (s ++ t) = cells s + cells t := by
  rcases List.eq_nil_or_concat s with rfl | ⟨s', b, rfl⟩
  · exact (Nat.zero_add _).symm
  · rw [List.concat_eq_append] at hs hend ⊢
    have hblank : isBlank b = true := hend b (by simp)
    have hwidth : width b ≠ 0 := (hs b (by simp)).2 hblank
    have hlast : lastAfter none (s' ++ [b]) = some b := by
      rw [lastAfter_append, lastAfter, if_neg (ne_selector_of_width_ne_zero hwidth), if_neg hwidth,
        lastAfter]
    have hnot : (some b).any isSelectable = false := isSelectable_of_isBlank hblank
    rw [cells, cellsAfter_append hs.not_mem, hlast, cellsAfter_of_not_selectable hnot]
    rfl

/-- A text takes no fewer cells than its beginnings. -/
theorem cells_le_of_isPrefix (ht : joiner ∉ t) (h : s <+: t) : cells s ≤ cells t := by
  obtain ⟨u, rfl⟩ := h
  rw [cells, cells, cellsAfter_append fun hmem => ht (List.mem_append_left u hmem)]
  exact Nat.le_add_right _ _

/-! ## Clusters -/

namespace Cluster

/-- What is noted of a cluster is true of its text. -/
structure IsMeasured (k : Cluster) : Prop where
  noJoiner : joiner ∉ k.text
  cells_eq : k.cells = Text.cells k.text
  widens_eq : k.widens = (lastAfter none k.text).any isSelectable
  /-- A cluster takes three cells at most, and two as long as it can be widened. -/
  cells_le : k.cells + (if k.widens then 1 else 0) ≤ 3

/-- A cluster starts with a character that takes a cell. -/
def StartsAnew (k : Cluster) : Prop := ∃ c t, k.text = c :: t ∧ width c ≠ 0

theorem isMeasured_ofChar (hc : c ≠ joiner) : (ofChar c).IsMeasured where
  noJoiner := by simpa using fun h : joiner = c => hc h.symm
  cells_eq := by
    rw [ofChar, Text.cells, cellsAfter_cons hc]
    dsimp only
    split
    · rename_i hselector
      rw [hselector]
      rfl
    · split
      · assumption
      · rfl
  widens_eq := by
    rw [ofChar, lastAfter, lastAfter, lastAfter]
    dsimp only
    split
    · rename_i hselector
      rw [hselector]
      rfl
    · split
      · rename_i hzero
        exact isSelectable_of_width_eq_zero hzero
      · rfl
  cells_le := by
    have hwidth := width_le_two c
    rw [ofChar]
    dsimp only
    split <;> omega

/-- **Step.** A character that takes no cell clings to a cluster. -/
theorem IsMeasured.add (h : k.IsMeasured) (hc : c ≠ joiner) (hzero : width c = 0) :
    (k.add c).IsMeasured := by
  have hle := h.cells_le
  have hcells : Text.cells (k.text ++ [c]) =
      k.cells + if c = selector ∧ k.widens = true then 1 else 0 := by
    rw [Text.cells, cellsAfter_append h.noJoiner, ← Text.cells, ← h.cells_eq, cellsAfter_cons hc,
      ← h.widens_eq]
    by_cases hselector : c = selector <;> simp [hselector, hzero, cellsAfter]
  have hlast : lastAfter none (k.text ++ [c]) =
      if c = selector then none else lastAfter none k.text := by
    rw [lastAfter_append, lastAfter, lastAfter, lastAfter, if_pos hzero]
  have hjoiner : joiner ∉ k.text ++ [c] := by
    simpa [h.noJoiner] using fun heq : joiner = c => hc heq.symm
  unfold Cluster.add
  split
  · rename_i hwidens
    rw [Bool.and_eq_true, decide_eq_true_eq] at hwidens
    rw [if_pos hwidens.1] at hle
    refine ⟨hjoiner, ?_, ?_, ?_⟩
    · rw [hcells, if_pos ⟨hwidens.2, hwidens.1⟩]
    · rw [hlast, if_pos hwidens.2]
      rfl
    · simpa using hle
  · rename_i hwidens
    rw [Bool.and_eq_true, decide_eq_true_eq, not_and] at hwidens
    refine ⟨hjoiner, ?_, ?_, hle⟩
    · rw [hcells, if_neg fun hboth => hwidens hboth.2 hboth.1, Nat.add_zero]
    · rw [hlast]
      split
      · rename_i hselector
        exact Bool.eq_false_iff.2 fun hopen => hwidens hopen hselector
      · exact h.widens_eq

theorem StartsAnew.add (h : k.StartsAnew) (c : Char) : (k.add c).StartsAnew := by
  obtain ⟨d, t, htext, hd⟩ := h
  exact ⟨d, t ++ [c], by rw [text_add, htext, List.cons_append], hd⟩

theorem startsAnew_ofChar (h : width c ≠ 0) : (ofChar c).StartsAnew := ⟨c, [], rfl, h⟩

theorem StartsAnew.cells_append (h : k.StartsAnew) (hs : joiner ∉ s) (t : Text) :
    Text.cells (s ++ (k.text ++ t)) = Text.cells s + Text.cells (k.text ++ t) := by
  obtain ⟨c, u, htext, hc⟩ := h
  rw [htext, List.cons_append, cells_append_cons hs hc]

theorem StartsAnew.cells_pos (h : k.StartsAnew) (hk : k.IsMeasured) : 0 < k.cells := by
  obtain ⟨c, u, htext, hc⟩ := h
  rw [hk.cells_eq, htext, Text.cells, cellsAfter_of_width_ne_zero hc]
  omega

end Cluster

/-- Clusters that may stand behind another one. -/
def CanFollow (ks : List Cluster) : Prop := ∀ k ∈ ks, k.IsMeasured ∧ k.StartsAnew

/-- **The clusters of a text.** The first takes up what is open, the others start anew. -/
theorem exists_clustersFrom_eq (hk : k.IsMeasured) (ht : joiner ∉ t) :
    ∃ k' ks, clustersFrom k t = k' :: ks ∧ k'.IsMeasured ∧ (k.StartsAnew → k'.StartsAnew) ∧
      CanFollow ks := by
  fun_induction clustersFrom k t with
  | case1 k => exact ⟨k, [], rfl, hk, id, List.forall_mem_nil _⟩
  | case2 k => exact absurd List.mem_cons_self ht
  | case3 k d t ih => exact absurd List.mem_cons_self ht
  | case4 k c t hc hzero ih =>
    rw [List.mem_cons, not_or] at ht
    obtain ⟨k', ks, heq, hmeasured, hstarts, hfollow⟩ := ih (hk.add hc hzero) ht.2
    exact ⟨k', ks, heq, hmeasured, fun h => hstarts (h.add c), hfollow⟩
  | case5 k c t hc hzero ih =>
    rw [List.mem_cons, not_or] at ht
    obtain ⟨k', ks, heq, hmeasured, hstarts, hfollow⟩ := ih (Cluster.isMeasured_ofChar hc) ht.2
    rw [heq]
    exact ⟨k, k' :: ks, rfl, hk, id, List.forall_mem_cons.2
      ⟨⟨hmeasured, hstarts (Cluster.startsAnew_ofChar hzero)⟩, hfollow⟩⟩

/-- Clusters add up behind any text. -/
theorem CanFollow.cells_append (h : CanFollow ks) (hs : joiner ∉ s) :
    cells (s ++ ks.flatMap Cluster.text) = cells s + cells (ks.flatMap Cluster.text) := by
  cases ks with
  | nil => exact congrArg cells (List.append_nil s)
  | cons k ks => exact (h k List.mem_cons_self).2.cells_append hs _

theorem CanFollow.cells_cons (h : CanFollow (k :: ks)) :
    cells ((k :: ks).flatMap Cluster.text) = k.cells + cells (ks.flatMap Cluster.text) := by
  obtain ⟨⟨hmeasured, -⟩, hks⟩ := List.forall_mem_cons.1 h
  rw [List.flatMap_cons, CanFollow.cells_append hks hmeasured.noJoiner, hmeasured.cells_eq]

/-- A text has these clusters, a first one and others that follow it. -/
structure Clustered (t : Text) (k : Cluster) (ks : List Cluster) : Prop where
  clusters_eq : clusters t = k :: ks
  isMeasured : k.IsMeasured
  canFollow : CanFollow ks

theorem exists_clustered (ht : joiner ∉ t) (hne : t ≠ []) : ∃ k ks, Clustered t k ks := by
  cases t with
  | nil => exact absurd rfl hne
  | cons c t =>
    rw [List.mem_cons, not_or] at ht
    obtain ⟨k, ks, heq, hmeasured, -, hfollow⟩ :=
      exists_clustersFrom_eq (Cluster.isMeasured_ofChar fun hc => ht.1 hc.symm) ht.2
    exact ⟨k, ks, heq, hmeasured, hfollow⟩

theorem Clustered.text_eq (h : Clustered t k ks) : k.text ++ ks.flatMap Cluster.text = t := by
  rw [← List.flatMap_cons, ← h.clusters_eq, flatMap_text_clusters]

theorem Clustered.cells_eq (h : Clustered t k ks) :
    cells t = k.cells + cells (ks.flatMap Cluster.text) := by
  rw [← h.text_eq, h.canFollow.cells_append h.isMeasured.noJoiner, h.isMeasured.cells_eq]

/-- A character that takes a cell starts another cluster. -/
theorem clustersFrom_append_cons (hs : joiner ∉ s) (hc : width c ≠ 0) (k : Cluster) (t : Text) :
    clustersFrom k (s ++ c :: t) = clustersFrom k s ++ clustersFrom (.ofChar c) t := by
  fun_induction clustersFrom k s with
  | case1 k =>
    rw [List.nil_append, clustersFrom.eq_def]
    dsimp only
    rw [if_neg (ne_joiner_of_width_ne_zero hc), if_neg hc]
    rfl
  | case2 k => exact absurd List.mem_cons_self hs
  | case3 k d s ih => exact absurd List.mem_cons_self hs
  | case4 k d s hd hzero ih =>
    rw [List.mem_cons, not_or] at hs
    rw [List.cons_append, clustersFrom.eq_def]
    dsimp only
    rw [if_neg hd, if_pos hzero, ih hs.2]
  | case5 k d s hd hzero ih =>
    rw [List.mem_cons, not_or] at hs
    rw [List.cons_append, clustersFrom.eq_def]
    dsimp only
    rw [if_neg hd, if_neg hzero, ih hs.2, List.cons_append]

theorem clusters_append_cons (hs : joiner ∉ s) (hne : s ≠ []) (hc : width c ≠ 0) (t : Text) :
    clusters (s ++ c :: t) = clusters s ++ clusters (c :: t) := by
  cases s with
  | nil => exact absurd rfl hne
  | cons d s =>
    rw [List.mem_cons, not_or] at hs
    exact clustersFrom_append_cons hs.2 hc _ t

/-! ## Chopping -/

/-- **Chopping loses nothing**, once something takes a cell. -/
theorem flatten_chopClusters (h : CanFollow ks) (hsome : 0 < used ∨ ks ≠ []) :
    (chopClusters room s used ks).flatten = s ++ ks.flatMap Cluster.text := by
  fun_induction chopClusters room s used ks with
  | case1 s => exact absurd hsome (by simp)
  | case2 s used hused => simp
  | case3 s used k ks hfull ih =>
    obtain ⟨⟨hmeasured, hstarts⟩, hks⟩ := List.forall_mem_cons.1 h
    rw [List.flatten_cons, ih hks (Or.inl (hstarts.cells_pos hmeasured)), List.flatMap_cons]
  | case4 s used k ks hfull ih =>
    obtain ⟨⟨hmeasured, hstarts⟩, hks⟩ := List.forall_mem_cons.1 h
    have hpos := hstarts.cells_pos hmeasured
    rw [ih hks (Or.inl (by omega)), List.flatMap_cons, List.append_assoc]

/-- **No piece is too wide.** -/
theorem cells_le_of_mem_chopClusters (hroom : 3 ≤ room) (h : CanFollow ks) (hs : joiner ∉ s)
    (hused : cells s = used) (hle : used ≤ room) :
    ∀ p ∈ chopClusters room s used ks, cells p ≤ room := by
  fun_induction chopClusters room s used ks with
  | case1 s => exact List.forall_mem_nil _
  | case2 s used hused' =>
    rw [List.forall_mem_singleton, hused]
    exact hle
  | case3 s used k ks hfull ih =>
    obtain ⟨⟨hmeasured, hstarts⟩, hks⟩ := List.forall_mem_cons.1 h
    have hcells := hmeasured.cells_le
    refine List.forall_mem_cons.2 ⟨hused ▸ hle, ?_⟩
    exact ih hks hmeasured.noJoiner hmeasured.cells_eq.symm (by omega)
  | case4 s used k ks hfull ih =>
    obtain ⟨⟨hmeasured, hstarts⟩, hks⟩ := List.forall_mem_cons.1 h
    have hcells : cells (s ++ k.text) = used + k.cells := by
      rw [← List.append_nil k.text, hstarts.cells_append hs, List.append_nil, hused,
        hmeasured.cells_eq]
    have hjoiner : joiner ∉ s ++ k.text := by simp [hs, hmeasured.noJoiner]
    exact ih hks hjoiner hcells (by omega)

theorem Clustered.chop_eq (hroom : 3 ≤ room) (h : Clustered t k ks) :
    chop room t = chopClusters room k.text k.cells ks := by
  have hle := h.isMeasured.cells_le
  rw [chop, h.clusters_eq, chopClusters, if_neg (by omega), List.nil_append, Nat.zero_add]

theorem flatten_chop (hroom : 3 ≤ room) (ht : joiner ∉ t) (hpos : 0 < cells t) :
    (chop room t).flatten = t := by
  have hne : t ≠ [] := by
    rintro rfl
    exact absurd hpos (by decide)
  obtain ⟨k, ks, h⟩ := exists_clustered ht hne
  -- if the first cluster takes no cell there is another one
  have hsome : 0 < k.cells ∨ ks ≠ [] := by
    rcases Nat.eq_zero_or_pos k.cells with hzero | hfirst
    · refine Or.inr fun hnone => ?_
      rw [h.cells_eq, hzero, hnone] at hpos
      exact absurd hpos (by decide)
    · exact Or.inl hfirst
  rw [h.chop_eq hroom, flatten_chopClusters h.canFollow hsome, h.text_eq]

theorem cells_le_of_mem_chop (hroom : 3 ≤ room) (ht : joiner ∉ t) :
    ∀ p ∈ chop room t, cells p ≤ room := by
  by_cases hne : t = []
  · rw [hne]
    exact List.forall_mem_nil _
  · obtain ⟨k, ks, h⟩ := exists_clustered ht hne
    have hle := h.isMeasured.cells_le
    rw [h.chop_eq hroom]
    exact cells_le_of_mem_chopClusters hroom h.canFollow h.isMeasured.noJoiner
      h.isMeasured.cells_eq.symm (by omega)

/-! ## Cropping -/

/-- What can be seen of a text. -/
def withoutBlanks (t : Text) : Text := t.filter fun c => !isBlank c

theorem withoutBlanks_append (s t : Text) :
    withoutBlanks (s ++ t) = withoutBlanks s ++ withoutBlanks t := List.filter_append ..

theorem withoutBlanks_of_blanks (h : ∀ c ∈ t, isBlank c = true) : withoutBlanks t = [] := by
  rw [withoutBlanks, List.filter_eq_nil_iff]
  intro c hc
  simp [h c hc]

/-- Clusters for which there is room are kept. -/
theorem cropClusters_append (h : CanFollow ks) (hroom : cells (ks.flatMap Cluster.text) ≤ room)
    (ls : List Cluster) :
    cropClusters room (ks ++ ls) = ks.flatMap Cluster.text ++
      cropClusters (room - cells (ks.flatMap Cluster.text)) ls := by
  induction ks generalizing room with
  | nil => rfl
  | cons k ks ih =>
    obtain ⟨⟨hmeasured, hstarts⟩, hks⟩ := List.forall_mem_cons.1 h
    have hpos := hstarts.cells_pos hmeasured
    rw [h.cells_cons] at hroom ⊢
    rw [List.cons_append, cropClusters, if_neg (by omega), if_pos (by omega), ih hks (by omega),
      List.flatMap_cons, List.append_assoc, Nat.sub_sub]

/-- Cropping adds nothing but a space. -/
theorem mem_cropClusters (h : c ∈ cropClusters room ks) :
    c = ' ' ∨ c ∈ ks.flatMap Cluster.text := by
  fun_induction cropClusters room ks with
  | case1 => exact absurd h List.not_mem_nil
  | case2 => exact absurd h List.not_mem_nil
  | case3 room k ks _ _ ih =>
    rw [List.flatMap_cons, List.mem_append]
    rcases List.mem_append.1 h with h | h
    · exact Or.inr (Or.inl h)
    · exact (ih h).imp_right Or.inr
  | case4 => exact Or.inl (List.mem_singleton.1 h)

/-- **Cropping takes blanks only**, where there is room for all before them. -/
theorem withoutBlanks_crop (hroom : 3 ≤ room) (hs : Steady s) (ht : Steady t)
    (hblank : ∀ c ∈ t, isBlank c = true) (hcells : cells s ≤ room) :
    withoutBlanks (crop room (s ++ t)) = withoutBlanks s := by
  have hblanks : ∀ room, withoutBlanks (cropClusters room (clusters t)) = [] := by
    intro room
    refine withoutBlanks_of_blanks fun c hc => ?_
    rcases mem_cropClusters hc with rfl | hc
    · rfl
    · rw [flatMap_text_clusters] at hc
      exact hblank c hc
  by_cases hne : s = []
  · rw [hne, List.nil_append, crop, hblanks]
    rfl
  · have hclusters : clusters (s ++ t) = clusters s ++ clusters t := by
      cases t with
      | nil => rw [List.append_nil, clusters, List.append_nil]
      | cons c t =>
        exact clusters_append_cons hs.not_mem hne ((ht c List.mem_cons_self).2
          (hblank c List.mem_cons_self)) t
    obtain ⟨k, ks, h⟩ := exists_clustered hs.not_mem hne
    have hle := h.isMeasured.cells_le
    rw [h.cells_eq] at hcells
    rw [crop, hclusters, h.clusters_eq, List.cons_append, cropClusters, if_neg (by omega),
      if_pos (by omega), cropClusters_append h.canFollow (by omega), ← List.append_assoc,
      h.text_eq, withoutBlanks_append, hblanks, List.append_nil]

end Text

end LineMacro
