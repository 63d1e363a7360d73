import LineMacro.Proofs.Text.Cell
import LineMacro.Report.Layout
/-!
# Reports — texts that take several lines

A text for which there is no room on a line of the terminal is broken between its words,
and a word that is too wide is folded. Nothing is lost by that but blanks, provided that
the words take as many cells together as each by itself (`Steady`): every character that
can be seen is printed, and in its order (`withoutBlanks_display`). The idea is that a
line is never too wide for what can be seen of it (`Filling.Fits`), which is kept up word
by word; what is cut off at the end of a line is then nothing but blanks.
-/

namespace LineMacro

namespace Report

open Text Text.Cell

variable {width : Nat} {f : Filling} {line t word : Text} {ws : List Text}

/-! ## Words -/

theorem endsInBlank_of_blanks (h : ∀ c ∈ t, isBlank c = true) : EndsInBlank t :=
  fun c hc => h c (List.mem_of_getLast? hc)

theorem endsInBlank_append (hline : EndsInBlank line) (hword : EndsInBlank word) :
    EndsInBlank (line ++ word) := by
  intro c hc
  rw [List.getLast?_append, Option.mem_def, Option.or_eq_some_iff] at hc
  rcases hc with hc | ⟨-, hc⟩
  · exact hword c hc
  · exact hline c hc

theorem endsInBlank_of_append (h : EndsInBlank (line ++ word)) : EndsInBlank word := by
  intro c hc
  refine h c ?_
  rw [List.getLast?_append, hc]
  rfl

/-- What stands before the words is blank, no word is empty, and each but the last ends
in a blank. -/
structure Parted (blanks : Text) (ws : List Text) : Prop where
  blank : ∀ c ∈ blanks, isBlank c = true
  ne_nil : ∀ w ∈ ws, w ≠ []
  endsInBlank : ∀ w ∈ ws.dropLast, EndsInBlank w

theorem parted_blanksAndWords (line : Text) :
    Parted (blanksAndWords line).1 (blanksAndWords line).2 := by
  induction line with
  | nil => exact ⟨List.forall_mem_nil _, List.forall_mem_nil _, List.forall_mem_nil _⟩
  | cons c t ih =>
    rw [blanksAndWords]
    generalize blanksAndWords t = r at ih
    obtain ⟨blanks, ws⟩ := r
    obtain ⟨hblanks, hne, hends⟩ := ih
    dsimp only at hblanks hne hends ⊢
    split
    · rename_i hc
      exact ⟨List.forall_mem_cons.2 ⟨hc, hblanks⟩, hne, hends⟩
    · split
      · -- the character is put before a word
        rename_i w ws
        refine ⟨List.forall_mem_nil _, List.forall_mem_cons.2 ⟨List.cons_ne_nil c w,
          (List.forall_mem_cons.1 hne).2⟩, ?_⟩
        cases ws with
        | nil => exact List.forall_mem_nil _
        | cons w' ws =>
          obtain ⟨hw, hws⟩ := List.forall_mem_cons.1 hends
          obtain ⟨d, u, rfl⟩ := List.exists_cons_of_ne_nil (hne w List.mem_cons_self)
          exact List.forall_mem_cons.2 ⟨hw, hws⟩
      · -- it is a word with the blanks behind it
        rename_i hnone
        refine ⟨List.forall_mem_nil _, List.forall_mem_cons.2 ⟨List.cons_ne_nil c blanks, hne⟩, ?_⟩
        cases ws with
        | nil => exact List.forall_mem_nil _
        | cons w ws =>
          cases blanks with
          | nil => exact absurd rfl (hnone w ws rfl)
          | cons b bs =>
            exact List.forall_mem_cons.2 ⟨fun d hd => endsInBlank_of_blanks hblanks d hd, hends⟩

/-- Blanks end each word of a line but the last. -/
theorem endsInBlank_of_mem_wordsOf (line : Text) :
    ∀ w ∈ (wordsOf line).dropLast, EndsInBlank w := by
  have h := parted_blanksAndWords line
  rw [wordsOf]
  split
  · rename_i blanks w ws heq
    rw [heq] at h
    cases ws with
    | nil => exact List.forall_mem_nil _
    | cons w' ws =>
      obtain ⟨hw, hws⟩ := List.forall_mem_cons.1 h.endsInBlank
      exact List.forall_mem_cons.2 ⟨endsInBlank_append (endsInBlank_of_blanks h.blank) hw, hws⟩
  · exact List.forall_mem_nil _

/-- A line without words is blank. -/
theorem isBlank_of_wordsOf_eq_nil (h : wordsOf line = []) : ∀ c ∈ line, isBlank c = true := by
  have hall := flatten_blanksAndWords line
  have hparted := parted_blanksAndWords line
  rw [wordsOf] at h
  split at h
  · cases h
  · rename_i blanks heq
    rw [heq] at hall hparted
    rw [List.flatten_nil, List.append_nil] at hall
    exact hall ▸ hparted.blank

/-! ## Filling -/

/-- There is room on the line for all of a text but the blanks at its end. -/
def HasRoom (width : Nat) (t : Text) : Prop := cells (dropTrailing isBlank t) ≤ width

theorem hasRoom_of_cells_le (ht : Steady t) (h : cells t ≤ width) : HasRoom width t :=
  Nat.le_trans (cells_le_of_isPrefix ht.not_mem (dropTrailing_isPrefix isBlank t)) h

/-- The lines have room for what can be seen of them, and what is noted of the last one
is true. -/
structure Filling.Fits (width : Nat) (f : Filling) : Prop where
  before : ∀ l ∈ f.before, HasRoom width l
  line : HasRoom width f.line
  used_eq : f.used = cells f.line
  steady : Steady f.line

theorem Filling.Fits.lines (h : f.Fits width) : ∀ l ∈ f.lines, HasRoom width l := by
  unfold Filling.lines
  split
  · exact h.before
  · exact List.forall_mem_cons.2 ⟨h.line, h.before⟩

theorem Filling.Fits.next (h : f.Fits width) (ht : Steady t) (hroom : HasRoom width t) :
    (f.next t).Fits width := ⟨h.lines, hroom, rfl, ht⟩

theorem Filling.flatten_lines_next (f : Filling) (t : Text) :
    (f.next t).lines.reverse.flatten = f.lines.reverse.flatten ++ t := flatten_lines _

/-- Pieces are put on lines of their own. -/
theorem Filling.Fits.foldl_next (h : f.Fits width) {ps : List Text}
    (hps : ∀ p ∈ ps, Steady p ∧ HasRoom width p) :
    (ps.foldl Filling.next f).Fits width ∧
      (ps.foldl Filling.next f).lines.reverse.flatten =
        f.lines.reverse.flatten ++ ps.flatten := by
  induction ps generalizing f with
  | nil => exact ⟨h, (List.append_nil _).symm⟩
  | cons p ps ih =>
    obtain ⟨⟨hsteady, hroom⟩, hps⟩ := List.forall_mem_cons.1 hps
    obtain ⟨hfits, hflatten⟩ := ih (h.next hsteady hroom) hps
    refine ⟨hfits, ?_⟩
    rw [List.foldl_cons, hflatten, flatten_lines_next, List.flatten_cons, List.append_assoc]

/-- Blanks at the end of a text are those at the end of its last part, or more. -/
theorem dropTrailing_append_isPrefix (line word : Text) :
    dropTrailing isBlank (line ++ word) <+: line ++ dropTrailing isBlank word := by
  have hblanks : ∀ c ∈ word.reverse.takeWhile isBlank, isBlank c = true :=
    List.all_eq_true.1 List.all_takeWhile
  have hsame : dropTrailing isBlank (line ++ word) =
      dropTrailing isBlank (line ++ dropTrailing isBlank word) := by
    conv => lhs; rw [← dropTrailing_append isBlank word, ← List.append_assoc]
    rw [dropTrailing, List.reverse_append, List.reverse_reverse,
      List.dropWhile_append_of_pos hblanks, ← dropTrailing]
  rw [hsame]
  exact dropTrailing_isPrefix isBlank _

/-- **Step.** A word that is taken leaves room for what can be seen, and nothing of it is
lost. -/
theorem Filling.Fits.add (hwidth : 3 ≤ width) (h : f.Fits width) (hend : EndsInBlank f.line)
    (hword : Steady word) :
    (f.add .fold width word).Fits width ∧
      (f.add .fold width word).lines.reverse.flatten = f.lines.reverse.flatten ++ word := by
  have hsize := cells_le_of_isPrefix hword.not_mem (dropTrailing_isPrefix isBlank word)
  rw [Filling.add]
  split
  · -- it goes on the same line
    rename_i hroom
    have hline := cells_append_of_endsInBlank h.steady hend
    have hsteady := h.steady.append hword
    have hshort : cells (dropTrailing isBlank (f.line ++ word)) ≤ width := by
      have hkept := (List.prefix_append_right_inj f.line).2 (dropTrailing_isPrefix isBlank word)
      have hle := cells_le_of_isPrefix (fun hmem => hsteady.not_mem (hkept.subset hmem))
        (dropTrailing_append_isPrefix f.line word)
      rw [hline, ← h.used_eq] at hle
      exact Nat.le_trans hle hroom
    refine ⟨⟨h.before, hshort, ?_, hsteady⟩, ?_⟩
    · rw [hline, h.used_eq]
    · rw [flatten_lines, flatten_lines, List.append_assoc]
  · split
    · -- it is folded
      rename_i hwide
      have hflatten := flatten_chop hwidth hword.not_mem (by omega)
      have hpieces : ∀ p ∈ chop width word, Steady p ∧ HasRoom width p := by
        intro p hp
        have hsteady : Steady p := hword.subset fun c hc =>
          hflatten ▸ List.mem_flatten_of_mem hp hc
        exact ⟨hsteady,
          hasRoom_of_cells_le hsteady (cells_le_of_mem_chop hwidth hword.not_mem p hp)⟩
      obtain ⟨hfits, hall⟩ := h.foldl_next hpieces
      rw [hflatten] at hall
      exact ⟨hfits, hall⟩
    · -- it starts the next line
      rename_i hnarrow
      have hroom : HasRoom width word := by
        rw [HasRoom, ← Nat.not_lt]
        exact fun hwide => hnarrow ⟨hwide, rfl⟩
      exact ⟨h.next hword hroom, flatten_lines_next f word⟩

/-- **Run.** So do all words of a line. -/
theorem Filling.Fits.foldl_add (hwidth : 3 ≤ width) (h : f.Fits width)
    (hend : EndsInBlank f.lines.reverse.flatten) (hsteady : ∀ w ∈ ws, Steady w)
    (hends : ∀ w ∈ ws.dropLast, EndsInBlank w) :
    (ws.foldl (Filling.add .fold width) f).Fits width ∧
      (ws.foldl (Filling.add .fold width) f).lines.reverse.flatten =
        f.lines.reverse.flatten ++ ws.flatten := by
  induction ws generalizing f with
  | nil => exact ⟨h, (List.append_nil _).symm⟩
  | cons w ws ih =>
    obtain ⟨hw, hws⟩ := List.forall_mem_cons.1 hsteady
    have hline : EndsInBlank f.line := by
      rw [flatten_lines] at hend
      exact endsInBlank_of_append hend
    obtain ⟨hfits, hflatten⟩ := h.add hwidth hline hw
    rw [List.foldl_cons, List.flatten_cons, ← List.append_assoc, ← hflatten]
    cases ws with
    | nil => exact ⟨hfits, (List.append_nil _).symm⟩
    | cons w' ws =>
      obtain ⟨hblank, hrest⟩ := List.forall_mem_cons.1 hends
      exact ih hfits (hflatten ▸ endsInBlank_append hend hblank) hws hrest

/-- **Breaking loses nothing, and leaves room** on every line for what can be seen. -/
theorem breakLine_of_steady (hwidth : 3 ≤ width) (h : Steady line) :
    (breakLine .fold width line).flatten = line ∧
      ∀ l ∈ breakLine .fold width line, HasRoom width l := by
  rw [breakLine]
  split
  · rename_i hnone
    have hblank := isBlank_of_wordsOf_eq_nil hnone
    have hdrop : dropTrailing isBlank ([] ++ line) = [] :=
      dropTrailing_append_of_ends hblank nofun
    rw [List.nil_append] at hdrop
    refine ⟨by simp, List.forall_mem_singleton.2 ?_⟩
    rw [HasRoom, hdrop]
    exact Nat.zero_le width
  · rename_i hne
    have hwords : (wordsOf line).flatten = line := flatten_wordsOf hne
    have hempty : ({} : Filling).Fits width := ⟨nofun, Nat.zero_le width, rfl, nofun⟩
    obtain ⟨hfits, hflatten⟩ := hempty.foldl_add hwidth nofun
      (fun w hw => h.subset fun c hc => hwords ▸ List.mem_flatten_of_mem hw hc)
      (endsInBlank_of_mem_wordsOf line)
    exact ⟨hflatten.trans hwords, fun l hl => hfits.lines l (List.mem_reverse.1 hl)⟩

/-! ## Cutting -/

/-- Only blanks are too many. -/
theorem exists_dropExcess_eq (width : Nat) (line : Text) :
    ∃ blanks, dropExcess width line = dropTrailing isBlank line ++ blanks ∧
      (∀ c ∈ blanks, isBlank c = true) ∧ blanks ⊆ line := by
  obtain ⟨blanks, hblanks⟩ : ∃ blanks, blanks = (line.reverse.takeWhile isBlank).reverse := ⟨_, rfl⟩
  have hall : dropTrailing isBlank line ++ blanks = line := by
    rw [hblanks]
    exact dropTrailing_append isBlank line
  have hblank : ∀ c ∈ blanks, isBlank c = true := by
    intro c hc
    rw [hblanks] at hc
    exact List.all_eq_true.1 List.all_takeWhile c (List.mem_reverse.1 hc)
  have hlength := congrArg List.length hall
  rw [List.length_append] at hlength
  refine ⟨blanks.take (blanks.length - (line.length - width)), ?_,
    fun c hc => hblank c (List.mem_of_mem_take hc),
    fun c hc => hall ▸ List.mem_append_right _ (List.mem_of_mem_take hc)⟩
  have hkept : line.length - min (line.length - (dropTrailing isBlank line).length)
      (line.length - width) =
        (dropTrailing isBlank line).length + (blanks.length - (line.length - width)) := by omega
  have htake : (dropTrailing isBlank line ++ blanks).take ((dropTrailing isBlank line).length +
      (blanks.length - (line.length - width))) = _ := List.take_length_add_append _
  rw [hall] at htake
  rw [dropExcess, hkept, htake]

/-- **What can be seen of a line is printed**, if there is room for it. -/
theorem withoutBlanks_align (hwidth : 3 ≤ width) (h : Steady line) (hroom : HasRoom width line) :
    withoutBlanks (align .fold .ragged width (dropExcess width line)) = withoutBlanks line := by
  obtain ⟨blanks, hexcess, hblank, hsubset⟩ := exists_dropExcess_eq width line
  have hends : ∀ c ∈ line.reverse.takeWhile isBlank, isBlank c = true :=
    List.all_eq_true.1 List.all_takeWhile
  have hline : withoutBlanks line = withoutBlanks (dropTrailing isBlank line) := by
    conv => lhs; rw [← dropTrailing_append isBlank line]
    rw [withoutBlanks_append, withoutBlanks_of_blanks fun c hc => hends c (List.mem_reverse.1 hc),
      List.append_nil]
  rw [hexcess, align, fit, hline]
  split
  · rw [withoutBlanks_append, withoutBlanks_of_blanks hblank, List.append_nil]
  · exact withoutBlanks_crop hwidth (h.subset (dropTrailing_isPrefix isBlank line).subset)
      (h.subset hsubset) hblank hroom

/-! ## Tabs -/

/-- Between the parts of a line nothing is put but spaces. -/
theorem withoutBlanks_joinAtStops (column : Nat) (parts : List Text) :
    withoutBlanks (joinAtStops column parts) = withoutBlanks parts.flatten := by
  fun_induction joinAtStops column parts with
  | case1 => rfl
  | case2 column part => rw [List.flatten_singleton]
  | case3 column part parts hparts column' gap ih =>
    have hgap : ∀ c ∈ ' ' :: List.replicate gap ' ', isBlank c = true := fun c hc =>
      List.eq_of_mem_replicate (List.replicate_succ ▸ hc : c ∈ List.replicate (gap + 1) ' ') ▸ rfl
    rw [← List.cons_append, List.flatten_cons, withoutBlanks_append, withoutBlanks_append,
      withoutBlanks_append, withoutBlanks_of_blanks hgap, List.nil_append, ih]

theorem mem_joinAtStops {column : Nat} {parts : List Text} {c : Char}
    (h : c ∈ joinAtStops column parts) : c = ' ' ∨ c ∈ parts.flatten := by
  fun_induction joinAtStops column parts with
  | case1 => exact absurd h List.not_mem_nil
  | case2 column part =>
    rw [List.flatten_singleton]
    exact Or.inr h
  | case3 column part parts hparts column' gap ih =>
    rw [List.flatten_cons, List.mem_append]
    rw [List.mem_append, List.mem_cons, List.mem_append] at h
    rcases h with h | h | h | h
    · exact Or.inr (Or.inl h)
    · exact Or.inl h
    · exact Or.inl (List.eq_of_mem_replicate h)
    · exact (ih h).imp_right Or.inr

/-! ## Printing -/

/-- A text is steady but for its tabs and line feeds, which are never printed. -/
def SteadyLines (t : Text) : Prop := Steady (t.filter fun c => c ≠ '\t' ∧ c ≠ '\n')

instance : DecidablePred SteadyLines := fun t =>
  inferInstanceAs (Decidable (Steady (t.filter fun c => c ≠ '\t' ∧ c ≠ '\n')))

theorem withoutBlanks_filter_ne {sep : Char} (hsep : isBlank sep = true) (t : Text) :
    withoutBlanks (t.filter fun c => c ≠ sep) = withoutBlanks t := by
  rw [withoutBlanks, List.filter_filter]
  refine List.filter_congr fun c _ => ?_
  by_cases hc : c = sep
  · simp [hc, hsep]
  · simp [hc]

theorem withoutBlanks_untab (line : Text) : withoutBlanks (untab line) = withoutBlanks line := by
  rw [untab, withoutBlanks_joinAtStops, flatten_splitOn, withoutBlanks_filter_ne rfl]

theorem SteadyLines.untab (h : SteadyLines t) (hline : line ∈ t.splitOn '\n') :
    Steady (untab line) := by
  intro c hc
  rcases mem_joinAtStops hc with rfl | hc
  · exact ⟨by decide, fun _ => by decide⟩
  · rw [flatten_splitOn, List.mem_filter] at hc
    have hall := List.mem_flatten_of_mem hline hc.1
    rw [flatten_splitOn, List.mem_filter] at hall
    exact h c (List.mem_filter.2 ⟨hall.1, by simpa using ⟨of_decide_eq_true hc.2,
      of_decide_eq_true hall.2⟩⟩)

/-- What is printed part by part. -/
theorem withoutBlanks_flatMap {ls : List Text} {g : Text → Text}
    (h : ∀ l ∈ ls, withoutBlanks (g l) = withoutBlanks l) :
    withoutBlanks (ls.flatMap g) = withoutBlanks ls.flatten := by
  induction ls with
  | nil => rfl
  | cons l ls ih =>
    obtain ⟨hl, hls⟩ := List.forall_mem_cons.1 h
    rw [List.flatMap_cons, List.flatten_cons, withoutBlanks_append, withoutBlanks_append, hl,
      ih hls]

/-- **A line is printed** without a loss. -/
theorem withoutBlanks_printed_line (hwidth : 3 ≤ width) (h : Steady (untab line)) :
    withoutBlanks (printed ((breakLine .fold width (untab line)).map fun l =>
      align .fold .ragged width (dropExcess width l))) = withoutBlanks line := by
  obtain ⟨hflatten, hroom⟩ := breakLine_of_steady hwidth h
  rw [printed, List.flatMap_map, withoutBlanks_flatMap fun l hl => ?_, hflatten,
    withoutBlanks_untab]
  have hsteady : Steady l := h.subset fun c hc => hflatten ▸ List.mem_flatten_of_mem hl hc
  rw [withoutBlanks_append, withoutBlanks_align hwidth hsteady (hroom l hl)]
  exact List.append_nil _

/-- **Every character that can be seen is printed**, in its order and nothing else, on
however many lines. -/
theorem withoutBlanks_display (h : SteadyLines t) :
    withoutBlanks (display t) = withoutBlanks t := by
  have hwidth : 3 ≤ terminalWidth := by decide
  have hprinted : display t = (t.splitOn '\n').flatMap fun line =>
      printed ((breakLine .fold terminalWidth (untab line)).map fun l =>
        align .fold .ragged terminalWidth (dropExcess terminalWidth l)) := by
    rw [display, printed, layOut, List.flatMap_assoc]
    rfl
  rw [hprinted, withoutBlanks_flatMap fun line hline =>
    withoutBlanks_printed_line hwidth (h.untab hline), flatten_splitOn, withoutBlanks_filter_ne rfl]

end Report

end LineMacro
