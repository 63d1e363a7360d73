import LineMacro.Report.Layout
/-!
# Reports — texts that take one line

A text without line feeds and tabs for which there is room on a line of the
terminal is printed as it is, with one line feed after it (`display_of_room`). How
many cells a character takes can depend on the one before it, so room is counted
generously (`Text.room`): it adds up where texts are put together, and no text takes
more cells than its room.
-/

namespace LineMacro

namespace Text

open Cell

variable {s t : Text} {c : Char}

/-- Cells enough for every character wherever it stands, one at least for each. -/
def room : Text → Nat
  | [] => 0
  | c :: t => max 1 (width c) + room t

theorem room_cons : room (c :: t) = max 1 (width c) + room t := rfl

theorem room_append : room (s ++ t) = room s + room t := by
  induction s with
  | nil => exact (Nat.zero_add _).symm
  | cons c s ih => rw [List.cons_append, room_cons, room_cons, ih, Nat.add_assoc]

theorem length_le_room (t : Text) : t.length ≤ room t := by
  induction t with
  | nil => exact Nat.le_refl 0
  | cons c t ih =>
    rw [List.length_cons, room_cons]
    omega

/-- A character counts for what it takes, and a selector for what it may add. -/
theorem cellsAfter_le_room (last : Option Char) (t : Text) : cellsAfter last t ≤ room t := by
  fun_induction cellsAfter last t with
  | case1 => exact Nat.le_refl 0
  | case2 => exact Nat.zero_le _
  | case3 last d t ih =>
    rw [room_cons, room_cons]
    omega
  | case4 last t _ ih =>
    rw [room_cons]
    split <;> omega
  | case5 last c t _ _ _ ih =>
    rw [room_cons]
    omega
  | case6 last c t _ _ _ ih =>
    rw [room_cons]
    omega

/-- Where each character takes one cell no more is counted. -/
theorem room_of_width (h : ∀ c ∈ t, width c = 1) : room t = t.length := by
  induction t with
  | nil => rfl
  | cons c t ih =>
    obtain ⟨hc, ht⟩ := List.forall_mem_cons.1 h
    rw [room_cons, hc, ih ht, List.length_cons, Nat.max_self, Nat.add_comm]

theorem cells_le_room (t : Text) : cells t ≤ room t := cellsAfter_le_room none t

theorem room_dropTrailing_le (p : Char → Bool) (t : Text) : room (dropTrailing p t) ≤ room t := by
  have hroom := congrArg room (dropTrailing_append p t)
  rw [room_append] at hroom
  omega

end Text

namespace Report

open Text

variable {o : Overflow} {width : Nat} {f : Filling} {line t word : Text} {ws : List Text}

/-! ## Filling a line -/

/-- No line has been finished, and the line has room for what is on it. -/
structure Filling.OnFirst (f : Filling) : Prop where
  before : f.before = []
  used : f.used ≤ room f.line

/-- **Step.** A word for which there is room goes on the same line. -/
theorem Filling.OnFirst.add (h : f.OnFirst) (hroom : room (f.line ++ word) ≤ width) :
    (f.add o width word).OnFirst ∧ (f.add o width word).line = f.line ++ word := by
  have hused := h.used
  have hcells := cells_le_room word
  have hshort := cells_le_room (dropTrailing isBlank word)
  have hdropped := room_dropTrailing_le isBlank word
  rw [room_append] at hroom
  rw [Filling.add, if_pos (by omega)]
  refine ⟨⟨h.before, ?_⟩, rfl⟩
  rw [room_append]
  exact Nat.add_le_add hused hcells

/-- **Run.** So do all words, if there is room for them together. -/
theorem Filling.OnFirst.foldl (h : f.OnFirst) (hroom : room (f.line ++ ws.flatten) ≤ width) :
    (ws.foldl (Filling.add o width) f).OnFirst ∧
      (ws.foldl (Filling.add o width) f).line = f.line ++ ws.flatten := by
  induction ws generalizing f with
  | nil => exact ⟨h, (List.append_nil _).symm⟩
  | cons w ws ih =>
    rw [List.flatten_cons, ← List.append_assoc] at hroom ⊢
    have hword : room (f.line ++ w) ≤ width := by
      rw [room_append] at hroom
      omega
    obtain ⟨hfirst, hline⟩ := h.add (o := o) hword
    rw [List.foldl_cons, ← hline]
    exact ih hfirst (by rwa [hline])

/-- A line for which there is room is not broken. -/
theorem breakLine_of_room (h : room line ≤ width) : breakLine o width line = [line] := by
  rw [breakLine]
  split
  · rfl
  · rename_i hne
    have hwords : (wordsOf line).flatten = line := flatten_wordsOf hne
    have hsome : line ≠ [] := by
      rintro rfl
      exact hne rfl
    have hempty : ({} : Filling).OnFirst := ⟨rfl, Nat.le_refl 0⟩
    obtain ⟨hfirst, hline⟩ := hempty.foldl (o := o) (hwords ▸ h)
    have hfull : ((wordsOf line).foldl (Filling.add o width) {}).line = line := hline.trans hwords
    rw [Filling.lines, hfull, if_neg hsome, hfirst.before, List.reverse_singleton]

/-! ## Printing a line -/

theorem dropExcess_of_length_le (h : line.length ≤ width) : dropExcess width line = line := by
  have hnone : line.length - width = 0 := by omega
  rw [dropExcess, hnone, Nat.min_zero, Nat.sub_zero, List.take_length]

/-- Without tabs there is nothing to fill up. -/
theorem untab_of_not_mem (h : '\t' ∉ line) : untab line = line := by
  rw [untab, List.splitOn_eq_singleton h, joinAtStops]

/-- A line for which there is room with spaces for its tabs is not broken. -/
theorem layOut_of_untab (hfeed : '\n' ∉ t) (hroom : room (untab t) ≤ width) :
    layOut o .ragged width t = [untab t] := by
  have hlength : (untab t).length ≤ width := Nat.le_trans (length_le_room _) hroom
  have hcells : cells (untab t) ≤ width := Nat.le_trans (cells_le_room _) hroom
  rw [layOut, List.splitOn_eq_singleton hfeed, List.flatMap_singleton,
    breakLine_of_room hroom, List.map_singleton, dropExcess_of_length_le hlength]
  exact congrArg (fun line => [line]) (if_pos hcells)

/-- **A line for which there is room** is printed with spaces for its tabs. -/
theorem display_of_untab (hfeed : '\n' ∉ t) (hroom : room (untab t) ≤ terminalWidth) :
    display t = untab t ++ ['\n'] := by
  rw [display, layOut_of_untab hfeed hroom, printed, List.flatMap_singleton]

/-- **Without tabs it is printed as it is.** -/
theorem display_of_room (hfeed : '\n' ∉ t) (htab : '\t' ∉ t) (hroom : room t ≤ terminalWidth) :
    display t = t ++ ['\n'] := by
  rw [← untab_of_not_mem htab] at hroom
  rw [display_of_untab hfeed hroom, untab_of_not_mem htab]

end Report

end LineMacro
