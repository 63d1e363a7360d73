import LineMacro.Text.Blank
import Mathlib.Data.List.Forall2
/-!
# Text — blanks around texts

Blanks may stand around each text of a list before the texts are joined by commas.
Trimming takes them away again (`map_trim_of_pads`), and the list that is joined is
never blank, unless its only text is empty (`exists_not_blank_of_pads`).
-/

namespace LineMacro

namespace Text

/-- The second text is the first with blanks around it. -/
def Pads (t p : Text) : Prop :=
  ∃ lead trail, p = lead ++ t ++ trail ∧ (∀ c ∈ lead, isBlank c = true) ∧
    ∀ c ∈ trail, isBlank c = true

variable {t p : Text} {ts ps : List Text}

theorem pads_trim (t : Text) : Pads (trim t) t := exists_trim_append t

theorem pads_self (t : Text) : Pads t t := ⟨[], [], by simp, nofun, nofun⟩

theorem pads_cons_space (t : Text) : Pads t (' ' :: t) :=
  ⟨[' '], [], by simp, List.forall_mem_singleton.2 rfl, nofun⟩

theorem Pads.trim_eq (h : Pads t p) (ht : trim t = t) : trim p = t := by
  obtain ⟨lead, trail, rfl, hlead, htrail⟩ := h
  exact trim_pad ht hlead htrail

theorem map_trim_of_pads (hpads : List.Forall₂ Pads ts ps) (ht : ∀ t ∈ ts, trim t = t) :
    ps.map trim = ts := by
  induction hpads with
  | nil => rfl
  | cons hpad _ ih =>
    obtain ⟨hfirst, hrest⟩ := List.forall_mem_cons.1 ht
    rw [List.map_cons, hpad.trim_eq hfirst, ih hrest]

/-- **A joined list holds more than blanks** if its only text does, or if it has two. -/
theorem exists_not_blank_of_pads (hpads : List.Forall₂ Pads ts ps) (ht : ∀ t ∈ ts, trim t = t)
    (hne : ts ≠ []) (hsingle : ts ≠ [[]]) :
    ∃ c ∈ [','].intercalate ps, isBlank c = false := by
  cases hpads with
  | nil => exact absurd rfl hne
  | @cons t p ts ps hpad hrest =>
    cases hrest with
    | nil =>
      -- a trimmed text that is not empty starts with no blank
      have htrim : trim t = t := ht t List.mem_cons_self
      obtain ⟨lead, trail, rfl, -, -⟩ := hpad
      obtain ⟨c, t, rfl⟩ := List.exists_cons_of_ne_nil fun hnil : t = [] => hsingle (by rw [hnil])
      refine ⟨c, by simp, isBlank_of_mem_head?_trim (t := c :: t) ?_⟩
      rw [htrim]
      rfl
    | cons =>
      exact ⟨',', by simp [List.intercalate_cons_cons], by decide⟩

end Text

end LineMacro
