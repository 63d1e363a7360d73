import LineMacro.Text.Basic
/-!
# Text — blanks

Blanks separate a directive from its name and surround arguments and
parameters. The class is the full Unicode one: the ASCII controls that
separate (tab to carriage return, and the four separators U+001C to U+001F),
next line, and every space, line and paragraph separator. Zero-width
characters are not blank.
-/

namespace LineMacro

namespace Text

/-- The blank characters. -/
def isBlank (c : Char) : Bool :=
  let n := c.toNat
  (0x09 ≤ n && n ≤ 0x0D) || (0x1C ≤ n && n ≤ 0x20) || n == 0x85 || n == 0xA0 || n == 0x1680 ||
    (0x2000 ≤ n && n ≤ 0x200A) || n == 0x2028 || n == 0x2029 || n == 0x202F || n == 0x205F ||
    n == 0x3000

/-- A text without its leading and trailing blanks. -/
def trim (t : Text) : Text := dropTrailing isBlank (t.dropWhile isBlank)

/-- Nothing but blanks; the empty text is blank too. -/
def isAllBlank (t : Text) : Bool := t.all isBlank

/-- Trimming takes nothing but blanks from either end. -/
theorem exists_trim_append (t : Text) :
    ∃ lead trail, t = lead ++ trim t ++ trail ∧
      (∀ c ∈ lead, isBlank c = true) ∧ ∀ c ∈ trail, isBlank c = true := by
  refine ⟨t.takeWhile isBlank, ((t.dropWhile isBlank).reverse.takeWhile isBlank).reverse,
    ?_, ?_, ?_⟩
  · rw [trim, List.append_assoc, dropTrailing_append, List.takeWhile_append_dropWhile]
  · exact List.all_eq_true.1 List.all_takeWhile
  · intro c hc
    exact List.all_eq_true.1 List.all_takeWhile c (List.mem_reverse.1 hc)

/-! A trimmed text has a blank at neither end, and blanks around such a text are
all that trimming takes. -/

variable {t lead trail : Text} {c : Char}

theorem isBlank_of_mem_getLast?_trim (h : c ∈ (trim t).getLast?) : isBlank c = false := by
  rw [trim, dropTrailing, List.getLast?_reverse] at h
  exact eq_false_of_mem_head?_dropWhile h

theorem isBlank_of_mem_head?_trim (h : c ∈ (trim t).head?) : isBlank c = false := by
  -- what is dropped from the end leaves the front as it was
  have hfront : c ∈ (t.dropWhile isBlank).head? := by
    rw [← dropTrailing_append isBlank (t.dropWhile isBlank), List.head?_append]
    exact Option.or_eq_some_iff.2 (Or.inl h)
  exact eq_false_of_mem_head?_dropWhile hfront

/-- **Trimming takes all the blanks** that stand around a text without blanks at
its ends. -/
theorem trim_append_of_blanks (hlead : ∀ c ∈ lead, isBlank c = true)
    (htrail : ∀ c ∈ trail, isBlank c = true) (hhead : ∀ c ∈ t.head?, isBlank c = false)
    (hlast : ∀ c ∈ t.getLast?, isBlank c = false) : trim (lead ++ t ++ trail) = t := by
  rw [trim, List.append_assoc]
  cases t with
  | nil =>
    -- nothing but blanks, and all go at the front
    rw [List.nil_append, List.dropWhile_append_of_pos hlead, ← List.append_nil trail,
      List.dropWhile_append_of_pos htrail]
    rfl
  | cons d t =>
    have hfront : ∀ c ∈ (d :: t ++ trail).head?, isBlank c = false := hhead
    rw [dropWhile_append_of_ends hlead hfront, dropTrailing_append_of_ends htrail hlast]

@[simp] theorem trim_trim (t : Text) : trim (trim t) = trim t := by
  have h : trim ([] ++ trim t ++ []) = trim t :=
    trim_append_of_blanks nofun nofun (fun _ => isBlank_of_mem_head?_trim)
      fun _ => isBlank_of_mem_getLast?_trim
  rwa [List.nil_append, List.append_nil] at h

/-- A trimmed text is what trimming leaves of it with blanks around. -/
theorem trim_pad (ht : trim t = t) (hlead : ∀ c ∈ lead, isBlank c = true)
    (htrail : ∀ c ∈ trail, isBlank c = true) : trim (lead ++ t ++ trail) = t := by
  rw [← ht]
  exact trim_append_of_blanks hlead htrail (fun _ => isBlank_of_mem_head?_trim)
    fun _ => isBlank_of_mem_getLast?_trim

end Text

end LineMacro
