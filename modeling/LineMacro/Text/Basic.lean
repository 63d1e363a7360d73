/-!
# Text

A text is a list of characters, and a character is a Unicode scalar value: a
code point, but not a surrogate. Every length, column and position of the
library counts them. What stands for bytes that spell no character, as a lone
surrogate may, is in no text. A document is a text read as lines, cut at line
feeds and nowhere else, so that cutting and joining are inverse to each other.
-/

namespace LineMacro

/-- A text, as the list of its characters. -/
abbrev Text := List Char

namespace Text

/-- The lines of a document. There is always at least one, and none holds a
line feed. -/
def lines (t : Text) : List Text := t.splitOn '\n'

/-- Lines joined by line feeds, with none after the last. -/
def joinLines (l : List Text) : Text := ['\n'].intercalate l

/-- An integer in decimal, with a sign only if it is negative. -/
def decimal : Int → Text
  | .ofNat n => Nat.toDigits 10 n
  | .negSucc n => '-' :: Nat.toDigits 10 (n + 1)

/-- Drops from the end the longest stretch of characters in the class. -/
def dropTrailing (p : Char → Bool) (t : Text) : Text := (t.reverse.dropWhile p).reverse

/-- Cutting into lines loses nothing. -/
@[simp] theorem joinLines_lines (t : Text) : joinLines (lines t) = t :=
  List.intercalate_splitOn '\n'

/-- What is dropped from the end is the longest stretch of the class there. -/
theorem dropTrailing_append (p : Char → Bool) (t : Text) :
    dropTrailing p t ++ (t.reverse.takeWhile p).reverse = t := by
  rw [dropTrailing, ← List.reverse_append, List.takeWhile_append_dropWhile, List.reverse_reverse]

theorem dropTrailing_isPrefix (p : Char → Bool) (t : Text) : dropTrailing p t <+: t :=
  ⟨_, dropTrailing_append p t⟩

/-- Where dropping stops, the class ends. -/
theorem eq_false_of_mem_head?_dropWhile {p : Char → Bool} {t : Text} {c : Char}
    (h : c ∈ (t.dropWhile p).head?) : p c = false := by
  have hhead := List.head?_dropWhile_not p t
  rw [Option.mem_def] at h
  rw [h] at hhead
  exact hhead

/-! Where a text starts with a stretch of a class and the class ends there, the
longest such stretch is that one. -/

theorem takeWhile_append_of_ends {p : Char → Bool} {s t : Text} (hs : ∀ c ∈ s, p c = true)
    (ht : ∀ c ∈ t.head?, p c = false) : (s ++ t).takeWhile p = s := by
  have hnone : t.takeWhile p = [] := by
    cases t with
    | nil => rfl
    | cons c t => exact List.takeWhile_cons_of_neg (by simp [ht c rfl])
  rw [List.takeWhile_append_of_pos hs, hnone, List.append_nil]

theorem dropWhile_append_of_ends {p : Char → Bool} {s t : Text} (hs : ∀ c ∈ s, p c = true)
    (ht : ∀ c ∈ t.head?, p c = false) : (s ++ t).dropWhile p = t := by
  rw [List.dropWhile_append_of_pos hs]
  cases t with
  | nil => rfl
  | cons c t => exact List.dropWhile_cons_of_neg (by simp [ht c rfl])

/-- The same at the end of a text. -/
theorem dropTrailing_append_of_ends {p : Char → Bool} {s t : Text} (ht : ∀ c ∈ t, p c = true)
    (hs : ∀ c ∈ s.getLast?, p c = false) : dropTrailing p (s ++ t) = s := by
  have hstretch : ∀ c ∈ t.reverse, p c = true := fun c hc => ht c (List.mem_reverse.1 hc)
  have hend : ∀ c ∈ s.reverse.head?, p c = false := by rwa [List.head?_reverse]
  rw [dropTrailing, List.reverse_append, dropWhile_append_of_ends hstretch hend,
    List.reverse_reverse]

/-! A text can be cut before any of its characters. -/

theorem drop_eq_cons {t : Text} {k : Nat} {c : Char} (h : t[k]? = some c) :
    t.drop k = c :: t.drop (k + 1) := by
  obtain ⟨hlt, rfl⟩ := List.getElem?_eq_some_iff.1 h
  exact List.drop_eq_getElem_cons hlt

theorem take_append_cons_drop {t : Text} {k : Nat} {c : Char} (h : t[k]? = some c) :
    t.take k ++ c :: t.drop (k + 1) = t := by
  rw [← drop_eq_cons h, List.take_append_drop]

/-! A text has always a line, and no line holds a line feed. Texts joined by a
line feed have the lines of both. -/

theorem lines_ne_nil (t : Text) : lines t ≠ [] := by
  simp [lines]

theorem lines_cons (c : Char) (t : Text) :
    lines (c :: t) = if c = '\n' then [] :: lines t else (lines t).modifyHead (c :: ·) := by
  rw [lines, lines, List.splitOn_eq_splitOnP, List.splitOnP_cons_eq_if_modifyHead]
  by_cases hc : c = '\n' <;> simp [hc, List.splitOn_eq_splitOnP]

/-- The pieces that a text is cut into are the text without what it was cut at. -/
theorem flatten_splitOn (sep : Char) (t : Text) :
    (t.splitOn sep).flatten = t.filter fun c => c ≠ sep := by
  induction t with
  | nil => rw [List.splitOn_nil]; rfl
  | cons c t ih =>
    obtain ⟨first, rest, hpieces⟩ := List.exists_cons_of_ne_nil (List.splitOn_ne_nil sep t)
    rw [hpieces, List.flatten_cons] at ih
    rw [List.splitOn_cons_eq_if_modifyHead, hpieces, List.filter_cons]
    by_cases hc : c = sep
    · rw [if_pos (beq_iff_eq.2 hc), if_neg (by simpa using hc), ← ih]
      rfl
    · -- the character goes to the front of the first piece
      rw [if_neg (by simpa using hc), if_pos (by simpa using hc), ← ih]
      rfl

/-- No piece holds what a text was cut at. -/
theorem not_mem_of_mem_splitOn {sep : Char} {t piece : Text} (h : piece ∈ t.splitOn sep) :
    sep ∉ piece := by
  intro hmem
  have hall := List.mem_flatten_of_mem h hmem
  rw [flatten_splitOn] at hall
  exact absurd rfl (of_decide_eq_true (List.mem_filter.1 hall).2)

theorem not_mem_of_mem_lines {t line : Text} (h : line ∈ lines t) : '\n' ∉ line :=
  not_mem_of_mem_splitOn h

/-- Joined lines are cut where they were joined. -/
theorem lines_joinLines {l : List Text} (h : ∀ line ∈ l, '\n' ∉ line) (hne : l ≠ []) :
    lines (joinLines l) = l :=
  List.splitOn_intercalate '\n' h hne

theorem lines_of_not_mem {t : Text} (h : '\n' ∉ t) : lines t = [t] := by
  have hline := lines_joinLines (l := [t]) (by simpa using h) (List.cons_ne_nil t [])
  rwa [joinLines, List.intercalate_singleton] at hline

theorem lines_append (t u : Text) : lines (t ++ '\n' :: u) = lines t ++ lines u :=
  List.splitOn_append_cons_self t u

theorem joinLines_append {l l' : List Text} (h : l ≠ []) (h' : l' ≠ []) :
    joinLines (l ++ l') = joinLines l ++ '\n' :: joinLines l' := by
  induction l with
  | nil => exact absurd rfl h
  | cons line l ih =>
    rw [joinLines, List.cons_append,
      List.intercalate_cons_of_ne_nil (List.append_ne_nil_of_right_ne_nil l h'), joinLines]
    by_cases hl : l = []
    · subst hl
      rw [List.intercalate_singleton, List.append_assoc]
      rfl
    · have hjoin := ih hl
      rw [joinLines, joinLines] at hjoin
      rw [hjoin, List.intercalate_cons_of_ne_nil hl, ← List.append_assoc]

end Text

end LineMacro
