import LineMacro.Text.Basic
import LineMacro.Text.Cell.Ranges
/-!
# Text — the cells of a terminal

A terminal sets a text in cells. A character takes none, one or two of them,
and some characters cling to the one before: those that take no cell, and any
that a joiner ties to it. A selector that clings to a character may widen it.
What clings to a character makes up a cluster with it. Nothing is lost in
clusters (`flatMap_text_clusters`), and a text is cut only between them.
-/

namespace LineMacro

namespace Text

namespace Cell

/-- Ties the next character to the one before. -/
def joiner : Char := '\u200D'

/-- Asks for the character before as a pictograph. -/
def selector : Char := '\uFE0F'

/-- Whether a character lies in one of the ranges. -/
def within (ranges : List (Nat × Nat)) (c : Char) : Bool :=
  ranges.any fun r => r.1 ≤ c.toNat && c.toNat ≤ r.2

/-- The cells that a character takes on its own. -/
def width (c : Char) : Nat :=
  if ' ' ≤ c ∧ c ≤ '~' then 1
  else if within zeroBasic c || within zeroBeyond c then 0
  else if within double c then 2
  else 1

/-- Whether a selector widens a character. -/
def isSelectable (c : Char) : Bool := within selectable c

end Cell

open Cell

/-- The cells of a text that follows a character; `last` is that character, if
a selector may still widen it. -/
def cellsAfter (last : Option Char) : Text → Nat
  | [] => 0
  | c :: t =>
    if c = joiner then
      match t with
      | [] => 0
      | _ :: t => cellsAfter last t
    else if c = selector then
      (if last.any isSelectable then 1 else 0) + cellsAfter none t
    else if width c = 0 then cellsAfter last t
    else width c + cellsAfter (some c) t

/-- The cells that a text takes. -/
def cells (t : Text) : Nat := cellsAfter none t

/-! ## Clusters -/

/-- A character and what clings to it. -/
structure Cluster where
  text : Text
  cells : Nat
  /-- Whether a selector would still widen it. -/
  widens : Bool
deriving DecidableEq, Repr

/-- The cluster of a character alone. -/
def Cluster.ofChar (c : Char) : Cluster := ⟨[c], width c, isSelectable c⟩

/-- The cluster with one more character that clings to it. -/
def Cluster.add (k : Cluster) (c : Char) : Cluster :=
  if k.widens && c = selector then ⟨k.text ++ [c], k.cells + 1, false⟩
  else { k with text := k.text ++ [c] }

/-- The cluster with one more character that a joiner ties to it. -/
def Cluster.join (k : Cluster) (c : Char) : Cluster := { k with text := k.text ++ [joiner, c] }

/-- The clusters of a text that follows an open one. -/
def clustersFrom (k : Cluster) : Text → List Cluster
  | [] => [k]
  | c :: t =>
    if c = joiner then
      match t with
      | [] => [k.add c]
      | d :: t => clustersFrom (k.join d) t
    else if width c = 0 then clustersFrom (k.add c) t
    else k :: clustersFrom (.ofChar c) t

/-- The clusters of a text. -/
def clusters : Text → List Cluster
  | [] => []
  | c :: t => clustersFrom (.ofChar c) t

/-- As many clusters as there is room for; one that is cut through leaves a
space. -/
def cropClusters (room : Nat) : List Cluster → Text
  | [] => []
  | k :: ks =>
    if room = 0 then []
    else if k.cells ≤ room then k.text ++ cropClusters (room - k.cells) ks
    else [' ']

/-- A text cut to a number of cells. -/
def crop (room : Nat) (t : Text) : Text := cropClusters room (clusters t)

/-- Clusters in lines of a width; `line` is the line begun, of `used` cells. -/
def chopClusters (room : Nat) (line : Text) (used : Nat) : List Cluster → List Text
  | [] => if used = 0 then [] else [line]
  | k :: ks =>
    if room < used + k.cells then line :: chopClusters room k.text k.cells ks
    else chopClusters room (line ++ k.text) (used + k.cells) ks

/-- A text in lines of a width, each as full as possible. -/
def chop (room : Nat) (t : Text) : List Text := chopClusters room [] 0 (clusters t)

/-- A text filled up with spaces on the right to a number of cells. -/
def padRight (room : Nat) (t : Text) : Text := t ++ List.replicate (room - cells t) ' '

/-- A text filled up with spaces on the left to a number of cells. -/
def padLeft (room : Nat) (t : Text) : Text := List.replicate (room - cells t) ' ' ++ t

/-! ## Laws -/

@[simp] theorem Cluster.text_ofChar (c : Char) : (Cluster.ofChar c).text = [c] := rfl

@[simp] theorem Cluster.text_add (k : Cluster) (c : Char) : (k.add c).text = k.text ++ [c] := by
  unfold Cluster.add
  split <;> rfl

theorem flatMap_text_clustersFrom (k : Cluster) (t : Text) :
    (clustersFrom k t).flatMap Cluster.text = k.text ++ t := by
  fun_induction clustersFrom k t with
  | case1 k => simp
  | case2 k => simp
  | case3 k d t ih =>
    rw [ih]
    simp [Cluster.join]
  | case4 k c t _ _ ih => simp [ih]
  | case5 k c t _ _ ih => simp [ih]

/-- **Nothing is lost.** The clusters of a text, one after another, are the
text. -/
theorem flatMap_text_clusters (t : Text) : (clusters t).flatMap Cluster.text = t := by
  cases t with
  | nil => rfl
  | cons c t => exact flatMap_text_clustersFrom _ t

/-- Characters of one cell take a cell each, whatever stands before them. -/
theorem cellsAfter_of_width {t : Text} (h : ∀ c ∈ t, width c = 1) (last : Option Char) :
    cellsAfter last t = t.length := by
  induction t generalizing last with
  | nil => rfl
  | cons c t ih =>
    have hw := h c (.head t)
    -- a joiner and a selector take no cell
    have hj : c ≠ joiner := by
      rintro rfl
      exact absurd hw (by decide)
    have hs : c ≠ selector := by
      rintro rfl
      exact absurd hw (by decide)
    rw [cellsAfter.eq_def]
    simp only [if_neg hj, if_neg hs, hw, Nat.one_ne_zero, if_false, List.length_cons,
      ih fun d hd => h d (.tail c hd)]
    omega

theorem cells_of_width {t : Text} (h : ∀ c ∈ t, width c = 1) : cells t = t.length :=
  cellsAfter_of_width h none

end Text

end LineMacro
