import LineMacro.Expansion
/-!
# Expansion — how deep calls are nested

The nesting of a text is the length of its longest chain of calls, each inside
an argument of the one before. It depends on which words are calls, and on
nothing that a macro gives. Counting stops at a call that nothing closes, where
expansion stops too.
-/

namespace LineMacro

namespace Table

mutual

/-- The length of the longest chain of calls in a text. -/
def nesting (tbl : Table) (text : Text) : Nat :=
  match text with
  | [] => 0
  | c :: t =>
    match _h : tbl.read c t with
    | .plain _ rest => tbl.nesting rest
    | .constant _ rest => tbl.nesting rest
    | .call _ inner rest =>
      max (1 + tbl.nestingAll (Arguments.split inner)) (tbl.nesting rest)
    | .unclosed _ => 0
termination_by text.length
decreasing_by
  all_goals
    have hfits := tbl.read_fits c t
    simp_all [Item.Fits]

/-- The length of the longest chain of calls in any of several texts. -/
def nestingAll (tbl : Table) (texts : List Text) : Nat :=
  match texts with
  | [] => 0
  | a :: l => max (tbl.nesting a) (tbl.nestingAll l)
termination_by Arguments.weight texts
decreasing_by
  · rw [Arguments.weight]
    omega
  · rw [Arguments.weight]
    omega

end

/-- Whether every call that is met when the text is read from left to right,
arguments left out, is closed. -/
def closed (tbl : Table) (text : Text) : Bool :=
  match text with
  | [] => true
  | c :: t =>
    match _h : tbl.read c t with
    | .plain _ rest => tbl.closed rest
    | .constant _ rest => tbl.closed rest
    | .call _ _ rest => tbl.closed rest
    | .unclosed _ => false
termination_by text.length
decreasing_by
  all_goals
    have hfits := tbl.read_fits c t
    simp_all [Item.Fits]

end Table

end LineMacro
