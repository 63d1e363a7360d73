import LineMacro.Report.Symbol
/-!
# Reports — a text inside a printed line

A printed line may name styles in brackets, which a text put into it must not
be taken for. What looks like a style in the text, bracket and all, is set
apart with the backslashes before it (`pieces`), and each piece is printed on
its own: a backslash before a bracket that names no style is dropped, codes are
replaced by symbols, and the controls that would move the cursor are left out.
-/

namespace LineMacro

namespace Report

/-- The characters with which a style may start. -/
def startsStyle (c : Char) : Bool := c.isLower || c == '#' || c == '/' || c == '@'

/-- A stretch of text, given last character first, in two pieces: the
backslashes at its end and what stands before them. -/
def piecesBefore (plain : Text) : List Text :=
  [(plain.dropWhile (· == '\\')).reverse, plain.takeWhile (· == '\\')]

/-- The pieces of a text of which some has been read, last character first:
`plain` up to a bracket that may open a style, and `style` from it on. -/
def piecesFrom (plain : Text) (style : Option Text) : Text → List Text
  | [] => [(style.getD [] ++ plain).reverse]
  | c :: t =>
    if c = '[' then piecesFrom (style.getD [] ++ plain) (some [c]) t
    else
      match style with
      | none => piecesFrom (c :: plain) none t
      | some s =>
        if s.length = 1 ∧ !startsStyle c then piecesFrom (c :: (s ++ plain)) none t
        else if c = ']' then piecesBefore plain ++ (c :: s).reverse :: piecesFrom [] none t
        else piecesFrom plain (some (c :: s)) t

/-- The pieces of a text: what looks like a style, the backslashes before it,
and what stands between. -/
def pieces (t : Text) : List Text := piecesFrom [] none t

/-- A text without the backslashes that stand before brackets. -/
def bareBrackets : Text → Text
  | [] => []
  | '\\' :: '[' :: t => '[' :: bareBrackets t
  | c :: t => c :: bareBrackets t

/-- Whether a character would move the cursor: bell, backspace, vertical tab,
form feed and carriage return. -/
def movesCursor (c : Char) : Bool :=
  c.toNat == 7 || c.toNat == 8 || c.toNat == 11 || c.toNat == 12 || c.toNat == 13

/-- A text as it is printed where brackets mean nothing. -/
def verbatim (t : Text) : Text := (withSymbols t).filter fun c => !movesCursor c

/-- A text as it is printed inside a line. -/
def embedded (t : Text) : Text := (pieces t).flatMap fun p => verbatim (bareBrackets p)

/-- A text as it is put into a line: a backslash that ends it alone is doubled,
so that it cannot bind to what follows. -/
def shown (t : Text) : Text :=
  if t.getLast? = some '\\' ∧ t.dropLast.getLast? ≠ some '\\' then t ++ ['\\'] else t

/-! ## Laws -/

theorem flatten_piecesBefore (plain : Text) : (piecesBefore plain).flatten = plain.reverse := by
  have h : (plain.takeWhile (· == '\\')).reverse = plain.takeWhile (· == '\\') := by
    have : plain.takeWhile (· == '\\') =
        List.replicate (plain.takeWhile (· == '\\')).length '\\' :=
      List.eq_replicate_of_mem fun c hc =>
        eq_of_beq (List.all_eq_true.1 List.all_takeWhile c hc)
    rw [this, List.reverse_replicate]
  simp only [piecesBefore, List.flatten_cons, List.flatten_nil, List.append_nil]
  rw [← h, ← List.reverse_append, List.takeWhile_append_dropWhile]

theorem flatten_piecesFrom (plain : Text) (style : Option Text) (t : Text) :
    (piecesFrom plain style t).flatten = (style.getD [] ++ plain).reverse ++ t := by
  fun_induction piecesFrom plain style t with
  | case1 => simp
  | case2 => simp_all
  | case3 => simp_all
  | case4 => simp_all
  | case5 => simp_all [flatten_piecesBefore]
  | case6 => simp_all

/-- **Nothing is lost.** The pieces of a text, one after another, are the
text. -/
theorem flatten_pieces (t : Text) : (pieces t).flatten = t :=
  flatten_piecesFrom [] none t

end Report

end LineMacro
