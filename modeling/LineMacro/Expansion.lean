import LineMacro.Arguments
import LineMacro.Failure
import LineMacro.Substitution
import LineMacro.Table
/-!
# Expansion

A text is expanded in one pass from left to right. Characters outside words
and words that stand for no macro are copied. A word that stands for a macro
without parameters becomes its body. A word that stands for a macro with
parameters is a call if an opening parenthesis follows at once, and is copied
otherwise. The arguments of a call are expanded first, then put into the body;
what a macro gives is not looked at again.

Two things can stop the pass: a call that nothing closes, and a call inside
too many others. The first is reported where the call starts. The second is
reported where the outermost call starts, so a call inside an argument leaves
its column open and the call around it all fills it in.
-/

namespace LineMacro

namespace Table

/-- What stands at the start of a text, with what follows it. -/
inductive Item where
  /-- Characters that are copied. -/
  | plain (copied rest : Text)
  /-- A use of a macro without parameters. -/
  | constant (m : Macro) (rest : Text)
  /-- A call, with the text between its parentheses. -/
  | call (m : Macro) (inner rest : Text)
  /-- A call that nothing closes. -/
  | unclosed (m : Macro)
deriving DecidableEq, Repr

/-- Reads a use of a macro with parameters: `w` is the word that names it and
`after` what follows the word. -/
def readCall (m : Macro) (w after : Text) : Item :=
  match after with
  | '(' :: t =>
    match Arguments.closing? 1 t with
    | some k => .call m (t.take k) (t.drop (k + 1))
    | none => .unclosed m
  | _ => .plain w after

/-- Reads what stands at the start of the text `c :: t`. -/
def read (tbl : Table) (c : Char) (t : Text) : Item :=
  if Text.isWordChar c then
    let w := Text.word (c :: t)
    let after := Text.afterWord (c :: t)
    match tbl.lookup w with
    | none => .plain w after
    | some m => if m.isParameterized then readCall m w after else .constant m after
  else .plain [c] t

/-! What follows an item is shorter than the text it was read from, and so are
the arguments of a call together. -/

/-- The room that an item needs of the text it is read from. -/
def Item.Fits (size : Nat) : Item → Prop
  | .plain _ rest => rest.length < size
  | .constant _ rest => rest.length < size
  | .call _ inner rest => rest.length < size ∧ Arguments.weight (Arguments.split inner) < size
  | .unclosed _ => True

theorem readCall_fits {m : Macro} {w after : Text} {size : Nat} (h : after.length < size) :
    (readCall m w after).Fits size := by
  unfold readCall
  split
  · rename_i t
    split
    · rename_i k hk
      have hk := Arguments.closing?_lt hk
      have hw := Arguments.weight_split_le (t.take k)
      simp only [List.length_cons, List.length_take] at h hw
      simp only [Item.Fits, List.length_drop]
      omega
    · trivial
  · exact h

theorem read_fits (tbl : Table) (c : Char) (t : Text) : (tbl.read c t).Fits (c :: t).length := by
  unfold read
  split
  · rename_i hc
    have h := Text.length_afterWord_cons (t := t) hc
    dsimp only
    split
    · exact h
    · split
      · exact readCall_fits h
      · exact h
  · exact Nat.lt_succ_self _

/-- The column at which the last characters `rest` of a text of `size`
characters start. -/
def column (size : Nat) (rest : Text) : Int := (size - rest.length : Nat) + 1

mutual

/-- Expands the last characters of a text of `size` characters that stands
inside `depth` calls. -/
def expandRest (tbl : Table) (depth : Int) (size : Nat) (text : Text) : Except Failure Text :=
  match text with
  | [] => .ok []
  | c :: t =>
    match _h : tbl.read c t with
    | .plain copied rest => do
      let out ← tbl.expandRest depth size rest
      return copied ++ out
    | .constant m rest => do
      let out ← tbl.expandRest depth size rest
      return m.body ++ out
    | .call m inner rest =>
      if nestingLimit ≤ depth then .error { fault := .tooDeep m.name }
      else
        match tbl.expandAll (depth + 1) (Arguments.split inner) with
        | .error e => .error (if depth = 0 then e.atColumn (column size (c :: t)) else e)
        | .ok args => do
          let out ← tbl.expandRest depth size rest
          return m.substitute args ++ out
    | .unclosed m => .error { column := column size (c :: t), fault := .unclosedArguments m.name }
termination_by text.length
decreasing_by
  all_goals
    have hfits := tbl.read_fits c t
    simp_all [Item.Fits]

/-- Expands arguments one after another; each is a text of its own. -/
def expandAll (tbl : Table) (depth : Int) (args : List Text) : Except Failure (List Text) :=
  match args with
  | [] => .ok []
  | a :: l => do
    let b ← tbl.expandRest depth a.length a
    let bs ← tbl.expandAll depth l
    return b :: bs
termination_by Arguments.weight args
decreasing_by
  · rw [Arguments.weight]
    omega
  · rw [Arguments.weight]
    omega

end

/-- Expands a text that stands inside `depth` calls. A text of its own stands
inside none. Below level 0 the nesting limit is further away, as far as one
likes; what a machine can hold on the way there is left out of account. -/
def expandInside (tbl : Table) (depth : Int) (text : Text) : Except Failure Text :=
  tbl.expandRest depth text.length text

/-- Expands a text of its own. -/
def expand (tbl : Table) (text : Text) : Except Failure Text := tbl.expandInside 0 text

end Table

end LineMacro
