import LineMacro.Text.Word
/-!
# Macros

A macro gives a name a text to stand for, with or without parameters. Its
signature is the form in which it is listed and announced.
-/

namespace LineMacro

/-- A name with the text that stands for it. A macro with no parameters is
replaced wherever its name stands; one with parameters needs an argument list
after the name. -/
structure Macro where
  name : Text
  parameters : List Text := []
  body : Text := []
  /-- The line of the definition, counted from 1; 0 for a macro given from
  outside the document. -/
  line : Int := 0
deriving DecidableEq, Repr

namespace Macro

/-- Whether uses of the macro need an argument list. -/
def isParameterized (m : Macro) : Bool := !m.parameters.isEmpty

/-- The name, with the parameters in parentheses if there are any. -/
def signature (m : Macro) : Text :=
  if m.isParameterized then
    m.name ++ '(' :: ([',', ' '].intercalate m.parameters ++ [')'])
  else m.name

/-- The macro without the line of its definition. A use of it can tell all the
rest. -/
def unnumbered (m : Macro) : Macro := { m with line := 0 }

theorem isParameterized_iff {m : Macro} : m.isParameterized = true ↔ m.parameters ≠ [] := by
  simp [isParameterized]

end Macro

/-- Names are words that do not start with an underscore; a digit or a dollar
sign may come first. -/
def isName : Text → Bool
  | [] => false
  | c :: t => c != '_' && (c :: t).all Text.isWordChar

theorem ne_nil_of_isName {name : Text} (h : isName name = true) : name ≠ [] := by
  rintro rfl
  cases h

/-- Names are written in word characters. -/
theorem isWordChar_of_isName {name : Text} {c : Char} (h : isName name = true) (hc : c ∈ name) :
    Text.isWordChar c = true := by
  cases name with
  | nil => cases hc
  | cons d name =>
    rw [isName, Bool.and_eq_true] at h
    exact List.all_eq_true.1 h.2 c hc

theorem not_mem_of_isName {name : Text} {c : Char} (h : isName name = true)
    (hc : Text.isWordChar c = false) : c ∉ name := fun hmem => by
  rw [isWordChar_of_isName h hmem] at hc
  cases hc

end LineMacro
