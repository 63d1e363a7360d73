import LineMacro.Report.Grid
import LineMacro.Report.Inline
import LineMacro.Table
/-!
# Reports — the list of macros

The macros in force are printed as a table with three columns: the line of the
definition, the signature and the body. A dash stands for a macro from outside
the document. The predeclared names follow, in order.
-/

namespace LineMacro

namespace Report

/-- The columns of the list. -/
def macroColumns : List Column :=
  [⟨"Line".toList, .right⟩, ⟨"Macro".toList, .left⟩, ⟨"Body".toList, .left⟩]

/-- The row of a macro. -/
def rowOfMacro (m : Macro) : List Text :=
  [if m.line = 0 then ['-'] else Text.decimal m.line, embedded (shown m.signature),
    embedded (shown m.body)]

/-- The row of a predeclared name. -/
def rowOfName (name : Text) : List Text :=
  [['-'], embedded (shown name), "(predeclared)".toList]

/-- The rows below the headings. -/
def macroRows (tbl : Table) : List (List Text) :=
  tbl.entries.map rowOfMacro ++ tbl.predeclaredNames.map rowOfName

/-- The whole list of macros. -/
def macros (tbl : Table) : Text :=
  printed (tableLines "Macros".toList macroColumns (macroRows tbl))

end Report

end LineMacro
