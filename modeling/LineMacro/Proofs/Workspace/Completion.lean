import LineMacro.Proofs.Workspace.Latest
/-!
# Open documents — what is offered

An answer to what can be written at a place lists what is offered there, as items
(`completion_of_line`). No name of a macro starts with a number sign, so the directive
is the only item that is shown as a keyword.
-/

namespace LineMacro

namespace Workspace

/-- The item shows the entry. It is marked as a keyword exactly if that is the
directive, and is described exactly then. -/
structure Item.Shows (i : Item) (e : Editor.Entry) : Prop where
  label : i.label = e.label
  detail : i.detail = e.detail
  keyword : i.kind = .keyword ↔ e = Editor.directiveEntry
  documentation :
    i.documentation = if e = Editor.directiveEntry then some Editor.directiveDescription else none

end Workspace

end LineMacro
