import LineMacro.Editor
/-!
# Open documents

An editor announces documents by address: it opens them, replaces their text
and closes them. Only whole texts are taken over. Questions about an address
are answered from its current text, and an address that is not open has
nothing to show.
-/

namespace LineMacro

/-- The open documents, each with its address, in the order in which they were
opened. -/
structure Workspace where
  documents : List (Text × Text) := []
deriving DecidableEq, Repr

namespace Workspace

/-- One entry of a change: the whole new text, or the text of a part, which
is passed over. -/
inductive Edit where
  | whole (text : Text)
  | part (text : Text)
deriving DecidableEq, Repr

/-- What an editor announces about one address. -/
inductive Event where
  | opened (text : Text)
  | changed (edits : List Edit)
  | closed
deriving DecidableEq, Repr

/-- The text of an open document. -/
def text? (w : Workspace) (address : Text) : Option Text :=
  (Keyed.find? Prod.fst address w.documents).map Prod.snd

/-- Takes over a text for an address. -/
def store (w : Workspace) (address text : Text) : Workspace :=
  ⟨Keyed.put Prod.fst (address, text) w.documents⟩

/-- Takes over one entry of a change. -/
def edit (w : Workspace) (address : Text) : Edit → Workspace
  | .whole text => w.store address text
  | .part _ => w

/-- The open documents after an event. -/
def handle (w : Workspace) (address : Text) : Event → Workspace
  | .opened text => w.store address text
  | .changed edits => edits.foldl (fun w e => w.edit address e) w
  | .closed => ⟨Keyed.erase Prod.fst address w.documents⟩

/-- The open documents by address. -/
def listing (w : Workspace) : List (Text × Text) :=
  w.documents.mergeSort fun a b => Text.precedes a.1 b.1

/-! ## Answers -/

/-- The largest number that an editor may name. -/
def positionLimit : Nat := 2147483647

/-- A place in a document as an editor names it. -/
structure Cursor where
  line : Nat
  character : Nat
  line_le : line ≤ positionLimit
  character_le : character ≤ positionLimit
deriving DecidableEq, Repr

/-- The place with the given numbers, if an editor may name it. -/
def Cursor.of? (line character : Int) : Option Cursor :=
  if h : (0 ≤ line ∧ line ≤ positionLimit) ∧ 0 ≤ character ∧ character ≤ positionLimit then
    some ⟨line.toNat, character.toNat, by omega, by omega⟩
  else none

/-- What is wrong with a document. -/
def diagnostics (w : Workspace) (address : Text) : List Editor.Diagnostic :=
  match w.text? address with
  | some t => Editor.diagnostics t
  | none => []

/-- What to show at a position of a document. -/
def hover (w : Workspace) (address : Text) (c : Cursor) :
    Except Position.OutOfRange (Option Editor.Hover) :=
  match w.text? address with
  | some t => Editor.hover t c.line c.character
  | none => .ok none

/-- What a completion entry stands for. -/
inductive ItemKind where
  | keyword
  | constant
deriving DecidableEq, Repr

/-- The number under which editors know a kind. -/
def ItemKind.code : ItemKind → Nat
  | .keyword => 14
  | .constant => 21

/-- A completion entry as an editor shows it. -/
structure Item where
  label : Text
  kind : ItemKind
  detail : Text
  documentation : Option Text
deriving DecidableEq, Repr

/-- The directive is a keyword with a description, macros are constants. -/
def Item.ofEntry (e : Editor.Entry) : Item :=
  if e.isDirective then ⟨e.label, .keyword, e.detail, some Editor.directiveDescription⟩
  else ⟨e.label, .constant, e.detail, none⟩

/-- What to offer at a position of a document. -/
def completion (w : Workspace) (address : Text) (c : Cursor) :
    Except Position.OutOfRange (List Item) :=
  match w.text? address with
  | some t => (Editor.completion t c.line c.character).map (·.map Item.ofEntry)
  | none => .ok []

/-! An event changes the text of its own address and of no other. -/

end Workspace

end LineMacro
