import StubConsole.Execution
import StubConsole.Outgoing
import StubConsole.Session
import StubConsole.StubKind

/-!
# Editor — the open stub and what is known of it

* `Editor` — a session on a stub of one of the kinds;
* `Editor.savePlan` — what a save sends;
* `EditorPane` — the editor with the outcome of the last execution.
-/

namespace StubConsole

structure Editor where
  kind : StubKind
  session : Session kind.Item

/-- What a save sends: a document that replaces the stub of an identifier or makes a new one. -/
structure SavePlan where
  kind : StubKind
  id : Option String
  document : Json
  /-- What messages call the stub. -/
  label : String
  deriving DecidableEq

namespace Json

/-- The document with a member of the given value, or without one. -/
def setMember (key : String) (value : Option Json) : Json → Json
  | .obj members =>
      match value with
      | some v => .obj (SortedMap.insertEntry key v members)
      | none => .obj (members.filter fun m => m.1 != key)
  | doc => doc

def text? : Json → Option String
  | .str s => some s
  | _ => none

end Json

namespace SavePlan

/-- A document as it was typed, under the identifier that was opened. -/
def ofDocument (id : Option String) (document : Json) : SavePlan where
  kind := .rest
  id := id
  document := document.setMember "id" (id.map .str)
  label := ((document.get? "name").bind Json.text?).getD ""

def ofItem (kind : StubKind) (item : kind.Item) : SavePlan where
  kind := kind
  id := if Form.id item = "" then none else some (Form.id item)
  document := Record.toJson item
  label := Form.displayName item

end SavePlan

namespace Editor

def opened (kind : StubKind) (item : kind.Item) : Editor := ⟨kind, .opened item⟩

/-- What a save sends, or what is wrong with the draft.  The text of a REST stub is sent as it
was typed. -/
def savePlan : Editor → Except (List DraftFault) SavePlan
  | ⟨.rest, session⟩ =>
      match session.draft with
      | .raw text => do
          let document ← (checkDocument text).mapError fun fault => [fault]
          return .ofDocument session.openedId document
      | .structured _ => return .ofItem .rest (← session.prepareSave)
  | ⟨kind, session⟩ => return .ofItem kind (← session.prepareSave)

/-- The address in a SOAP draft where its WSDL document is. -/
def wsdlUrl? : Editor → Option String
  | ⟨.soap, session⟩ =>
      match session.currentValue with
      | .ok stub => some (stub.wsdlUrl.getD "")
      | .error _ => some ""
  | _ => none

def withErrors (e : Editor) (errors : List String) : Editor :=
  { e with session := { e.session with errors } }

def withSaving (e : Editor) (saving : Bool) : Editor :=
  { e with session := { e.session with saving } }

end Editor

/-- The request that a stub describes, to the mock server at a base. -/
def StubKind.outgoing (base : String) :
    (kind : StubKind) → kind.Item → Except OutgoingError Outgoing
  | .rest, stub => stub.outgoing base
  | .graphQl, stub => stub.outgoing base
  | .soap, stub => stub.outgoing base

/-! ## The pane -/

structure EditorPane where
  active : Option Editor
  executing : Bool
  response : Option Execution
  /-- Lines of the response above the first one shown. -/
  scroll : Nat
  /-- The server is being asked about a WSDL document. -/
  validating : Bool

namespace EditorPane

def closed : EditorPane := ⟨none, false, none, 0, false⟩

instance : Inhabited EditorPane := ⟨closed⟩

def opened (editor : Editor) : EditorPane := { closed with active := some editor }

def isOpen (p : EditorPane) : Bool := p.active.isSome

/-- Changes the editor, if one is open. -/
def modify (p : EditorPane) (f : Editor → Editor) : EditorPane :=
  { p with active := p.active.map f }

end EditorPane

end StubConsole
