import StubConsole.Draft
import StubConsole.Form.Basic
import StubConsole.TextBuffer

/-!
# Session — one open editor

A session is a draft with everything the user sees around it: the tab and the selected field, an
input open on that field, the JSON text, and the errors of the last save.  Whether a save creates
or updates a record is decided when the session is opened, by the identifier of the record.

* `Session` — the state of an editor;
* `Session.activate`, `commitInput?`, `toggleMode?` — the editing steps;
* `Session.prepareSave` — the record to send, or why there is none.
-/

namespace StubConsole

/-- One line of a form. -/
structure FieldRow where
  label : String
  value : String
  kind : FieldKind
  selected : Bool
  hint : Option String
  deriving DecidableEq, Repr

structure Session (α : Type) where
  draft : Draft α
  /-- The identifier of the record that was opened; none for a new one. -/
  openedId : Option String
  tab : FormTab
  field : Nat
  /-- The input open on the selected field. -/
  input : Option TextBuffer
  /-- The JSON text, while the draft is one. -/
  json : Option TextBuffer
  errors : List String
  saving : Bool
  deriving Repr

namespace Session

variable {α Field : Type} [Form α Field]

def opened (value : α) : Session α where
  draft := .structured value
  openedId := if Form.id value = "" then none else some (Form.id value)
  tab := .request
  field := 0
  input := none
  json := none
  errors := []
  saving := false

def isNew (s : Session α) : Bool := s.openedId.isNone

def currentField? (s : Session α) : Option Field := (Form.fields α s.tab)[s.field]?

/-- The draft as a record, read from its text in JSON mode. -/
def currentValue (s : Session α) : Except (List DraftFault) α :=
  match s.draft with
  | .structured value => .ok value
  | .raw text =>
      match Record.read? text with
      | some value => .ok value
      | none => .error [.notJson]

/-- The record to send: it passed its checks and carries the identifier that was opened. -/
def prepareSave (s : Session α) : Except (List DraftFault) α := do
  let value ← s.currentValue
  if Form.faults value = [] then return Form.setId value (s.openedId.getD "")
  else .error (Form.faults value)

def title (s : Session α) : String :=
  if s.isNew then "New " ++ Form.noun α
  else
    match s.currentValue with
    | .ok value => "Edit " ++ Form.noun α ++ ": " ++ Form.displayName value
    | .error _ => "Edit " ++ Form.noun α

def rows (s : Session α) : List FieldRow :=
  match s.draft with
  | .raw _ => []
  | .structured value =>
      (Form.fields α s.tab).mapIdx fun i field =>
        ⟨Form.label α field, Form.value value field, Form.kind α field, i = s.field,
          Form.hint value field⟩

/-! ## Moving -/

def setTab (s : Session α) (tab : FormTab) : Session α :=
  { s with tab, field := 0, input := none }

def selectNext (s : Session α) : Session α :=
  if s.field + 1 < (Form.fields α s.tab).length then { s with field := s.field + 1 } else s

def selectPrev (s : Session α) : Session α := { s with field := s.field - 1 }

/-! ## Editing a field -/

/-- Opens an input on a text field, or steps a field with choices; tells whether an input was
opened. -/
def activate (s : Session α) : Session α × Bool :=
  match s.currentField?, s.draft with
  | some field, .structured value =>
      match Form.kind α field with
      | .cycle | .toggle => ({ s with draft := .structured (Form.cycle value field) }, false)
      | .line => ({ s with input := some (.singleLine (Form.value value field)) }, true)
      | .multiline => ({ s with input := some (.multiLine (Form.value value field)) }, true)
  | _, _ => (s, false)

/-- Stores the text of the input in the selected field and closes the input. -/
def commitInput (s : Session α) : Except FieldError (Session α) :=
  match s.currentField?, s.input, s.draft with
  | some field, some input, .structured value => do
      let value ← Form.setValue value field input.content
      return { s with draft := .structured value, input := none }
  | _, _, _ => .ok { s with input := none }

def cancelInput (s : Session α) : Session α := { s with input := none }

/-! ## Editing the text -/

/-- Switches between form and text.  If the text is no record, only an open input is closed. -/
def toggleMode (s : Session α) : Session α × Except String Unit :=
  match s.draft.toggle? with
  | none => ({ s with input := none }, .error Draft.cannotLeave)
  | some draft =>
      ({ s with draft, input := none, json := draft.rawText?.map .multiLine }, .ok ())

/-- Takes the text of the JSON buffer into the draft. -/
def syncJson (s : Session α) : Session α :=
  match s.json, s.draft with
  | some buffer, .raw _ => { s with draft := .raw buffer.content }
  | _, _ => s

def jsonText (s : Session α) : String := s.draft.text

end Session

end StubConsole
