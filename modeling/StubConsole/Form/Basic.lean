import StubConsole.Json.Record
import StubConsole.Validation

/-!
# Form — drafts as fields

A draft is edited field by field.  The fields are spread over four tabs; a field shows a text, and
either takes an edited text back or steps through its choices.

* `FormTab`, `FieldKind` — where a field is, and how it is edited;
* `FieldError` — why a text cannot be stored in a field;
* `Form` — the fields of one kind of draft.
-/

namespace StubConsole

inductive FormTab where
  | request
  | response
  | scenarios
  | advanced
  deriving DecidableEq, Repr

namespace FormTab

def all : List FormTab := [.request, .response, .scenarios, .advanced]

def title : FormTab → String
  | .request => "Request"
  | .response => "Response"
  | .scenarios => "Scenarios"
  | .advanced => "Advanced"

def next : FormTab → FormTab
  | .request => .response
  | .response => .scenarios
  | .scenarios => .advanced
  | .advanced => .request

def prev : FormTab → FormTab
  | .request => .advanced
  | .response => .request
  | .scenarios => .response
  | .advanced => .scenarios

end FormTab

inductive FieldKind where
  /-- One line of text. -/
  | line
  /-- Text over several lines. -/
  | multiline
  /-- One of a fixed set of values. -/
  | cycle
  /-- Yes or no. -/
  | toggle
  deriving DecidableEq, Repr

namespace FieldKind

def isText : FieldKind → Bool
  | .line | .multiline => true
  | .cycle | .toggle => false

end FieldKind

inductive FieldError where
  | noPair (line : String)
  | noBodyRow (line : String)
  | unknownBodyKind (key : String)
  | noMatcherRow (line : String)
  | unknownMatchType (name : String)
  | badStatus
  | badDelay
  | badPriority
  | metadataNoObject
  | noScenario
  deriving DecidableEq, Repr

def FieldError.message : FieldError → String
  | .noPair line => "Expected name=value, got \"" ++ line ++ "\""
  | .noBodyRow line => "Expected kind:value, got \"" ++ line ++ "\""
  | .unknownBodyKind key => "Unknown body pattern \"" ++ key ++ "\""
  | .noMatcherRow line => "Expected matchType|xpath|expected, got \"" ++ line ++ "\""
  | .unknownMatchType name => "Unknown match type \"" ++ name ++ "\""
  | .badStatus => "Response status must be a number"
  | .badDelay => "Delay must be a whole number of milliseconds"
  | .badPriority => "Priority must be a number"
  | .metadataNoObject => "Metadata must be a JSON object"
  | .noScenario => "Set a scenario name first"

/-- The fields of one kind of draft. -/
class Form (α : Type) (Field : outParam Type) extends Record α where
  /-- What messages call such a record. -/
  noun : String
  fields : FormTab → List Field
  label : Field → String
  kind : Field → FieldKind
  value : α → Field → String
  /-- Stores an edited text; a field with choices steps to its next one instead. -/
  setValue : α → Field → String → Except FieldError α
  /-- Steps a field with choices, and leaves text fields alone. -/
  cycle : α → Field → α
  /-- A remark under the field. -/
  hint : α → Field → Option String
  id : α → String
  setId : α → String → α
  displayName : α → String
  faults : α → List DraftFault

end StubConsole
