import StubConsole.Json.Record

/-!
# Draft — a record being edited

A draft is either a typed record, edited field by field, or the JSON text that the user types.
Leaving the text is refused as long as it is no such record.
-/

namespace StubConsole

inductive Draft (α : Type) where
  | structured (value : α)
  | raw (text : String)
  deriving DecidableEq, Repr

namespace Draft

variable {α : Type}

def isRaw : Draft α → Bool
  | .structured _ => false
  | .raw _ => true

def structured? : Draft α → Option α
  | .structured value => some value
  | .raw _ => none

def rawText? : Draft α → Option String
  | .structured _ => none
  | .raw text => some text

/-- Why a text cannot become a typed record. -/
def cannotLeave : String := "Cannot switch to form mode: Invalid JSON format"

variable [Record α]

/-- The JSON text of a draft, whatever its mode. -/
def text : Draft α → String
  | .structured value => Record.writePretty value
  | .raw text => text

def enterJsonMode (d : Draft α) : Draft α := .raw d.text

/-- The record that the text stands for; nothing if it stands for none. -/
def enterFormMode? : Draft α → Option (Draft α)
  | .structured value => some (.structured value)
  | .raw text => (Record.read? text).map .structured

def toggle? (d : Draft α) : Option (Draft α) :=
  if d.isRaw then d.enterFormMode? else some d.enterJsonMode

end Draft

end StubConsole
