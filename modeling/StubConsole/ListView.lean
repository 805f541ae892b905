import StubConsole.Choices
import StubConsole.GraphQlStub
import StubConsole.SoapStub
import StubConsole.Text.Lowercase

/-!
# ListView — what a list of stubs shows

A list shows the stubs whose name or secondary text holds the search text, letter case aside, and
whose method is the chosen one.  A stub is deleted by two presses: the first arms its row.

* `Listed` — what a list knows of a record;
* `DeleteConfirm` — the row that the next press deletes;
* `ListView` — search, filter, cursor and armed row.
-/

namespace StubConsole

class Listed (α : Type) where
  id : α → String
  name : α → String
  /-- Address, operation or action. -/
  secondary : α → String
  method? : α → Option String

instance : Listed Stub where
  id := Stub.id
  name := Stub.name
  secondary s := s.request.displayUrl
  method? s := if s.request.method = "" then none else some s.request.method

instance : Listed GraphQlStub where
  id := GraphQlStub.id
  name := GraphQlStub.name
  secondary := GraphQlStub.operationName
  method? _ := none

instance : Listed SoapStub where
  id := SoapStub.id
  name := SoapStub.name
  secondary := SoapStub.soapAction
  method? _ := none

/-- The methods that a filter steps through. -/
def methodFilters : List String := ["GET", "POST", "PUT", "DELETE", "PATCH"]

/-! ## Deletion in two presses -/

structure DeleteConfirm where
  armed : Option String
  deriving DecidableEq, Repr

namespace DeleteConfirm

def disarmed : DeleteConfirm := ⟨none⟩

/-- A press on the armed row confirms, any other one arms its row instead. -/
def press (c : DeleteConfirm) (id : String) : DeleteConfirm × Bool :=
  if c.armed = some id then (disarmed, true) else (⟨some id⟩, false)

def isArmed (c : DeleteConfirm) (id : String) : Bool := c.armed = some id

end DeleteConfirm

/-! ## Lists -/

structure ListView where
  search : String
  method : Option String
  selected : Nat
  confirm : DeleteConfirm
  deriving DecidableEq, Repr

namespace ListView

def initial : ListView := ⟨"", none, 0, .disarmed⟩

instance : Inhabited ListView := ⟨initial⟩

/-- The text holds the search text, letter case aside. -/
def found (search text : String) : Bool :=
  Text.contains (Text.lowercase text) (Text.lowercase search)

variable {α : Type} [Listed α]

def matchesItem (v : ListView) (item : α) : Bool :=
  (found v.search (Listed.name item) || found v.search (Listed.secondary item))
    && (v.method.isNone || Listed.method? item == v.method)

def filter (v : ListView) (items : List α) : List α :=
  items.filter v.matchesItem

def selectedItem? (v : ListView) (items : List α) : Option α :=
  (v.filter items)[v.selected]?

def disarm (v : ListView) : ListView := { v with confirm := .disarmed }

def cycleMethod (v : ListView) : ListView :=
  { v with method := cycleFilter methodFilters v.method, selected := 0, confirm := .disarmed }

/-- Moves the cursor down a list of `visible` rows. -/
def selectNext (v : ListView) (visible : Nat) : ListView :=
  { v with
    selected := if v.selected + 1 < visible then v.selected + 1 else v.selected
    confirm := .disarmed }

def selectPrev (v : ListView) : ListView :=
  { v with selected := v.selected - 1, confirm := .disarmed }

/-- The cursor moved into a list of `visible` rows. -/
def clampTo (visible selected : Nat) : Nat := min selected (visible - 1)

def clamp (v : ListView) (visible : Nat) : ListView :=
  { v with selected := clampTo visible v.selected }

end ListView

end StubConsole
