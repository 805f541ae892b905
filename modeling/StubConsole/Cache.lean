import StubConsole.ApiError
import StubConsole.GraphQlStub
import StubConsole.RequestLog
import StubConsole.Scenario
import StubConsole.SoapStub

/-!
# Cache — the last known collection of records

The server owns the records.  A cache holds the collection that was fetched last, changes it only
when the server has acknowledged a change, and is stale after every such change, so that the next
visit fetches again.

* `Keyed` — records with an identifier;
* `Cache` — the collection, its freshness and the last failure;
* one operation for each thing that can happen to it.
-/

namespace StubConsole

class Keyed (α : Type) where
  key : α → String

instance : Keyed Stub := ⟨Stub.id⟩
instance : Keyed GraphQlStub := ⟨GraphQlStub.id⟩
instance : Keyed SoapStub := ⟨SoapStub.id⟩
instance : Keyed Scenario := ⟨Scenario.id⟩
instance : Keyed RequestLog := ⟨RequestLog.id⟩

/-- Stale collections were never fetched, or changed since. -/
inductive Freshness where
  | stale
  | loading
  | fresh
  deriving DecidableEq, Repr

structure Cache (α : Type) where
  items : List α
  freshness : Freshness
  /-- The last failure to fetch or to change the collection. -/
  error : Option String
  deriving DecidableEq, Repr

namespace Cache

variable {α : Type}

def empty : Cache α := ⟨[], .stale, none⟩

instance : Inhabited (Cache α) := ⟨empty⟩

def isLoading (c : Cache α) : Bool := c.freshness = .loading

def needsFetch (c : Cache α) : Bool := c.freshness = .stale

/-! ## Fetches -/

def markLoading (c : Cache α) : Cache α := { c with freshness := .loading }

def invalidate (c : Cache α) : Cache α := { c with freshness := .stale }

/-- A fetch brings the whole collection. -/
def replaceAll (_ : Cache α) (items : List α) : Cache α := ⟨items, .fresh, none⟩

/-- A failed fetch keeps what was shown.  It is not repeated until the user asks for it. -/
def fetchFailed (c : Cache α) (message : String) : Cache α :=
  { c with
    error := some message
    freshness := if c.freshness = .loading then .fresh else c.freshness }

/-! ## Changes -/

/-- The collection after a change that the server has acknowledged. -/
def changed (_ : Cache α) (items : List α) : Cache α := ⟨items, .stale, none⟩

def clear (c : Cache α) : Cache α := c.changed []

def mutationFailed (c : Cache α) (action : String) (e : ApiError) : Cache α :=
  { c with error := some (e.failureMessage action) }

variable [Keyed α]

def get? (c : Cache α) (id : String) : Option α :=
  c.items.find? fun item => Keyed.key item == id

def created (c : Cache α) (item : α) : Cache α := c.changed (c.items ++ [item])

/-- Puts an item in the place of the first one with its identifier, or at the end. -/
def replaceFirst (item : α) : List α → List α
  | [] => [item]
  | old :: rest =>
      if Keyed.key old = Keyed.key item then item :: rest else old :: replaceFirst item rest

def updated (c : Cache α) (item : α) : Cache α := c.changed (replaceFirst item c.items)

def removed (c : Cache α) (id : String) : Cache α :=
  c.changed (c.items.filter fun item => Keyed.key item != id)

end Cache

end StubConsole
