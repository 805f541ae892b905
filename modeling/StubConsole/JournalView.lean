import StubConsole.ListView
import StubConsole.RequestLog

/-!
# JournalView — what the request journal shows

The journal shows the logs that pass its filters in the order of their times, the oldest or the
latest first.  Logs without a readable time come last either way; logs of one time keep the order
that the server gave them.
-/

namespace StubConsole

inductive SortOrder where
  | ascending
  | descending
  deriving DecidableEq, Repr

namespace SortOrder

def toggle : SortOrder → SortOrder
  | .ascending => .descending
  | .descending => .ascending

def arrow : SortOrder → String
  | .ascending => "↑"
  | .descending => "↓"

end SortOrder

/-- First digits of a status that a filter steps through. -/
def statusFilters : List String := ["2", "3", "4", "5"]

structure JournalView where
  search : String
  method : Option String
  statusPrefix : Option String
  order : SortOrder
  selected : Nat
  /-- The details of the selected log are shown. -/
  showDetails : Bool
  deriving DecidableEq, Repr

namespace JournalView

def initial : JournalView := ⟨"", none, none, .descending, 0, false⟩

instance : Inhabited JournalView := ⟨initial⟩

def statusMatches (wanted : Option String) (status : Nat) : Bool :=
  match wanted with
  | none => true
  | some digits => Text.beginsWith (Text.ofNat status) digits

def matchesLog (v : JournalView) (log : RequestLog) : Bool :=
  (ListView.found v.search log.request.url || ListView.found v.search log.request.method)
    && (v.method.isNone || some log.request.method == v.method)
    && statusMatches v.statusPrefix log.responseDefinition.status

/-- The order of two logs in the view. -/
def cmp (order : SortOrder) (a b : RequestLog) : Ordering :=
  match a.time?, b.time?, order with
  | some x, some y, .ascending => x.cmp y
  | some x, some y, .descending => y.cmp x
  | _, _, _ => a.cmpTime b

/-- The logs shown, in order. -/
def shown (v : JournalView) (logs : List RequestLog) : List RequestLog :=
  (logs.filter v.matchesLog).mergeSort fun a b => (cmp v.order a b).isLE

def selectedEntry? (v : JournalView) (logs : List RequestLog) : Option RequestLog :=
  (v.shown logs)[v.selected]?

def cycleStatus (v : JournalView) : JournalView :=
  { v with statusPrefix := cycleFilter statusFilters v.statusPrefix, selected := 0 }

def cycleMethod (v : JournalView) : JournalView :=
  { v with method := cycleFilter methodFilters v.method, selected := 0 }

def toggleOrder (v : JournalView) : JournalView := { v with order := v.order.toggle }

end JournalView

end StubConsole
