import StubConsole.Cache
import StubConsole.Form.GraphQl
import StubConsole.Form.Rest
import StubConsole.Form.Soap
import StubConsole.ListView
import StubConsole.Page

/-!
# StubKind — the three kinds of stubs

What the console does with stubs it does with all three kinds alike.  A kind tells which record
and which form belong to it.

* `StubKind` — the kinds;
* `StubKind.Item`, `StubKind.Field` — record and fields of a kind;
* `Collection` — everything that is fetched as a list.
-/

namespace StubConsole

inductive StubKind where
  | rest
  | graphQl
  | soap
  deriving DecidableEq, Repr

namespace StubKind

def all : List StubKind := [.rest, .graphQl, .soap]

@[reducible]
def Item : StubKind → Type
  | .rest => Stub
  | .graphQl => GraphQlStub
  | .soap => SoapStub

@[reducible]
def Field : StubKind → Type
  | .rest => RestField
  | .graphQl => GraphQlField
  | .soap => SoapField

instance instForm : (kind : StubKind) → Form kind.Item kind.Field
  | .rest => inferInstanceAs (Form Stub RestField)
  | .graphQl => inferInstanceAs (Form GraphQlStub GraphQlField)
  | .soap => inferInstanceAs (Form SoapStub SoapField)

instance instRecord (kind : StubKind) : Record kind.Item := (instForm kind).toRecord

instance instKeyed : (kind : StubKind) → Keyed kind.Item
  | .rest => inferInstanceAs (Keyed Stub)
  | .graphQl => inferInstanceAs (Keyed GraphQlStub)
  | .soap => inferInstanceAs (Keyed SoapStub)

instance instListed : (kind : StubKind) → Listed kind.Item
  | .rest => inferInstanceAs (Listed Stub)
  | .graphQl => inferInstanceAs (Listed GraphQlStub)
  | .soap => inferInstanceAs (Listed SoapStub)

/-- A draft to start a new stub from. -/
def fresh : (kind : StubKind) → kind.Item
  | .rest => Stub.fresh
  | .graphQl => GraphQlStub.fresh
  | .soap => SoapStub.fresh

def noun (kind : StubKind) : String := Form.noun kind.Item

/-- The page that lists the stubs of a kind. -/
def page : StubKind → Page
  | .rest => .stubs
  | .graphQl => .graphQl
  | .soap => .soap

/-- The kind of stubs that a page lists. -/
def ofPage? : Page → Option StubKind
  | .stubs => some .rest
  | .graphQl => some .graphQl
  | .soap => some .soap
  | _ => none

end StubKind

/-- What the server keeps as lists. -/
inductive Collection where
  | stubs (kind : StubKind)
  | scenarios
  | requests
  deriving DecidableEq, Repr

namespace Collection

def all : List Collection := StubKind.all.map .stubs ++ [.scenarios, .requests]

@[reducible]
def Item : Collection → Type
  | .stubs kind => kind.Item
  | .scenarios => Scenario
  | .requests => RequestLog

instance instRecord : (c : Collection) → Record c.Item
  | .stubs kind => StubKind.instRecord kind
  | .scenarios => inferInstanceAs (Record Scenario)
  | .requests => inferInstanceAs (Record RequestLog)

instance instKeyed : (c : Collection) → Keyed c.Item
  | .stubs kind => StubKind.instKeyed kind
  | .scenarios => inferInstanceAs (Keyed Scenario)
  | .requests => inferInstanceAs (Keyed RequestLog)

/-- The collection that a page shows. -/
def ofPage? : Page → Option Collection
  | .scenarios => some .scenarios
  | .requests => some .requests
  | page => (StubKind.ofPage? page).map .stubs

end Collection

end StubConsole
