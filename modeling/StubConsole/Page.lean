/-!
# Page — the pages of the console
-/

namespace StubConsole

inductive Page where
  | dashboard
  | stubs
  | graphQl
  | soap
  | scenarios
  | requests
  | recording
  | importExport
  | settings
  deriving DecidableEq, Repr

namespace Page

/-- All pages, in the order of the sidebar. -/
def all : List Page :=
  [.dashboard, .stubs, .graphQl, .soap, .scenarios, .requests, .recording, .importExport, .settings]

def title : Page → String
  | .dashboard => "Dashboard"
  | .stubs => "REST Stubs"
  | .graphQl => "GraphQL Stubs"
  | .soap => "SOAP Stubs"
  | .scenarios => "Scenarios"
  | .requests => "Request Journal"
  | .recording => "Recording"
  | .importExport => "Import / Export"
  | .settings => "Settings"

/-- The place of a page in the sidebar, counted from zero. -/
def index (page : Page) : Nat := all.idxOf page

/-- The page below in the sidebar, the first one below the last. -/
def next : Page → Page
  | .dashboard => .stubs
  | .stubs => .graphQl
  | .graphQl => .soap
  | .soap => .scenarios
  | .scenarios => .requests
  | .requests => .recording
  | .recording => .importExport
  | .importExport => .settings
  | .settings => .dashboard

/-- The page above in the sidebar, the last one above the first. -/
def prev : Page → Page
  | .dashboard => .settings
  | .stubs => .dashboard
  | .graphQl => .stubs
  | .soap => .graphQl
  | .scenarios => .soap
  | .requests => .scenarios
  | .recording => .requests
  | .importExport => .recording
  | .settings => .importExport

/-- The page of a digit; the first page has the digit one. -/
def ofDigit? (c : Char) : Option Page :=
  if '1' ≤ c ∧ c ≤ '9' then all[c.toNat - '1'.toNat]? else none

end Page

end StubConsole
