import StubConsole.Json.Record

/-!
# Dashboard — counters over the whole server

Every counter that the server leaves out is zero.  The success rate is a percentage.
-/

namespace StubConsole

open Rule Members

structure DashboardStats where
  totalStubs : Nat
  activeStubs : Nat
  stubsWithFaults : Nat
  stubsWithScenarios : Nat
  totalGraphQlStubs : Nat
  activeGraphQlStubs : Nat
  totalSoapStubs : Nat
  activeSoapStubs : Nat
  totalRequests : Nat
  recentRequests : Nat
  errorRequests : Nat
  successRequests : Nat
  /-- The bits of a double. -/
  successRate : UInt64
  deriving DecidableEq, Repr

namespace DashboardStats

def zero : DashboardStats := ⟨0, 0, 0, 0, 0, 0, 0, 0, 0, 0, 0, 0, 0⟩

instance : Inhabited DashboardStats := ⟨zero⟩

def names : List String :=
  ["totalStubs", "activeStubs", "stubsWithFaults", "stubsWithScenarios", "totalGraphQLStubs",
   "activeGraphQLStubs", "totalSoapStubs", "activeSoapStubs", "totalRequests", "recentRequests",
   "errorRequests", "successRequests", "successRate"]

def ofJson? (doc : Json) : Option DashboardStats := do
  let m ← ofObjectOrArray? names 0 doc
  let counter := fun name => m.field name (orElse 0 count)
  return {
    totalStubs := ← counter "totalStubs"
    activeStubs := ← counter "activeStubs"
    stubsWithFaults := ← counter "stubsWithFaults"
    stubsWithScenarios := ← counter "stubsWithScenarios"
    totalGraphQlStubs := ← counter "totalGraphQLStubs"
    activeGraphQlStubs := ← counter "activeGraphQLStubs"
    totalSoapStubs := ← counter "totalSoapStubs"
    activeSoapStubs := ← counter "activeSoapStubs"
    totalRequests := ← counter "totalRequests"
    recentRequests := ← counter "recentRequests"
    errorRequests := ← counter "errorRequests"
    successRequests := ← counter "successRequests"
    successRate := ← m.field "successRate" (orElse 0 fraction) }

def toJson (s : DashboardStats) : Json :=
  .obj [("totalStubs", .ofNat s.totalStubs), ("activeStubs", .ofNat s.activeStubs),
    ("stubsWithFaults", .ofNat s.stubsWithFaults),
    ("stubsWithScenarios", .ofNat s.stubsWithScenarios),
    ("totalGraphQLStubs", .ofNat s.totalGraphQlStubs),
    ("activeGraphQLStubs", .ofNat s.activeGraphQlStubs),
    ("totalSoapStubs", .ofNat s.totalSoapStubs), ("activeSoapStubs", .ofNat s.activeSoapStubs),
    ("totalRequests", .ofNat s.totalRequests), ("recentRequests", .ofNat s.recentRequests),
    ("errorRequests", .ofNat s.errorRequests), ("successRequests", .ofNat s.successRequests),
    ("successRate", .num (.float s.successRate))]

instance : Record DashboardStats where
  shape := .record (names.map (·, .any)) false
  ofJson? := ofJson?
  toJson := toJson

end DashboardStats

end StubConsole
