import StubConsole.Proofs.Json.Delivered
import StubConsole.Proofs.Record.StubCodec
import StubConsole.StubKind

/-!
# Edits — form edits leave unmodelled members alone

No field of any form shows the members that a record does not model, and none changes them.

* `StubKind.extras` — the unmodelled members of a stub, level by level;
* `StubKind.extras_cycle`, `StubKind.extras_setValue` — both ways to edit a field keep them;
* `StubKind.unmodelled_of_read?` — a stub that was read has no modelled member among them.
-/

namespace StubConsole

open Json (exists_of_bind_eq_ok)

/-! ## REST stubs -/

namespace Stub

/-- The unmodelled members of the stub, of its request and of its response. -/
def extras (s : Stub) : List (SortedMap Json) :=
  [s.extra, s.request.extra, s.response.extra]

theorem extras_cycleField (s : Stub) (field : RestField) :
    (s.cycleField field).extras = s.extras := by
  cases field <;> rfl

theorem extras_setScenarioName (s : Stub) (name : String) :
    (s.setScenarioName name).extras = s.extras := by
  unfold setScenarioName
  split
  · rfl
  · split <;> rfl

theorem extras_setField {s t : Stub} {field : RestField} {text : String}
    (h : s.setField field text = .ok t) : t.extras = s.extras := by
  cases field with
  -- fields with choices ignore the text and step on
  | method | urlKind | fault | persistent | enabled =>
      cases h
      exact s.extras_cycleField _
  | scenarioName =>
      cases h
      exact s.extras_setScenarioName _
  | urlValue | body | requiredState | newState | name =>
      cases h
      rfl
  -- these read the text first and store what it says
  | requestHeaders | queryParams | bodyPatterns | status | responseHeaders | delay | priority
  | metadata =>
      rcases exists_of_bind_eq_ok h with ⟨_, -, hstored⟩
      cases hstored
      rfl

end Stub

/-! ## GraphQL stubs -/

namespace GraphQlStub

theorem extra_cycleField (s : GraphQlStub) (field : GraphQlField) :
    (s.cycleField field).extra = s.extra := by
  cases field <;> rfl

theorem extra_setField {s t : GraphQlStub} {field : GraphQlField} {text : String}
    (h : s.setField field text = .ok t) : t.extra = s.extra := by
  cases field with
  | persistent | enabled =>
      cases h
      rfl
  | scenarioName =>
      cases h
      unfold setScenarioName
      split <;> rfl
  | operationName | query | bindings | response | requiredState | newState | name =>
      cases h
      rfl
  | priority | metadata =>
      rcases exists_of_bind_eq_ok h with ⟨_, -, hstored⟩
      cases hstored
      rfl

end GraphQlStub

/-! ## SOAP stubs -/

namespace SoapStub

theorem extra_cycleField (s : SoapStub) (field : SoapField) :
    (s.cycleField field).extra = s.extra := by
  cases field <;> rfl

theorem extra_setField {s t : SoapStub} {field : SoapField} {text : String}
    (h : s.setField field text = .ok t) : t.extra = s.extra := by
  cases field with
  | version | persistent | enabled =>
      cases h
      rfl
  | scenarioName =>
      cases h
      unfold setScenarioName
      split <;> rfl
  -- an empty text takes the state away, any other one needs a scenario
  | scenarioState =>
      simp only [setField, setScenarioState] at h
      split at h
      · cases h
        rfl
      · split at h
        · cases h
          rfl
        · cases h
  | soapAction | wsdlUrl | requestXml | responseXml | name =>
      cases h
      rfl
  | namespaces | xPathMatchers | priority | metadata =>
      rcases exists_of_bind_eq_ok h with ⟨_, -, hstored⟩
      cases hstored
      rfl

end SoapStub

/-! ## All kinds -/

namespace StubKind

/-- The unmodelled members of a stub at its top level. -/
def extra : (kind : StubKind) → kind.Item → SortedMap Json
  | .rest, s => Stub.extra s
  | .graphQl, s => GraphQlStub.extra s
  | .soap, s => SoapStub.extra s

/-- The unmodelled members of a stub at all levels, those at the top first. -/
def extras : (kind : StubKind) → kind.Item → List (SortedMap Json)
  | .rest, s => Stub.extras s
  | .graphQl, s => [GraphQlStub.extra s]
  | .soap, s => [SoapStub.extra s]

variable {kind : StubKind}

theorem extra_eq_of_extras_eq {v w : kind.Item} (h : kind.extras v = kind.extras w) :
    kind.extra v = kind.extra w := by
  cases kind with
  | rest => exact (List.cons.inj h).1
  | graphQl => exact (List.cons.inj h).1
  | soap => exact (List.cons.inj h).1

theorem extras_cycle (v : kind.Item) (field : kind.Field) :
    kind.extras (Form.cycle v field) = kind.extras v := by
  cases kind with
  | rest => exact Stub.extras_cycleField v field
  | graphQl => exact congrArg (fun e => [e]) (GraphQlStub.extra_cycleField v field)
  | soap => exact congrArg (fun e => [e]) (SoapStub.extra_cycleField v field)

theorem extras_setValue {v w : kind.Item} {field : kind.Field} {text : String}
    (h : Form.setValue v field text = .ok w) : kind.extras w = kind.extras v := by
  cases kind with
  | rest => exact Stub.extras_setField h
  | graphQl => exact congrArg (fun e => [e]) (GraphQlStub.extra_setField h)
  | soap => exact congrArg (fun e => [e]) (SoapStub.extra_setField h)

theorem extra_setId (v : kind.Item) (id : String) :
    kind.extra (Form.setId v id) = kind.extra v := by
  cases kind <;> rfl

/-- The members that a kind of stub models. -/
def names : StubKind → List String
  | .rest => Stub.names
  | .graphQl => GraphQlStub.names
  | .soap => SoapStub.names

theorem unmodelled_of_read? {v : kind.Item} {text : String} (h : Record.read? text = some v) :
    Members.Unmodelled kind.names (kind.extra v) := by
  rcases Option.bind_eq_some_iff.1 h with ⟨doc, -, hread⟩
  cases kind with
  | rest => exact (Stub.of_ofJson? hread).1.extra
  | graphQl => exact (GraphQlStub.of_ofJson? hread).1.extra
  | soap => exact (SoapStub.of_ofJson? hread).1.extra

end StubKind

end StubConsole
