import StubConsole.Proofs.Form.Shown

/-!
# Apart — an edit of one field leaves the others alone

Several fields are kept in one place: the kind of address and the address, a scenario and its
states, the headers that are rows and the rules that are not.  An edit changes what its own field
shows, and only where fields depend on each other more than that.

* `Stub.withFieldOf` and its likes — a stub with the data of one field from another stub;
* `Stub.setField_eq_withFieldOf` and its likes — an edit is no more than that;
* `StubKind.Apart` — what stays, and what becomes of a stub that leaves its scenario;
* `StubKind.apart_edit` — any edit of any field;
* `StubKind.edited`, `StubKind.editedBy` — a stub after edits of any fields.
-/

namespace StubConsole

open Json (exists_of_bind_eq_ok)
open Rows Text

/-! ## Rules beside rows -/

/-- A rule that is no row stays, unless a row was typed under its name. -/
theorem mem_replacePlainRows {rules after : SortedMap MatchRule} {text : String}
    {e : String × MatchRule} (h : replacePlainRows rules text = .ok after)
    (he : e ∈ rules.entries) (hother : e.2.equalTo = none) :
    e ∈ after.entries ∨ ∃ value, (e.1, MatchRule.ofValue value) ∈ after.entries := by
  rcases rowsStored_of_replacePlainRows h with ⟨rows, -, hstored⟩
  by_cases hnamed : ∃ row ∈ rows, row.1 = e.1
  · rcases hnamed with ⟨row, hrow, hname⟩
    rcases hstored.stored row hrow with ⟨value, -, hvalue⟩
    exact .inr ⟨value, hname ▸ hvalue⟩
  · exact .inl ((hstored.hidden e he hother).2 fun row hrow hname => hnamed ⟨row, hrow, hname⟩)

/-! ## REST stubs -/

namespace RequestPattern

theorem urlValue_setUrlKind (p : RequestPattern) (kind : UrlKind) :
    (p.setUrlKind kind).urlValue = p.urlValue :=
  p.urlValue_withUrl kind p.urlValue

end RequestPattern

namespace Stub

/-- The stub with the data of one field taken from another one.  A kind of address is nothing
without an address, so the two are taken together. -/
def withFieldOf (s t : Stub) : RestField → Stub
  | .method => { s with request := { s.request with method := t.request.method } }
  | .urlKind | .urlValue =>
      { s with
        request :=
          { s.request with
            url := t.request.url
            urlPath := t.request.urlPath
            urlPattern := t.request.urlPattern
            urlPathPattern := t.request.urlPathPattern } }
  | .requestHeaders => { s with request := { s.request with headers := t.request.headers } }
  | .queryParams =>
      { s with request := { s.request with queryParameters := t.request.queryParameters } }
  | .bodyPatterns =>
      { s with request := { s.request with bodyMatchers := t.request.bodyMatchers } }
  | .status => { s with response := { s.response with status := t.response.status } }
  | .responseHeaders => { s with response := { s.response with headers := t.response.headers } }
  | .body => { s with response := { s.response with body := t.response.body } }
  | .delay =>
      { s with
        response :=
          { s.response with fixedDelayMilliseconds := t.response.fixedDelayMilliseconds } }
  | .fault => { s with response := { s.response with fault := t.response.fault } }
  | .scenarioName => { s with scenario := some ⟨t.scenarioName, s.scenario.bind (·.state)⟩ }
  | .requiredState => { s with requiredScenarioState := t.requiredScenarioState }
  | .newState => { s with newScenarioState := t.newScenarioState }
  | .name => { s with name := t.name }
  | .priority => { s with priority := t.priority }
  | .persistent => { s with persistent := t.persistent }
  | .enabled => { s with enabled := t.enabled }
  | .metadata => { s with metadata := t.metadata }

/-- The two fields of an address. -/
def urlFields : List RestField := [.urlKind, .urlValue]

variable {s t : Stub} {field other : RestField} {text : String}

theorem trim_eq_empty_iff : trim text = "" ↔ allBlank text = true := by
  rw [allBlank, ← trimChars_eq_nil_iff, trim, ← String.ofList_nil, String.ofList_inj]

theorem setField_eq_withFieldOf (h : s.setField field text = .ok t)
    (hkept : field = .scenarioName → ¬ allBlank text = true) : t = s.withFieldOf t field := by
  cases field with
  | method | urlKind | urlValue | fault | persistent | enabled | body | requiredState | newState
  | name =>
      cases h
      rfl
  | requestHeaders | queryParams | bodyPatterns | status | responseHeaders | delay | priority
  | metadata =>
      rcases exists_of_bind_eq_ok h with ⟨_, -, hstored⟩
      cases hstored
      rfl
  | scenarioName =>
      obtain rfl := Except.ok.inj h
      have hname : ¬ trim text = "" := by
        rw [trim_eq_empty_iff]
        exact hkept rfl
      cases hscenario : s.scenario <;>
        simp [withFieldOf, setScenarioName, scenarioName, hname, hscenario]

/-- Outside the fields of an address each field shows data of its own. -/
theorem fieldValue_withFieldOf (s t : Stub) (hne : other ≠ field)
    (hurl : field ∈ urlFields → other ∉ urlFields) :
    (s.withFieldOf t field).fieldValue other = s.fieldValue other := by
  cases field <;> cases other <;> first
    | rfl
    | exact absurd rfl hne
    | exact absurd (by decide) (hurl (by decide))

/-- Of the two fields of an address each reads what the other one shows, and puts it back. -/
theorem fieldValue_setField_url (h : s.setField field text = .ok t) (hfield : field ∈ urlFields)
    (hother : other ∈ urlFields) (hne : other ≠ field) :
    t.fieldValue other = s.fieldValue other := by
  simp only [urlFields, List.mem_cons, List.not_mem_nil, or_false] at hfield hother
  rcases hfield with rfl | rfl <;> rcases hother with rfl | rfl
  · exact absurd rfl hne
  · cases h
    exact s.request.urlValue_setUrlKind s.request.urlKind.next
  · cases h
    exact congrArg UrlKind.label (s.request.urlKind_setUrlValue (trim text))
  · exact absurd rfl hne

theorem fieldValue_setField (h : s.setField field text = .ok t)
    (hkept : field = .scenarioName → ¬ allBlank text = true) (hne : other ≠ field) :
    t.fieldValue other = s.fieldValue other := by
  by_cases hurl : field ∈ urlFields ∧ other ∈ urlFields
  · exact fieldValue_setField_url h hurl.1 hurl.2 hne
  · calc
      t.fieldValue other = (s.withFieldOf t field).fieldValue other :=
        congrArg (·.fieldValue other) (setField_eq_withFieldOf h hkept)
      _ = s.fieldValue other := fieldValue_withFieldOf s t hne fun hfield hother =>
        hurl ⟨hfield, hother⟩

def withoutScenario (s : Stub) : Stub :=
  { s with scenario := none, requiredScenarioState := none, newScenarioState := none }

/-- Without a name there is no scenario, and no state of it either. -/
theorem setField_eq_withoutScenario (h : s.setField .scenarioName text = .ok t)
    (hblank : allBlank text = true) : t = s.withoutScenario := by
  obtain rfl := Except.ok.inj h
  exact if_pos (trim_eq_empty_iff.2 hblank)

/-! ### Rules -/

/-- The rules in the table of a field, also those that are no rows. -/
def rules (s : Stub) : RestField → List (String × MatchRule)
  | .requestHeaders => s.request.headers.entries
  | .queryParams => s.request.queryParameters.entries
  | _ => []

theorem rules_withFieldOf (s t : Stub) (hne : other ≠ field) :
    (s.withFieldOf t field).rules other = s.rules other := by
  cases field <;> cases other <;> first
    | rfl
    | exact absurd rfl hne

/-- A rule that is no row stays, unless a row was typed under its name into its own field. -/
theorem mem_rules_setField {e : String × MatchRule} (h : s.setField field text = .ok t)
    (hkept : field = .scenarioName → ¬ allBlank text = true) (he : e ∈ s.rules other)
    (hrule : e.2.equalTo = none) :
    e ∈ t.rules other
      ∨ other = field ∧ ∃ value, (e.1, MatchRule.ofValue value) ∈ t.rules other := by
  by_cases hother : other = field
  · subst hother
    cases other with
    | requestHeaders | queryParams =>
        rcases exists_of_bind_eq_ok h with ⟨rules, hrules, hstored⟩
        cases hstored
        rcases mem_replacePlainRows hrules he hrule with hstays | hnew
        · exact .inl hstays
        · exact .inr ⟨rfl, hnew⟩
    | _ => cases he
  · have hrules : t.rules other = s.rules other :=
      (congrArg (·.rules other) (setField_eq_withFieldOf h hkept)).trans
        (rules_withFieldOf s t hother)
    exact .inl (hrules ▸ he)

end Stub

/-! ## GraphQL stubs -/

namespace GraphQlStub

/-- The stub with the data of one field taken from another one. -/
def withFieldOf (s t : GraphQlStub) : GraphQlField → GraphQlStub
  | .operationName => { s with operationName := t.operationName }
  | .query => { s with query := t.query }
  | .bindings => { s with bindings := t.bindings }
  | .response => { s with response := t.response }
  | .scenarioName => { s with scenarioName := t.scenarioName }
  | .requiredState => { s with requiredScenarioState := t.requiredScenarioState }
  | .newState => { s with newScenarioState := t.newScenarioState }
  | .name => { s with name := t.name }
  | .priority => { s with priority := t.priority }
  | .persistent => { s with persistent := t.persistent }
  | .enabled => { s with enabled := t.enabled }
  | .metadata => { s with metadata := t.metadata }

variable {s t : GraphQlStub} {field other : GraphQlField} {text : String}

theorem setField_eq_withFieldOf (h : s.setField field text = .ok t)
    (hkept : field = .scenarioName → ¬ allBlank text = true) : t = s.withFieldOf t field := by
  cases field with
  | operationName | query | bindings | response | requiredState | newState | name | persistent
  | enabled =>
      cases h
      rfl
  | priority | metadata =>
      rcases exists_of_bind_eq_ok h with ⟨_, -, hstored⟩
      cases hstored
      rfl
  | scenarioName =>
      obtain rfl := Except.ok.inj h
      have hname : optionalText text = some (trim text) := if_neg (hkept rfl)
      rw [hname]
      rfl

theorem fieldValue_withFieldOf (s t : GraphQlStub) (hne : other ≠ field) :
    (s.withFieldOf t field).fieldValue other = s.fieldValue other := by
  cases field <;> cases other <;> first
    | rfl
    | exact absurd rfl hne

def withoutScenario (s : GraphQlStub) : GraphQlStub :=
  { s with scenarioName := none, requiredScenarioState := none, newScenarioState := none }

theorem setField_eq_withoutScenario (h : s.setField .scenarioName text = .ok t)
    (hblank : allBlank text = true) : t = s.withoutScenario := by
  obtain rfl := Except.ok.inj h
  have hname : optionalText text = none := if_pos hblank
  rw [hname]
  rfl

end GraphQlStub

/-! ## SOAP stubs -/

namespace SoapStub

/-- The stub with the data of one field taken from another one.  Without a scenario there is no
state to take. -/
def withFieldOf (s t : SoapStub) : SoapField → SoapStub
  | .soapAction => { s with soapAction := t.soapAction }
  | .version => { s with soapVersion := t.soapVersion }
  | .wsdlUrl => { s with wsdlUrl := t.wsdlUrl }
  | .requestXml => { s with request := t.request }
  | .namespaces => { s with xmlNamespaces := t.xmlNamespaces }
  | .xPathMatchers => { s with xpathMatchers := t.xpathMatchers }
  | .responseXml => { s with response := t.response }
  | .scenarioName =>
      { s with
        scenario := some ⟨(t.scenario.map (·.name)).getD "", s.scenario.bind (·.state)⟩ }
  | .scenarioState =>
      { s with
        scenario := s.scenario.map fun r => { r with state := t.scenario.bind (·.state) } }
  | .name => { s with name := t.name }
  | .priority => { s with priority := t.priority }
  | .persistent => { s with persistent := t.persistent }
  | .enabled => { s with enabled := t.enabled }
  | .metadata => { s with metadata := t.metadata }

variable {s t : SoapStub} {field other : SoapField} {text : String}

theorem setScenarioState_eq_withFieldOf (h : s.setScenarioState text = .ok t) :
    t = s.withFieldOf t .scenarioState := by
  unfold setScenarioState at h
  split at h
  next scenario hscenario =>
    cases h
    simp [withFieldOf, hscenario]
  next hscenario =>
    split at h
    · cases h
      simp only [withFieldOf, hscenario, Option.map_none]
      rw [← hscenario]
    · cases h

theorem setField_eq_withFieldOf (h : s.setField field text = .ok t)
    (hkept : field = .scenarioName → ¬ allBlank text = true) : t = s.withFieldOf t field := by
  cases field with
  | soapAction | version | wsdlUrl | requestXml | responseXml | name | persistent | enabled =>
      cases h
      rfl
  | namespaces | xPathMatchers | priority | metadata =>
      rcases exists_of_bind_eq_ok h with ⟨_, -, hstored⟩
      cases hstored
      rfl
  | scenarioName =>
      obtain rfl := Except.ok.inj h
      have hname : optionalText text = some (trim text) := if_neg (hkept rfl)
      cases hscenario : s.scenario <;> simp [withFieldOf, setScenarioName, hname, hscenario]
  | scenarioState => exact setScenarioState_eq_withFieldOf h

theorem fieldValue_withFieldOf (s t : SoapStub) (hne : other ≠ field) :
    (s.withFieldOf t field).fieldValue other = s.fieldValue other := by
  have hname : (s.withFieldOf t .scenarioState).fieldValue .scenarioName
      = s.fieldValue .scenarioName := by
    cases hscenario : s.scenario <;> simp [withFieldOf, fieldValue, hscenario]
  cases field <;> cases other <;> first
    | rfl
    | exact hname
    | exact absurd rfl hne

def withoutScenario (s : SoapStub) : SoapStub := { s with scenario := none }

theorem setField_eq_withoutScenario (h : s.setField .scenarioName text = .ok t)
    (hblank : allBlank text = true) : t = s.withoutScenario := by
  obtain rfl := Except.ok.inj h
  have hname : optionalText text = none := if_pos hblank
  rw [hname]
  rfl

end SoapStub

/-! ## All kinds -/

namespace StubKind

/-- An edit of a field: a text stored in it, or a step to its next choice. -/
def edit {kind : StubKind} (v : kind.Item) (field : kind.Field) :
    Option String → Except FieldError kind.Item
  | some text => Form.setValue v field text
  | none => .ok (Form.cycle v field)

/-- The field for the name of a scenario. -/
def scenarioField : (kind : StubKind) → kind.Field
  | .rest => RestField.scenarioName
  | .graphQl => GraphQlField.scenarioName
  | .soap => SoapField.scenarioName

/-- The fields for the states of a scenario. -/
def stateFields : (kind : StubKind) → List kind.Field
  | .rest => [RestField.requiredState, RestField.newState]
  | .graphQl => [GraphQlField.requiredState, GraphQlField.newState]
  | .soap => [SoapField.scenarioState]

/-- A blank text in the field for its name takes a stub out of its scenario. -/
def Leaves {kind : StubKind} (field : kind.Field) (typed : Option String) : Prop :=
  field = kind.scenarioField ∧ ∃ text ∈ typed, allBlank text = true

def inScenario : (kind : StubKind) → kind.Item → Bool
  | .rest, s => (Stub.scenario s).isSome
  | .graphQl, s => (GraphQlStub.scenarioName s).isSome
  | .soap, s => (SoapStub.scenario s).isSome

/-- The fields that share the addresses of a stub. -/
def urlFields : (kind : StubKind) → List kind.Field
  | .rest => Stub.urlFields
  | .graphQl | .soap => []

/-- All addresses of a stub, also those that are not shown because another one counts. -/
def addresses : (kind : StubKind) → kind.Item → List (Option String)
  | .rest, s => UrlKind.all.map (RequestPattern.slot (Stub.request s))
  | .graphQl, _ | .soap, _ => []

/-- The rules in the table of a field, also those that are no rows. -/
def rules : (kind : StubKind) → kind.Item → kind.Field → List (String × MatchRule)
  | .rest => Stub.rules
  | .graphQl | .soap => fun _ _ => []

/-- The status message and the transformers of a response, which have no field. -/
def unshown : (kind : StubKind) → kind.Item → Option String × List String
  | .rest, s => ((Stub.response s).statusMessage, (Stub.response s).transformers)
  | .graphQl, _ | .soap, _ => (none, [])

/-- The state that a REST stub keeps with the name of its scenario, which has no field either. -/
def unshownState : (kind : StubKind) → kind.Item → Option String
  | .rest, s => (Stub.scenario s).bind (·.state)
  | .graphQl, _ | .soap, _ => none

/-- The stub with the data of one field taken from another one. -/
def withFieldOf : (kind : StubKind) → (v w : kind.Item) → kind.Field → kind.Item
  | .rest => Stub.withFieldOf
  | .graphQl => GraphQlStub.withFieldOf
  | .soap => SoapStub.withFieldOf

def withoutScenario : (kind : StubKind) → kind.Item → kind.Item
  | .rest => Stub.withoutScenario
  | .graphQl => GraphQlStub.withoutScenario
  | .soap => SoapStub.withoutScenario

/-- What an edit of a field leaves alone.  If it takes the stub out of its scenario, the fields for
the states are cleared along with the scenario, and nothing else is. -/
structure Apart (kind : StubKind) (field : kind.Field) (leaves : Prop) (v w : kind.Item) :
    Prop where
  id : Form.id w = Form.id v
  values : ∀ other, other ≠ field → (leaves → other ∉ kind.stateFields) →
    Form.value w other = Form.value v other
  extras : kind.extras w = kind.extras v
  unshown : kind.unshown w = kind.unshown v
  unshownState : ¬ leaves → kind.unshownState w = kind.unshownState v
  addresses : field ∉ kind.urlFields → kind.addresses w = kind.addresses v
  rules : ∀ other, ∀ e ∈ kind.rules v other, e.2.equalTo = none →
    e ∈ kind.rules w other
      ∨ other = field ∧ ∃ value, (e.1, MatchRule.ofValue value) ∈ kind.rules w other
  rest : w = v ∨ w = kind.withFieldOf v w field ∨ leaves ∧ w = kind.withoutScenario v
  left : leaves → kind.inScenario w = false ∧
    ∀ state ∈ kind.stateFields, Form.value w state = ""

variable {kind : StubKind} {v w : kind.Item} {field other : kind.Field} {text : String}

/-! ### Nothing done -/

/-- Text fields have no choices to step through. -/
theorem cycle_of_isText (h : (Form.kind kind.Item field).isText = true) (v : kind.Item) :
    Form.cycle v field = v := by
  cases kind <;> cases field <;> first
    | exact absurd h (by decide)
    | rfl

theorem Apart.refl (field : kind.Field) (v : kind.Item) : kind.Apart field False v v where
  id := rfl
  values := fun _ _ _ => rfl
  extras := rfl
  unshown := rfl
  unshownState := fun _ => rfl
  addresses := fun _ => rfl
  rules := fun _ _ he _ => .inl he
  rest := .inl rfl
  left := fun hleaves => hleaves.elim

/-! ### A value stored -/

/-- A step to the next choice is what storing any text would do. -/
theorem setValue_of_choice (h : (Form.kind kind.Item field).isText = false) (v : kind.Item)
    (text : String) : Form.setValue v field text = .ok (Form.cycle v field) := by
  cases kind <;> cases field <;> first
    | exact absurd h (by decide)
    | rfl

theorem setValue_eq_withFieldOf (h : Form.setValue v field text = .ok w)
    (hkept : field = kind.scenarioField → ¬ allBlank text = true) :
    w = kind.withFieldOf v w field := by
  cases kind with
  | rest => exact Stub.setField_eq_withFieldOf h hkept
  | graphQl => exact GraphQlStub.setField_eq_withFieldOf h hkept
  | soap => exact SoapStub.setField_eq_withFieldOf h hkept

theorem value_setValue (h : Form.setValue v field text = .ok w)
    (hkept : field = kind.scenarioField → ¬ allBlank text = true) (hne : other ≠ field) :
    Form.value w other = Form.value v other := by
  have hframe : Form.value w other = Form.value (kind.withFieldOf v w field) other :=
    congrArg (Form.value · other) (setValue_eq_withFieldOf h hkept)
  cases kind with
  | rest => exact Stub.fieldValue_setField h hkept hne
  | graphQl => exact hframe.trans (GraphQlStub.fieldValue_withFieldOf v w hne)
  | soap => exact hframe.trans (SoapStub.fieldValue_withFieldOf v w hne)

theorem apart_setValue (h : Form.setValue v field text = .ok w)
    (hkept : field = kind.scenarioField → ¬ allBlank text = true) :
    kind.Apart field False v w := by
  have hframe := setValue_eq_withFieldOf h hkept
  have hpart {α : Type} (part : kind.Item → α)
      (hpart : part (kind.withFieldOf v w field) = part v) : part w = part v :=
    (congrArg part hframe).trans hpart
  exact {
    id := hpart Form.id (by cases kind <;> cases field <;> rfl)
    values := fun other hne _ => value_setValue h hkept hne
    extras := extras_setValue h
    unshown := hpart kind.unshown (by cases kind <;> cases field <;> rfl)
    unshownState := fun _ => hpart kind.unshownState (by cases kind <;> cases field <;> rfl)
    addresses := by
      intro hurl
      refine hpart kind.addresses ?_
      cases kind <;> cases field <;> first
        | rfl
        | exact absurd (by decide) hurl
    rules := by
      intro other e he hrule
      cases kind with
      | rest => exact Stub.mem_rules_setField h hkept he hrule
      | graphQl | soap => cases he
    rest := .inr (.inl hframe)
    left := fun hleaves => hleaves.elim }

/-! ### A scenario left -/

theorem setValue_eq_withoutScenario (h : Form.setValue v kind.scenarioField text = .ok w)
    (hblank : allBlank text = true) : w = kind.withoutScenario v := by
  cases kind with
  | rest => exact Stub.setField_eq_withoutScenario h hblank
  | graphQl => exact GraphQlStub.setField_eq_withoutScenario h hblank
  | soap => exact SoapStub.setField_eq_withoutScenario h hblank

theorem value_withoutScenario (v : kind.Item) (hne : other ≠ kind.scenarioField)
    (hstate : other ∉ kind.stateFields) :
    Form.value (kind.withoutScenario v) other = Form.value v other := by
  cases kind <;> cases other <;> first
    | rfl
    | exact absurd rfl hne
    | exact absurd (by decide) hstate

theorem apart_withoutScenario (v : kind.Item) :
    kind.Apart kind.scenarioField True v (kind.withoutScenario v) where
  id := by cases kind <;> rfl
  values := fun other hne hstate => value_withoutScenario v hne (hstate trivial)
  extras := by cases kind <;> rfl
  unshown := by cases kind <;> rfl
  unshownState := fun hstays => absurd trivial hstays
  addresses := by cases kind <;> exact fun _ => rfl
  rules := by
    intro other e he _
    cases kind with
    | rest => cases (other : RestField) <;> exact .inl he
    | graphQl | soap => cases he
  rest := .inr (.inr ⟨trivial, rfl⟩)
  left := by
    refine fun _ => ⟨by cases kind <;> rfl, ?_⟩
    cases kind <;> simp only [stateFields, List.forall_mem_cons, List.not_mem_nil, false_implies,
      implies_true, and_true] <;> first
      | rfl
      | exact ⟨rfl, rfl⟩

/-! ### Any edit -/

variable {typed : Option String}

theorem apart_of_leaves (hleaves : Leaves field typed) (h : edit v field typed = .ok w) :
    kind.Apart field (Leaves field typed) v w := by
  have htrue : Leaves field typed = True := eq_true hleaves
  rw [htrue]
  rcases hleaves with ⟨rfl, text, rfl, hblank⟩
  obtain rfl := setValue_eq_withoutScenario h hblank
  exact apart_withoutScenario v

theorem apart_of_stays (hstays : ¬ Leaves field typed) (h : edit v field typed = .ok w) :
    kind.Apart field (Leaves field typed) v w := by
  have hfalse : Leaves field typed = False := eq_false hstays
  rw [hfalse]
  cases typed with
  | some text =>
      exact apart_setValue h fun hfield hblank => hstays ⟨hfield, text, rfl, hblank⟩
  | none =>
      cases h
      cases htext : (Form.kind kind.Item field).isText with
      | true =>
          rw [cycle_of_isText htext]
          exact .refl field v
      | false =>
          -- a choice is stored like a text that is not blank
          exact apart_setValue (setValue_of_choice htext v "-") fun _ => by decide

/-- Whatever is typed into a field or chosen in it, every other field of every tab shows what it
showed, and what no field shows stays as it was. -/
theorem apart_edit (kind : StubKind) (v w : kind.Item) (field : kind.Field)
    (typed : Option String) (h : edit v field typed = .ok w) :
    kind.Apart field (Leaves field typed) v w := by
  by_cases hleaves : Leaves field typed
  · exact apart_of_leaves hleaves h
  · exact apart_of_stays hleaves h

/-- A stub with two addresses, of which the path counts, in a scenario with a state in each of
its three places. -/
def joined : Stub :=
  { Stub.fresh with
    request := { Stub.fresh.request with url := some "/b?c" }
    scenario := some ⟨"order", some "Started"⟩
    requiredScenarioState := some "Started"
    newScenarioState := some "Paid" }

theorem apart_edit_joined :
    (∃ w, @edit .rest joined RestField.scenarioName (some " ") = .ok w ∧
      inScenario .rest w = false ∧ Form.value w RestField.newState = "" ∧
      Form.value w RestField.urlValue = "/") ∧
    ∃ w, @edit .rest joined RestField.urlKind none = .ok w ∧
      Form.value w RestField.urlKind = "URL Path Pattern" ∧
      Form.value w RestField.urlValue = "/" ∧ Stub.request w ≠ joined.request ∧
      unshownState .rest w = some "Started" := by
  have hleaves : @Leaves .rest RestField.scenarioName (some " ") := ⟨rfl, " ", rfl, by decide⟩
  have hstays : ¬ @Leaves .rest RestField.urlKind none := fun h => nomatch h.1
  have hleft := apart_edit .rest joined joined.withoutScenario RestField.scenarioName (some " ") rfl
  have hstepped := apart_edit .rest joined (joined.cycleField .urlKind) RestField.urlKind none rfl
  constructor
  · rcases hleft.left hleaves with ⟨hout, hstates⟩
    have hurl := hleft.values RestField.urlValue (by decide) fun _ => by decide
    exact ⟨_, rfl, hout, hstates RestField.newState (by decide), hurl⟩
  · have hurl := hstepped.values RestField.urlValue (by decide) fun _ => by decide
    exact ⟨_, rfl, rfl, hurl, by decide, hstepped.unshownState hstays⟩

/-! ### Edits in a row -/

/-- A field, with the text typed into it or none for a step to its next choice. -/
abbrev Edit (kind : StubKind) : Type := kind.Field × Option String

/-- The stub after an edit; one that is refused leaves it alone. -/
def edited (v : kind.Item) (e : kind.Edit) : kind.Item :=
  match edit v e.1 e.2 with
  | .ok w => w
  | .error _ => v

def editedBy (v : kind.Item) (edits : List kind.Edit) : kind.Item := edits.foldl edited v

theorem editedBy_concat (v : kind.Item) (edits : List kind.Edit) (e : kind.Edit) :
    editedBy v (edits ++ [e]) = edited (editedBy v edits) e :=
  List.foldl_concat ..

theorem edited_eq (h : Form.setValue v field text = .ok w) : edited v (field, some text) = w := by
  have hedit : edit v field (some text) = .ok w := h
  rw [edited, hedit]

theorem edited_eq_self {fault : FieldError} (h : Form.setValue v field text = .error fault) :
    edited v (field, some text) = v := by
  have hedit : edit v field (some text) = .error fault := h
  rw [edited, hedit]

/-- An edit is refused, or it does what it does to its own field and nothing else. -/
theorem edited_cases (v : kind.Item) (e : kind.Edit) :
    edited v e = v ∨ ∃ w, edit v e.1 e.2 = .ok w ∧ edited v e = w
      ∧ kind.Apart e.1 (Leaves e.1 e.2) v w := by
  rw [edited]
  cases hedit : edit v e.1 e.2 with
  | error fault => exact .inl rfl
  | ok w =>
      refine .inr ⟨w, rfl, rfl, ?_⟩
      by_cases hleaves : Leaves e.1 e.2
      · exact apart_of_leaves hleaves hedit
      · exact apart_of_stays hleaves hedit

end StubKind

end StubConsole
