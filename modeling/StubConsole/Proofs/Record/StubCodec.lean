import StubConsole.GraphQlStub
import StubConsole.Proofs.Record.PatternCodec
import StubConsole.SoapStub

/-!
# StubCodec — stubs of all kinds are read back

For each kind of stub: what it holds when it was read from a document, how deep its unmodelled
parts may be nested, and that it is read back.
-/

namespace StubConsole

open Rule Members

/-! ## Unmodelled parts -/

/-- The values of the members that no record models. -/
def valuesOf (extra : SortedMap Json) : List Json :=
  extra.entries.map (·.2)

theorem mem_valuesOf {extra : SortedMap Json} {e : String × Json} (h : e ∈ extra.entries) :
    e.2 ∈ valuesOf extra :=
  List.mem_map_of_mem h

/-! ## REST stubs -/

namespace Stub

def slots (s : Stub) : List (String × Option Json) :=
  [("id", filled s.id), ("name", some (.str s.name)), ("request", some s.request.toJson),
   ("response", some s.response.toJson), ("priority", s.priority.map .ofInt),
   ("scenario", s.scenario.map ScenarioRef.toJson),
   ("requiredScenarioState", s.requiredScenarioState.map .str),
   ("newScenarioState", s.newScenarioState.map .str), ("persistent", s.persistent.map .bool),
   ("enabled", s.enabled.map .bool), ("metadata", s.metadata)]

theorem toJson_eq (s : Stub) : s.toJson = .obj (ofSlots s.slots ++ s.extra.entries) := by
  simp [toJson, slots, ofSlots, unlessEmpty_eq, whenSome]

/-- The stub holds what a document can say. -/
structure Sound (s : Stub) : Prop where
  request : s.request.Sound
  response : s.response.Sound
  priority : ∀ n ∈ s.priority, InInt32 n
  metadata : ∀ doc ∈ s.metadata, IsValue doc
  extra : Unmodelled names s.extra

/-- The unmodelled parts leave room for the levels around them. -/
structure Fits (depth : Nat) (s : Stub) : Prop where
  request : s.request.Fits depth
  response : s.response.Fits depth
  metadata : ∀ doc ∈ s.metadata, Json.Within (depth + 1) doc
  extra : ∀ e ∈ s.extra.entries, Json.Within (depth + 1) e.2

/-- The documents inside a stub that are kept as they came. -/
def unmodelled (s : Stub) : List Json :=
  s.metadata.toList ++ valuesOf s.extra ++ valuesOf s.request.extra ++ valuesOf s.response.extra

theorem ofJson?_toJson {s : Stub} (h : s.Sound) : ofJson? s.toJson = some s := by
  have hold : Hold (ofSlots s.slots ++ s.extra.entries) s.slots :=
    hold_ofSlots (by decide : names.Nodup) h.extra.foreign
  -- one fact for each member: its rule gives back the value that its slot was written from
  have hid := hold.field "id" (ident_filled s.id) (by simp [slots])
  have hname := hold.field "name" (text_str s.name) (by simp [slots])
  have hrequest := hold.field "request" (orElse_some .empty
    (RequestPattern.ofJson?_toJson h.request)) (by simp [slots])
  have hresponse := hold.field "response" (orElse_some .empty
    (ResponseDefinition.ofJson?_toJson h.response)) (by simp [slots])
  have hpriority := hold.field "priority" (optional_map_int32 h.priority) (by simp [slots])
  have hscenario := hold.field "scenario"
    (optional_map s.scenario (fun r _ => r.ofJson?_toJson) (fun r _ => r.toJson_ne_null))
    (by simp [slots])
  have hrequired := hold.field "requiredScenarioState"
    (optional_map_str s.requiredScenarioState) (by simp [slots])
  have hnew :=
    hold.field "newScenarioState" (optional_map_str s.newScenarioState) (by simp [slots])
  have hpersistent := hold.field "persistent" (optional_map_bool s.persistent) (by simp [slots])
  have henabled := hold.field "enabled" (optional_map_bool s.enabled) (by simp [slots])
  have hmetadata := hold.field "metadata" (optional_value h.metadata) (by simp [slots])
  have hextra : others (ofSlots s.slots ++ s.extra.entries) names = s.extra :=
    others_ofSlots (fun slot hslot => List.mem_map_of_mem hslot) h.extra
  rw [toJson_eq]
  -- the rules in the order in which the record is read
  refine bind_eq_some_of rfl <| bind_eq_some_of hid <| bind_eq_some_of hname <|
    bind_eq_some_of hrequest <| bind_eq_some_of hresponse <| bind_eq_some_of hpriority <|
    bind_eq_some_of hscenario <| bind_eq_some_of hrequired <| bind_eq_some_of hnew <|
    bind_eq_some_of hpersistent <| bind_eq_some_of henabled <| bind_eq_some_of hmetadata <| ?_
  exact congrArg (fun extra => some { s with extra }) hextra

theorem of_ofJson? {doc : Json} {s : Stub} (h : ofJson? doc = some s) :
    s.Sound ∧ ∀ depth, Json.Within (depth + 2) doc → s.Fits depth := by
  simp only [ofJson?, ↓bind_eq_some_iff] at h
  obtain ⟨m, hm, id, -, name, -, request, hrequest, response, hresponse, priority, hpriority,
    scenario, -, requiredState, -, newState, -, persistent, -, enabled, -, metadata, hmetadata,
    h⟩ := h
  cases h
  -- numbers and documents are bounded by the rules that they passed
  rcases exists_of_field hpriority with ⟨priorityValue, hpriority, -⟩
  rcases exists_of_field hmetadata with ⟨metadataValue, hvalue, -⟩
  constructor
  · exact {
      request := orElse_field hrequest RequestPattern.sound_empty
        fun doc _ hread => (RequestPattern.of_ofJson? hread).1
      response := orElse_field hresponse ResponseDefinition.sound_empty
        fun doc _ hread => (ResponseDefinition.of_ofJson? hread).1
      priority := inInt32_of_optional hpriority
      metadata := isValue_of_optional hvalue
      extra := unmodelled_others m names }
  · intro depth hwithin
    -- the object itself takes one level, a request or a response another
    have hmembers := within_ofObject? hm hwithin
    exact {
      request := orElse_field hrequest ⟨fun _ he => nomatch he⟩
        fun doc hdoc hread => (RequestPattern.of_ofJson? hread).2 depth (hmembers _ hdoc)
      response := orElse_field hresponse ⟨fun _ he => nomatch he⟩
        fun doc hdoc hread => (ResponseDefinition.of_ofJson? hread).2 depth (hmembers _ hdoc)
      metadata := within_of_optional hmetadata hmembers
      extra := within_others hmembers }

theorem readable_toJson {depth : Nat} {s : Stub} (hfits : s.Fits (depth + 2))
    (hwhole : ∀ doc ∈ s.unmodelled, doc.isWhole = true) (hsound : s.Sound) :
    Json.Readable (.record fields true) (depth + 4) s.toJson := by
  have hrequest : Json.Readable RequestPattern.shape (depth + 3) s.request.toJson :=
    RequestPattern.readable_toJson hfits.request
      (fun e he => hwhole e.2 (by simp [unmodelled, mem_valuesOf he])) hsound.request
  have hresponse : Json.Readable ResponseDefinition.shape (depth + 3) s.response.toJson :=
    ResponseDefinition.readable_toJson hfits.response
      (fun e he => hwhole e.2 (by simp [unmodelled, mem_valuesOf he])) hsound.response
  have hscenario : ∀ r : ScenarioRef, Json.Readable ScenarioRef.shape (depth + 3) r.toJson :=
    fun r => r.readable_toJson.mono (Nat.le_add_left 1 (depth + 2))
  have hmetadata : ∀ doc, s.metadata = some doc → Json.Readable .any (depth + 3) doc :=
    fun doc h => .any (hfits.metadata doc h) (hwhole doc (by simp [unmodelled, h]))
  rw [toJson_eq]
  refine readable_ofSlots rfl ?_ ?_
  · simp only [slots, List.forall_mem_cons, List.not_mem_nil, false_implies, implies_true,
      and_true]
    exact ⟨readable_filled _, readable_some (.str _), readable_some hrequest,
      readable_some hresponse, readable_map_int32 hsound.priority,
      readable_map fun r _ => hscenario r, readable_map_str _, readable_map_str _,
      readable_map_bool _, readable_map_bool _, hmetadata⟩
  · exact readable_unmodelled hsound.extra hfits.extra
      fun e he => hwhole e.2 (by simp [unmodelled, mem_valuesOf he])

end Stub

/-! ## GraphQL stubs -/

namespace GraphQlStub

def slots (s : GraphQlStub) : List (String × Option Json) :=
  [("id", filled s.id), ("name", some (.str s.name)),
   ("operationName", some (.str s.operationName)), ("query", some (.str s.query)),
   ("variables", s.bindings.map .str), ("response", some (.str s.response)),
   ("priority", s.priority.map .ofInt), ("scenarioName", s.scenarioName.map .str),
   ("requiredScenarioState", s.requiredScenarioState.map .str),
   ("newScenarioState", s.newScenarioState.map .str), ("persistent", s.persistent.map .bool),
   ("enabled", some (.bool s.enabled)), ("metadata", s.metadata)]

theorem toJson_eq (s : GraphQlStub) : s.toJson = .obj (ofSlots s.slots ++ s.extra.entries) := by
  simp [toJson, slots, ofSlots, unlessEmpty_eq, whenSome]

/-- The stub holds what a document can say. -/
structure Sound (s : GraphQlStub) : Prop where
  priority : ∀ n ∈ s.priority, InInt32 n
  metadata : ∀ doc ∈ s.metadata, IsValue doc
  extra : Unmodelled names s.extra

/-- The unmodelled parts leave room for the level around them. -/
structure Fits (depth : Nat) (s : GraphQlStub) : Prop where
  metadata : ∀ doc ∈ s.metadata, Json.Within depth doc
  extra : ∀ e ∈ s.extra.entries, Json.Within depth e.2

/-- The documents inside a stub that are kept as they came. -/
def unmodelled (s : GraphQlStub) : List Json :=
  s.metadata.toList ++ valuesOf s.extra

theorem ofJson?_toJson {s : GraphQlStub} (h : s.Sound) : ofJson? s.toJson = some s := by
  have hold : Hold (ofSlots s.slots ++ s.extra.entries) s.slots :=
    hold_ofSlots (by decide : names.Nodup) h.extra.foreign
  have hid := hold.field "id" (ident_filled s.id) (by simp [slots])
  have hname := hold.field "name" (text_str s.name) (by simp [slots])
  have hoperation := hold.field "operationName" (text_str s.operationName) (by simp [slots])
  have hquery := hold.field "query" (text_str s.query) (by simp [slots])
  have hbindings := hold.field "variables" (looseOption_map_str s.bindings) (by simp [slots])
  have hresponse := hold.field "response" (loose_str s.response) (by simp [slots])
  have hpriority := hold.field "priority" (optional_map_int32 h.priority) (by simp [slots])
  have hscenario := hold.field "scenarioName" (optional_map_str s.scenarioName) (by simp [slots])
  have hrequired := hold.field "requiredScenarioState"
    (optional_map_str s.requiredScenarioState) (by simp [slots])
  have hnew :=
    hold.field "newScenarioState" (optional_map_str s.newScenarioState) (by simp [slots])
  have hpersistent := hold.field "persistent" (optional_map_bool s.persistent) (by simp [slots])
  have henabled := hold.field "enabled" (orElse_bool true s.enabled) (by simp [slots])
  have hmetadata := hold.field "metadata" (optional_value h.metadata) (by simp [slots])
  have hextra : others (ofSlots s.slots ++ s.extra.entries) names = s.extra :=
    others_ofSlots (fun slot hslot => List.mem_map_of_mem hslot) h.extra
  rw [toJson_eq]
  refine bind_eq_some_of rfl <| bind_eq_some_of hid <| bind_eq_some_of hname <|
    bind_eq_some_of hoperation <| bind_eq_some_of hquery <| bind_eq_some_of hbindings <|
    bind_eq_some_of hresponse <| bind_eq_some_of hpriority <| bind_eq_some_of hscenario <|
    bind_eq_some_of hrequired <| bind_eq_some_of hnew <| bind_eq_some_of hpersistent <|
    bind_eq_some_of henabled <| bind_eq_some_of hmetadata <| ?_
  exact congrArg (fun extra => some { s with extra }) hextra

theorem of_ofJson? {doc : Json} {s : GraphQlStub} (h : ofJson? doc = some s) :
    s.Sound ∧ ∀ depth, Json.Within (depth + 1) doc → s.Fits depth := by
  simp only [ofJson?, ↓bind_eq_some_iff] at h
  obtain ⟨m, hm, id, -, name, -, operation, -, query, -, bindings, -, response, -, priority,
    hpriority, scenario, -, requiredState, -, newState, -, persistent, -, enabled, -, metadata,
    hmetadata, h⟩ := h
  cases h
  rcases exists_of_field hpriority with ⟨priorityValue, hpriority, -⟩
  rcases exists_of_field hmetadata with ⟨metadataValue, hvalue, -⟩
  refine ⟨⟨inInt32_of_optional hpriority, isValue_of_optional hvalue, unmodelled_others m names⟩,
    ?_⟩
  intro depth hwithin
  have hmembers := within_ofObject? hm hwithin
  exact ⟨within_of_optional hmetadata hmembers, within_others hmembers⟩

theorem readable_toJson {depth : Nat} {s : GraphQlStub} (hfits : s.Fits depth)
    (hwhole : ∀ doc ∈ s.unmodelled, doc.isWhole = true) (hsound : s.Sound) :
    Json.Readable (.record (names.map (·, .any)) true) (depth + 1) s.toJson := by
  have hmetadata : ∀ doc, s.metadata = some doc → Json.Readable .any depth doc :=
    fun doc h => .any (hfits.metadata doc h) (hwhole doc (by simp [unmodelled, h]))
  rw [toJson_eq]
  refine readable_ofSlots rfl ?_ ?_
  · simp only [slots, List.forall_mem_cons, List.not_mem_nil, false_implies, implies_true,
      and_true]
    exact ⟨readable_filled _, readable_some (.str _), readable_some (.str _),
      readable_some (.str _), readable_map_str _, readable_some (.str _),
      readable_map_int32 hsound.priority, readable_map_str _, readable_map_str _,
      readable_map_str _, readable_map_bool _, readable_some (.bool _), hmetadata⟩
  · exact readable_unmodelled hsound.extra hfits.extra
      fun e he => hwhole e.2 (by simp [unmodelled, mem_valuesOf he])

end GraphQlStub

/-! ## SOAP stubs -/

namespace SoapStub

def slots (s : SoapStub) : List (String × Option Json) :=
  [("id", filled s.id), ("name", some (.str s.name)), ("request", some (.str s.request)),
   ("response", some (.str s.response)), ("priority", s.priority.map .ofInt),
   ("scenario", s.scenario.map ScenarioRef.toJson), ("persistent", s.persistent.map .bool),
   ("enabled", s.enabled.map .bool), ("metadata", s.metadata),
   ("soapAction", some (.str s.soapAction)), ("soapVersion", some (.str s.soapVersion.name)),
   ("wsdlUrl", s.wsdlUrl.map .str), ("xmlNamespaces", some (.str s.xmlNamespaces)),
   ("xpathMatchers", some (.str s.xpathMatchers))]

theorem toJson_eq (s : SoapStub) : s.toJson = .obj (ofSlots s.slots ++ s.extra.entries) := by
  simp [toJson, slots, ofSlots, unlessEmpty_eq, whenSome]

/-- The stub holds what a document can say. -/
structure Sound (s : SoapStub) : Prop where
  priority : ∀ n ∈ s.priority, InInt32 n
  metadata : ∀ doc ∈ s.metadata, IsValue doc
  extra : Unmodelled names s.extra

/-- The unmodelled parts leave room for the level around them. -/
structure Fits (depth : Nat) (s : SoapStub) : Prop where
  metadata : ∀ doc ∈ s.metadata, Json.Within depth doc
  extra : ∀ e ∈ s.extra.entries, Json.Within depth e.2

/-- The documents inside a stub that are kept as they came. -/
def unmodelled (s : SoapStub) : List Json :=
  s.metadata.toList ++ valuesOf s.extra

theorem choice_version (v : SoapVersion) :
    choice SoapVersion.all SoapVersion.name (.str v.name) = some v := by
  refine choice_name (by cases v <;> decide) ?_
  intro b _ hname
  cases b <;> cases v <;> first | rfl | exact absurd hname (by decide)

theorem ofJson?_toJson {s : SoapStub} (h : s.Sound) : ofJson? s.toJson = some s := by
  have hold : Hold (ofSlots s.slots ++ s.extra.entries) s.slots :=
    hold_ofSlots (by decide : names.Nodup) h.extra.foreign
  have hid := hold.field "id" (ident_filled s.id) (by simp [slots])
  have hname := hold.field "name" (text_str s.name) (by simp [slots])
  have hrequest := hold.field "request" (text_str s.request) (by simp [slots])
  have hresponse := hold.field "response" (text_str s.response) (by simp [slots])
  have hpriority := hold.field "priority" (optional_map_int32 h.priority) (by simp [slots])
  have hscenario := hold.field "scenario"
    (optional_map s.scenario (fun r _ => r.ofJson?_toJson) (fun r _ => r.toJson_ne_null))
    (by simp [slots])
  have hpersistent := hold.field "persistent" (optional_map_bool s.persistent) (by simp [slots])
  have henabled := hold.field "enabled" (optional_map_bool s.enabled) (by simp [slots])
  have hmetadata := hold.field "metadata" (optional_value h.metadata) (by simp [slots])
  have haction := hold.field "soapAction" (text_str s.soapAction) (by simp [slots])
  have hversion := hold.field "soapVersion"
    (orElse_some .v11 (choice_version s.soapVersion)) (by simp [slots])
  have hwsdl := hold.field "wsdlUrl" (optional_map_str s.wsdlUrl) (by simp [slots])
  have hnamespaces := hold.field "xmlNamespaces" (text_str s.xmlNamespaces) (by simp [slots])
  have hmatchers := hold.field "xpathMatchers" (text_str s.xpathMatchers) (by simp [slots])
  have hextra : others (ofSlots s.slots ++ s.extra.entries) names = s.extra :=
    others_ofSlots (fun slot hslot => List.mem_map_of_mem hslot) h.extra
  rw [toJson_eq]
  refine bind_eq_some_of rfl <| bind_eq_some_of hid <| bind_eq_some_of hname <|
    bind_eq_some_of hrequest <| bind_eq_some_of hresponse <| bind_eq_some_of hpriority <|
    bind_eq_some_of hscenario <| bind_eq_some_of hpersistent <| bind_eq_some_of henabled <|
    bind_eq_some_of hmetadata <| bind_eq_some_of haction <| bind_eq_some_of hversion <|
    bind_eq_some_of hwsdl <| bind_eq_some_of hnamespaces <| bind_eq_some_of hmatchers <| ?_
  exact congrArg (fun extra => some { s with extra }) hextra

theorem of_ofJson? {doc : Json} {s : SoapStub} (h : ofJson? doc = some s) :
    s.Sound ∧ ∀ depth, Json.Within (depth + 1) doc → s.Fits depth := by
  simp only [ofJson?, ↓bind_eq_some_iff] at h
  obtain ⟨m, hm, id, -, name, -, request, -, response, -, priority, hpriority, scenario, -,
    persistent, -, enabled, -, metadata, hmetadata, action, -, version, -, wsdl, -, namespaces, -,
    matchers, -, h⟩ := h
  cases h
  rcases exists_of_field hpriority with ⟨priorityValue, hpriority, -⟩
  rcases exists_of_field hmetadata with ⟨metadataValue, hvalue, -⟩
  refine ⟨⟨inInt32_of_optional hpriority, isValue_of_optional hvalue, unmodelled_others m names⟩,
    ?_⟩
  intro depth hwithin
  have hmembers := within_ofObject? hm hwithin
  exact ⟨within_of_optional hmetadata hmembers, within_others hmembers⟩

theorem readable_toJson {depth : Nat} {s : SoapStub} (hfits : s.Fits (depth + 1))
    (hwhole : ∀ doc ∈ s.unmodelled, doc.isWhole = true) (hsound : s.Sound) :
    Json.Readable (.record fields true) (depth + 2) s.toJson := by
  have hscenario : ∀ r : ScenarioRef, Json.Readable ScenarioRef.shape (depth + 1) r.toJson :=
    fun r => r.readable_toJson.mono (Nat.le_add_left 1 depth)
  have hmetadata : ∀ doc, s.metadata = some doc → Json.Readable .any (depth + 1) doc :=
    fun doc h => .any (hfits.metadata doc h) (hwhole doc (by simp [unmodelled, h]))
  rw [toJson_eq]
  refine readable_ofSlots rfl ?_ ?_
  · simp only [slots, List.forall_mem_cons, List.not_mem_nil, false_implies, implies_true,
      and_true]
    exact ⟨readable_filled _, readable_some (.str _), readable_some (.str _),
      readable_some (.str _), readable_map_int32 hsound.priority,
      readable_map fun r _ => hscenario r, readable_map_bool _, readable_map_bool _, hmetadata,
      readable_some (.str _), readable_some (.str _), readable_map_str _, readable_some (.str _),
      readable_some (.str _)⟩
  · exact readable_unmodelled hsound.extra hfits.extra
      fun e he => hwhole e.2 (by simp [unmodelled, mem_valuesOf he])

end SoapStub

end StubConsole
