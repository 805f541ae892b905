import StubConsole.Proofs.Record.Rules
import StubConsole.Recording
import StubConsole.RequestLog
import StubConsole.Scenario

/-!
# LogCodec — what the server reports is read back

Scenarios, the recorder and the log of requests have no room for unmodelled members, so nothing
but the range of a status has to be known about them.
-/

namespace StubConsole

open Rule Members

/-! ## Scenarios -/

namespace Scenario

def slots (s : Scenario) : List (String × Option Json) :=
  [("id", some (.str s.id)), ("name", some (.str s.name)), ("state", some (.str s.state)),
   ("possibleStates", some (.arr (s.possibleStates.map .str)))]

theorem toJson_eq (s : Scenario) : s.toJson = .obj (ofSlots s.slots ++ []) := by
  simp [toJson, slots, ofSlots, whenSome]

theorem ofJson?_toJson (s : Scenario) : ofJson? s.toJson = some s := by
  have hold : Hold (ofSlots s.slots ++ []) s.slots :=
    hold_ofSlots (by decide : names.Nodup) (by simp)
  have hid := hold.field "id" (ident_str s.id) (by simp [slots])
  have hname := hold.field "name" (text_str s.name) (by simp [slots])
  have hstate := hold.field "state" (text_str s.state) (by simp [slots])
  have hstates := hold.field "possibleStates"
    (orElse_some [] (list_strings s.possibleStates)) (by simp [slots])
  rw [toJson_eq]
  refine bind_eq_some_of rfl <| bind_eq_some_of hid <| bind_eq_some_of hname <|
    bind_eq_some_of hstate <| bind_eq_some_of hstates <| ?_
  rfl

theorem readable_toJson (s : Scenario) :
    Json.Readable (.record (names.map (·, .any)) false) 2 s.toJson := by
  rw [toJson_eq]
  refine readable_ofSlots rfl ?_ (by simp)
  simp only [slots, List.forall_mem_cons, List.not_mem_nil, false_implies, implies_true, and_true]
  exact ⟨readable_some (.str _), readable_some (.str _), readable_some (.str _),
    readable_some (readable_arr fun t _ => .str t)⟩

end Scenario

/-! ## The recorder -/

namespace RecordingState

def slots (s : RecordingState) : List (String × Option Json) :=
  [("status", some (.str s.status.name)), ("targetUrl", s.targetUrl.map .str)]

theorem toJson_eq (s : RecordingState) : s.toJson = .obj (ofSlots s.slots ++ []) := by
  simp [toJson, slots, ofSlots, whenSome]

theorem choice_status (status : RecordingStatus) :
    choice RecordingStatus.all RecordingStatus.name (.str status.name) = some status := by
  refine choice_name (by cases status <;> decide) ?_
  intro b _ hname
  cases b <;> cases status <;> first | rfl | exact absurd hname (by decide)

theorem ofJson?_toJson (s : RecordingState) : ofJson? s.toJson = some s := by
  have hold : Hold (ofSlots s.slots ++ []) s.slots :=
    hold_ofSlots (by decide : names.Nodup) (by simp)
  have hstatus := hold.field "status" (required_some (choice_status s.status)) (by simp [slots])
  have htarget := hold.field "targetUrl" (optional_map_str s.targetUrl) (by simp [slots])
  rw [toJson_eq]
  refine bind_eq_some_of rfl <| bind_eq_some_of hstatus <| bind_eq_some_of htarget <| ?_
  rfl

theorem readable_toJson (s : RecordingState) :
    Json.Readable (.record (names.map (·, .any)) false) 1 s.toJson := by
  rw [toJson_eq]
  refine readable_ofSlots rfl ?_ (by simp)
  simp only [slots, List.forall_mem_cons, List.not_mem_nil, false_implies, implies_true, and_true]
  exact ⟨readable_some (.str _), readable_map_str _⟩

end RecordingState

/-! ## Requests and their answers -/

namespace LoggedRequest

def slots (r : LoggedRequest) : List (String × Option Json) :=
  [("method", some (.str r.method)), ("url", some (.str r.url)),
   ("absoluteUrl", r.absoluteUrl.map .str), ("headers", some (ofTable ofStrings r.headers)),
   ("queryParams", some (ofTable ofStrings r.queryParams)), ("body", r.body.map .str)]

theorem toJson_eq (r : LoggedRequest) : r.toJson = .obj (ofSlots r.slots ++ []) := by
  simp [toJson, slots, ofSlots, whenSome]

theorem table_ofStrings (m : SortedMap (List String)) :
    table (list string) (ofTable ofStrings m) = some m :=
  @table_ofTable _ (list string) ofStrings m fun e _ => list_strings e.2

theorem ofJson?_toJson (r : LoggedRequest) : ofJson? r.toJson = some r := by
  have hold : Hold (ofSlots r.slots ++ []) r.slots :=
    hold_ofSlots (by decide : names.Nodup) (by simp)
  have hmethod := hold.field "method" (text_str r.method) (by simp [slots])
  have hurl := hold.field "url" (text_str r.url) (by simp [slots])
  have habsolute := hold.field "absoluteUrl" (optional_map_str r.absoluteUrl) (by simp [slots])
  have hheaders := hold.field "headers" (orElse_some ∅ (table_ofStrings r.headers))
    (by simp [slots])
  have hparams := hold.field "queryParams" (orElse_some ∅ (table_ofStrings r.queryParams))
    (by simp [slots])
  have hbody := hold.field "body" (looseOption_map_str r.body) (by simp [slots])
  rw [toJson_eq]
  refine bind_eq_some_of rfl <| bind_eq_some_of hmethod <| bind_eq_some_of hurl <|
    bind_eq_some_of habsolute <| bind_eq_some_of hheaders <| bind_eq_some_of hparams <|
    bind_eq_some_of hbody <| ?_
  rfl

theorem readable_toJson (r : LoggedRequest) : Json.Readable shape 3 r.toJson := by
  have hstrings : ∀ m : SortedMap (List String),
      Json.Readable .any 2 (ofTable ofStrings m) :=
    fun m => readable_anyTable fun e _ => readable_arr fun t _ => .str t
  rw [toJson_eq]
  refine readable_ofSlots rfl ?_ (by simp)
  simp only [slots, List.forall_mem_cons, List.not_mem_nil, false_implies, implies_true, and_true]
  exact ⟨readable_some (.str _), readable_some (.str _), readable_map_str _,
    readable_some (hstrings r.headers), readable_some (hstrings r.queryParams),
    readable_map_str _⟩

end LoggedRequest

namespace LoggedResponse

def slots (r : LoggedResponse) : List (String × Option Json) :=
  [("status", some (.ofNat r.status)), ("body", r.body.map .str),
   ("bodyFileName", r.bodyFileName.map .str), ("headers", some (ofTable .str r.headers))]

theorem toJson_eq (r : LoggedResponse) : r.toJson = .obj (ofSlots r.slots ++ []) := by
  simp [toJson, slots, ofSlots, whenSome]

/-- The response holds what a document can say. -/
structure Sound (r : LoggedResponse) : Prop where
  status : r.status ≤ 65535

theorem ofJson?_toJson {r : LoggedResponse} (h : r.Sound) : ofJson? r.toJson = some r := by
  have hold : Hold (ofSlots r.slots ++ []) r.slots :=
    hold_ofSlots (by decide : names.Nodup) (by simp)
  have hstatus := hold.field "status" (status_ofNat h.status) (by simp [slots])
  have hbody := hold.field "body" (looseOption_map_str r.body) (by simp [slots])
  have hfile := hold.field "bodyFileName" (optional_map_str r.bodyFileName) (by simp [slots])
  have hheaders := hold.field "headers" (orElse_some ∅ (table_strings r.headers))
    (by simp [slots])
  rw [toJson_eq]
  refine bind_eq_some_of rfl <| bind_eq_some_of hstatus <| bind_eq_some_of hbody <|
    bind_eq_some_of hfile <| bind_eq_some_of hheaders <| ?_
  rfl

theorem sound_of_ofJson? {doc : Json} {r : LoggedResponse} (h : ofJson? doc = some r) :
    r.Sound := by
  simp only [ofJson?, ↓bind_eq_some_iff] at h
  rcases h with ⟨m, -, status, hstatus, body, -, file, -, headers, -, h⟩
  cases h
  rcases exists_of_field hstatus with ⟨value, hrule, -⟩
  exact ⟨le_of_status hrule⟩

theorem readable_toJson {r : LoggedResponse} (h : r.Sound) : Json.Readable shape 2 r.toJson := by
  have hheaders : Json.Readable .any 1 (ofTable .str r.headers) :=
    readable_anyTable fun e _ => .str e.2
  rw [toJson_eq]
  refine readable_ofSlots rfl ?_ (by simp)
  simp only [slots, List.forall_mem_cons, List.not_mem_nil, false_implies, implies_true, and_true]
  exact ⟨readable_some (readable_status h.status), readable_map_str _, readable_map_str _,
    readable_some hheaders⟩

end LoggedResponse

namespace RequestLog

def slots (l : RequestLog) : List (String × Option Json) :=
  [("id", some (.str l.id)), ("timestamp", some (.str l.timestamp)),
   ("request", some l.request.toJson), ("responseDefinition", some l.responseDefinition.toJson),
   ("wasMatched", some (.bool l.wasMatched)), ("stubMapping", l.stubMapping.map .str)]

theorem toJson_eq (l : RequestLog) : l.toJson = .obj (ofSlots l.slots ++ []) := by
  simp [toJson, slots, ofSlots, whenSome]

/-- The log holds what a document can say. -/
structure Sound (l : RequestLog) : Prop where
  response : l.responseDefinition.Sound

theorem ofJson?_toJson {l : RequestLog} (h : l.Sound) : ofJson? l.toJson = some l := by
  have hold : Hold (ofSlots l.slots ++ []) l.slots :=
    hold_ofSlots (by decide : names.Nodup) (by simp)
  have hid := hold.field "id" (ident_str l.id) (by simp [slots])
  have htime := hold.field "timestamp" (loose_str l.timestamp) (by simp [slots])
  have hrequest := hold.field "request" (required_some l.request.ofJson?_toJson) (by simp [slots])
  have hresponse := hold.field "responseDefinition"
    (orElse_some .empty (LoggedResponse.ofJson?_toJson h.response)) (by simp [slots])
  have hmatched := hold.field "wasMatched" (orElse_bool false l.wasMatched) (by simp [slots])
  have hmapping := hold.field "stubMapping" (optional_map_str l.stubMapping) (by simp [slots])
  rw [toJson_eq]
  refine bind_eq_some_of rfl <| bind_eq_some_of hid <| bind_eq_some_of htime <|
    bind_eq_some_of hrequest <| bind_eq_some_of hresponse <| bind_eq_some_of hmatched <|
    bind_eq_some_of hmapping <| ?_
  rfl

theorem sound_of_ofJson? {doc : Json} {l : RequestLog} (h : ofJson? doc = some l) : l.Sound := by
  simp only [ofJson?, ↓bind_eq_some_iff] at h
  rcases h with
    ⟨m, -, id, -, time, -, request, -, response, hresponse, wasMatched, -, mapping, -, h⟩
  cases h
  refine ⟨orElse_field hresponse ⟨Nat.zero_le _⟩ ?_⟩
  exact fun doc _ hread => LoggedResponse.sound_of_ofJson? hread

theorem readable_toJson {l : RequestLog} (h : l.Sound) :
    Json.Readable (.record fields false) 4 l.toJson := by
  have hresponse : Json.Readable LoggedResponse.shape 3 l.responseDefinition.toJson :=
    (LoggedResponse.readable_toJson h.response).mono (by decide)
  rw [toJson_eq]
  refine readable_ofSlots rfl ?_ (by simp)
  simp only [slots, List.forall_mem_cons, List.not_mem_nil, false_implies, implies_true, and_true]
  exact ⟨readable_some (.str _), readable_some (.str _), readable_some l.request.readable_toJson,
    readable_some hresponse, readable_some (.bool _), readable_map_str _⟩

end RequestLog

end StubConsole
