import StubConsole.Proofs.Json.Delivered
import StubConsole.Proofs.Record.LogCodec
import StubConsole.Proofs.Record.StubCodec
import StubConsole.StubKind

/-!
# RoundTrip — records survive being written and read

* `RecordType` — the records that travel between console and server;
* `RecordType.unmodelled` — the documents in a record that are kept as they came;
* `RecordType.read?_write_of_read?` — what was read is read again from both written forms.
-/

namespace StubConsole

/-! ## Record types -/

inductive RecordType where
  | stub (kind : StubKind)
  | requestLog
  | scenario
  | recording
  deriving DecidableEq, Repr

namespace RecordType

@[reducible]
def Item : RecordType → Type
  | .stub kind => kind.Item
  | .requestLog => RequestLog
  | .scenario => Scenario
  | .recording => RecordingState

instance instRecord : (t : RecordType) → Record t.Item
  | .stub kind => StubKind.instRecord kind
  | .requestLog => inferInstanceAs (Record RequestLog)
  | .scenario => inferInstanceAs (Record Scenario)
  | .recording => inferInstanceAs (Record RecordingState)

/-- Metadata and unmodelled members, at all levels of a record. -/
def unmodelled : (t : RecordType) → t.Item → List Json
  | .stub .rest, s => Stub.unmodelled s
  | .stub .graphQl, s => GraphQlStub.unmodelled s
  | .stub .soap, s => SoapStub.unmodelled s
  | .requestLog, _ => []
  | .scenario, _ => []
  | .recording, _ => []

end RecordType

/-! ## Taking back -/

namespace Record

variable {α : Type} [Record α]

/-- A value whose written forms stand for it. -/
structure TakenBack (v : α) : Prop where
  again : ofJson? (toJson v) = some v
  readable : Json.Readable (shape α) Json.depthLimit (toJson v)

theorem TakenBack.read?_write {v : α} (h : TakenBack v) : read? (write v) = some v :=
  calc
    read? (write v) = (Json.read? (shape α) (toJson v).compact).bind ofJson? := rfl
    _ = ofJson? (toJson v) := by rw [Json.read?_compact_of_readable h.readable, Option.bind_some]
    _ = some v := h.again

theorem TakenBack.read?_writePretty {v : α} (h : TakenBack v) :
    read? (writePretty v) = some v :=
  calc
    read? (writePretty v) = (Json.read? (shape α) (toJson v).pretty).bind ofJson? := rfl
    _ = ofJson? (toJson v) := by rw [Json.read?_pretty_of_readable h.readable, Option.bind_some]
    _ = some v := h.again

/-- A value that was read comes from a document that the reader can nest. -/
theorem exists_of_read? {text : String} {v : α} (hsolid : (shape α).Solid)
    (h : read? text = some v) : ∃ doc, Json.Within Json.depthLimit doc ∧ ofJson? doc = some v := by
  rcases Option.bind_eq_some_iff.1 h with ⟨doc, hdoc, hv⟩
  exact ⟨doc, Json.within_of_read? hsolid hdoc, hv⟩

end Record

open Record (TakenBack)

/-! ## The record types one by one -/

theorem MatchRule.solid_shape : MatchRule.shape.Solid := .ofNames names false

theorem RequestPattern.solid_shape : shape.Solid := by
  have hrule := Json.Shape.Solid.each MatchRule.solid_shape
  refine .record ?_
  simp [fields, Json.Shape.Solid.any, hrule]

theorem ScenarioRef.solid_shape : ScenarioRef.shape.Solid := .ofNames names false

namespace Stub

theorem solid_shape : (Json.Shape.record fields true).Solid := by
  have hresponse : ResponseDefinition.shape.Solid := .ofNames ResponseDefinition.names true
  refine .record ?_
  simp [fields, Json.Shape.Solid.any, RequestPattern.solid_shape, ScenarioRef.solid_shape,
    hresponse]

theorem takenBack {text : String} {s : Stub} (h : Record.read? text = some s)
    (hwhole : ∀ doc ∈ s.unmodelled, doc.isWhole = true) : TakenBack s := by
  rcases Record.exists_of_read? solid_shape h with ⟨doc, hwithin, hread⟩
  rcases of_ofJson? hread with ⟨hsound, hfits⟩
  exact ⟨ofJson?_toJson hsound, readable_toJson (hfits 125 hwithin) hwhole hsound⟩

end Stub

namespace GraphQlStub

theorem takenBack {text : String} {s : GraphQlStub} (h : Record.read? text = some s)
    (hwhole : ∀ doc ∈ s.unmodelled, doc.isWhole = true) : TakenBack s := by
  rcases Record.exists_of_read? (.ofNames names true) h with ⟨doc, hwithin, hread⟩
  rcases of_ofJson? hread with ⟨hsound, hfits⟩
  exact ⟨ofJson?_toJson hsound, readable_toJson (hfits 126 hwithin) hwhole hsound⟩

end GraphQlStub

namespace SoapStub

theorem solid_shape : (Json.Shape.record fields true).Solid := by
  refine .record ?_
  simp [fields, Json.Shape.Solid.any, ScenarioRef.solid_shape]

theorem takenBack {text : String} {s : SoapStub} (h : Record.read? text = some s)
    (hwhole : ∀ doc ∈ s.unmodelled, doc.isWhole = true) : TakenBack s := by
  rcases Record.exists_of_read? solid_shape h with ⟨doc, hwithin, hread⟩
  rcases of_ofJson? hread with ⟨hsound, hfits⟩
  exact ⟨ofJson?_toJson hsound, readable_toJson (hfits 126 hwithin) hwhole hsound⟩

end SoapStub

theorem RequestLog.takenBack {text : String} {l : RequestLog} (h : Record.read? text = some l) :
    TakenBack l := by
  rcases Option.bind_eq_some_iff.1 h with ⟨doc, -, hread⟩
  have hsound := RequestLog.sound_of_ofJson? hread
  exact ⟨ofJson?_toJson hsound, (readable_toJson hsound).mono (by decide)⟩

theorem Scenario.takenBack (s : Scenario) : TakenBack s :=
  ⟨s.ofJson?_toJson, s.readable_toJson.mono (by decide)⟩

theorem RecordingState.takenBack (s : RecordingState) : TakenBack s :=
  ⟨s.ofJson?_toJson, s.readable_toJson.mono (by decide)⟩

/-! ## All record types -/

namespace RecordType

/-- Fractions are left out, since reading one may round twice. -/
theorem read?_write_of_read? (t : RecordType) (text : String) (v : t.Item)
    (hread : Record.read? text = some v)
    (hwhole : ∀ doc ∈ t.unmodelled v, doc.isWhole = true) :
    Record.read? (Record.write v) = some v ∧ Record.read? (Record.writePretty v) = some v := by
  have hback : TakenBack v := by
    cases t with
    | stub kind =>
        cases kind with
        | rest => exact Stub.takenBack hread hwhole
        | graphQl => exact GraphQlStub.takenBack hread hwhole
        | soap => exact SoapStub.takenBack hread hwhole
    | requestLog => exact RequestLog.takenBack hread
    | scenario => exact Scenario.takenBack v
    | recording => exact RecordingState.takenBack v
  exact ⟨hback.read?_write, hback.read?_writePretty⟩

/-- A numeric identifier, a null text, and unmodelled members at two levels. -/
theorem read?_write_numericId :
    ∃ v : Stub,
      Record.read?
          "\x7b\"id\":7,\"name\":null,\"request\":\x7b\"zone\":[-3]\x7d,\"later\":\"\\u00e9\"\x7d"
        = some v
      ∧ v.id = "7" ∧ v.extra.keys = ["later"] ∧ v.request.extra.keys = ["zone"]
      ∧ Record.read? (Record.write v) = some v ∧ Record.read? (Record.writePretty v) = some v := by
  have hread : Record.read?
      "\x7b\"id\":7,\"name\":null,\"request\":\x7b\"zone\":[-3]\x7d,\"later\":\"\\u00e9\"\x7d"
        = some
          { Stub.fresh with
            id := "7"
            name := ""
            request :=
              { RequestPattern.empty with extra := ⟨[("zone", .arr [.ofInt (-3)])], by decide⟩ }
            response := .empty
            enabled := none
            extra := ⟨[("later", .str "é")], by decide⟩ } := by decide +kernel
  exact ⟨_, hread, rfl, rfl, rfl,
    read?_write_of_read? (.stub .rest) _ _ hread (by decide +kernel)⟩

end RecordType

end StubConsole
