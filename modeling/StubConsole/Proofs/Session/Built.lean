import StubConsole.Proofs.Json.Deeper
import StubConsole.Proofs.Record.RoundTrip
import StubConsole.Proofs.Session.Edits
import StubConsole.Proofs.Session.Steps

/-!
# Built — stubs that the console can come to hold

A stub in an editor was made new or read from a text, and then edited field by field.  The limits
of a document bound it all the same, except that metadata typed into their field may use all the
levels that the reader allows, of which the stub around them takes one.

* `StubKind.Built` — the stubs that come about in this way;
* `StubKind.Bounded`, `StubKind.Kept` — what no edit can break;
* `StubKind.Sound`, `StubKind.Fits` — what a stub needs in order to be read back, for all kinds;
* `StubKind.takenBack_iff` — a stub so built is taken back exactly if its metadata leave a level.
-/

namespace StubConsole

open Json (exists_of_bind_eq_ok)
open Members (Unmodelled)
open Record (TakenBack)
open Rule (InInt32 IsValue)

/-! ## Building stubs -/

/-- A stub that was made new or read, and any edit of such a stub. -/
inductive StubKind.Built (kind : StubKind) : kind.Item → Prop where
  | fresh : Built kind kind.fresh
  | read {text : String} {v : kind.Item} : Record.read? text = some v → Built kind v
  | cycle {v : kind.Item} (field : kind.Field) : Built kind v → Built kind (Form.cycle v field)
  | store {v w : kind.Item} {field : kind.Field} {text : String} :
      Form.setValue v field text = .ok w → Built kind v → Built kind w

theorem StubKind.editClosed_built (kind : StubKind) : EditClosed kind.Built where
  cycle := fun _ field built => built.cycle field
  setValue := fun hset built => built.store hset
  read := fun hread => .read hread

/-! ## What the fields accept -/

/-- Metadata as a document can hold them. -/
structure IsMetadata (doc : Json) : Prop where
  value : IsValue doc
  within : Json.Within Json.depthLimit doc

namespace Rows

theorem exists_of_optionalNumber {α : Type} {read? : List Char → Option α} {error : FieldError}
    {text : String} {o : Option α} (h : optionalNumber read? error text = .ok o) :
    ∀ n ∈ o, ∃ chars, read? chars = some n := by
  intro n hn
  unfold optionalNumber at h
  dsimp only at h
  split at h
  · cases h
    cases hn
  · split at h
    next number hread =>
      cases h
      cases hn
      exact ⟨_, hread⟩
    next => cases h

theorem inInt32_of_readPriority {text : String} {o : Option Int} (h : readPriority text = .ok o) :
    ∀ n ∈ o, InInt32 n := by
  intro n hn
  rcases exists_of_optionalNumber h n hn with ⟨chars, hread⟩
  have hbetween := (Option.filter_eq_some_iff.1 hread).2
  simpa [InInt32] using hbetween

theorem le_of_optionalNat {max : Nat} {error : FieldError} {text : String} {o : Option Nat}
    (h : optionalNumber (Text.natUpTo? max) error text = .ok o) : ∀ n ∈ o, n ≤ max := by
  intro n hn
  rcases exists_of_optionalNumber h n hn with ⟨chars, hread⟩
  have hle := (Option.filter_eq_some_iff.1 hread).2
  simpa using hle

theorem isMetadata_of_readMetadata {text : String} {o : Option Json}
    (h : readMetadata text = .ok o) : ∀ doc ∈ o, IsMetadata doc := by
  intro doc hdoc
  unfold readMetadata at h
  split at h
  · cases h
    cases hdoc
  · split at h
    next parsed hparse =>
      split at h
      next hobject =>
        cases h
        cases hdoc
        rcases Option.map_eq_some_iff.1 hparse with ⟨source, hread, rfl⟩
        have hwithin : Json.Within Json.depthLimit source := Json.within_of_read? .any hread
        have hnull : source.sorted ≠ .null := by
          intro heq
          rw [heq] at hobject
          cases hobject
        exact ⟨⟨Json.sorted_sorted source, hnull⟩, hwithin.sorted⟩
      next => cases h
    next => cases h

end Rows

/-! ## Bounded values -/

/-- What a document bounds in every stub. -/
structure InLimits (priority : Option Int) (metadata : Option Json) : Prop where
  priority : ∀ n ∈ priority, InInt32 n
  metadata : ∀ doc ∈ metadata, IsMetadata doc

namespace Stub

structure Bounded (s : Stub) : Prop extends InLimits s.priority s.metadata where
  status : s.response.status ≤ 65535
  delay : ∀ n ∈ s.response.fixedDelayMilliseconds, n ≤ Json.maxWord

theorem Bounded.cycleField {s : Stub} (h : s.Bounded) (field : RestField) :
    (s.cycleField field).Bounded := by
  cases field <;> exact ⟨⟨h.priority, h.metadata⟩, h.status, h.delay⟩

theorem Bounded.setScenarioName {s : Stub} (h : s.Bounded) (name : String) :
    (s.setScenarioName name).Bounded := by
  unfold Stub.setScenarioName
  split
  · exact ⟨⟨h.priority, h.metadata⟩, h.status, h.delay⟩
  · split <;> exact ⟨⟨h.priority, h.metadata⟩, h.status, h.delay⟩

theorem Bounded.setField {s t : Stub} {field : RestField} {text : String} (h : s.Bounded)
    (hset : s.setField field text = .ok t) : t.Bounded := by
  cases field with
  | method | urlKind | fault | persistent | enabled =>
      cases hset
      exact h.cycleField _
  | scenarioName =>
      cases hset
      exact h.setScenarioName _
  | urlValue | body | requiredState | newState | name =>
      cases hset
      exact ⟨⟨h.priority, h.metadata⟩, h.status, h.delay⟩
  | requestHeaders | queryParams | bodyPatterns | responseHeaders =>
      rcases exists_of_bind_eq_ok hset with ⟨_, -, hstored⟩
      cases hstored
      exact ⟨⟨h.priority, h.metadata⟩, h.status, h.delay⟩
  -- the fields whose texts are bounded when they are read
  | status =>
      rcases exists_of_bind_eq_ok hset with ⟨status, hread, hstored⟩
      cases hstored
      refine ⟨⟨h.priority, h.metadata⟩, ?_, h.delay⟩
      cases status with
      | none => exact Nat.zero_le _
      | some n => exact Rows.le_of_optionalNat hread n rfl
  | delay =>
      rcases exists_of_bind_eq_ok hset with ⟨delay, hread, hstored⟩
      cases hstored
      exact ⟨⟨h.priority, h.metadata⟩, h.status, Rows.le_of_optionalNat hread⟩
  | priority =>
      rcases exists_of_bind_eq_ok hset with ⟨priority, hread, hstored⟩
      cases hstored
      exact ⟨⟨Rows.inInt32_of_readPriority hread, h.metadata⟩, h.status, h.delay⟩
  | metadata =>
      rcases exists_of_bind_eq_ok hset with ⟨metadata, hread, hstored⟩
      cases hstored
      exact ⟨⟨h.priority, Rows.isMetadata_of_readMetadata hread⟩, h.status, h.delay⟩

end Stub

namespace GraphQlStub

theorem inLimits_setField {s t : GraphQlStub} {field : GraphQlField} {text : String}
    (h : InLimits s.priority s.metadata) (hset : s.setField field text = .ok t) :
    InLimits t.priority t.metadata := by
  cases field with
  | persistent | enabled =>
      cases hset
      exact h
  | scenarioName =>
      cases hset
      unfold setScenarioName
      split <;> exact h
  | operationName | query | bindings | response | requiredState | newState | name =>
      cases hset
      exact h
  | priority =>
      rcases exists_of_bind_eq_ok hset with ⟨priority, hread, hstored⟩
      cases hstored
      exact ⟨Rows.inInt32_of_readPriority hread, h.metadata⟩
  | metadata =>
      rcases exists_of_bind_eq_ok hset with ⟨metadata, hread, hstored⟩
      cases hstored
      exact ⟨h.priority, Rows.isMetadata_of_readMetadata hread⟩

end GraphQlStub

namespace SoapStub

theorem inLimits_setScenarioState {s t : SoapStub} {text : String}
    (h : InLimits s.priority s.metadata) (hset : s.setScenarioState text = .ok t) :
    InLimits t.priority t.metadata := by
  unfold setScenarioState at hset
  split at hset
  · cases hset
    exact h
  · split at hset
    · cases hset
      exact h
    · cases hset

theorem inLimits_setField {s t : SoapStub} {field : SoapField} {text : String}
    (h : InLimits s.priority s.metadata) (hset : s.setField field text = .ok t) :
    InLimits t.priority t.metadata := by
  cases field with
  | version | persistent | enabled =>
      cases hset
      exact h
  | scenarioName =>
      cases hset
      unfold setScenarioName
      split <;> exact h
  | scenarioState => exact inLimits_setScenarioState h hset
  | soapAction | wsdlUrl | requestXml | responseXml | name =>
      cases hset
      exact h
  | namespaces | xPathMatchers =>
      rcases exists_of_bind_eq_ok hset with ⟨_, -, hstored⟩
      cases hstored
      exact h
  | priority =>
      rcases exists_of_bind_eq_ok hset with ⟨priority, hread, hstored⟩
      cases hstored
      exact ⟨Rows.inInt32_of_readPriority hread, h.metadata⟩
  | metadata =>
      rcases exists_of_bind_eq_ok hset with ⟨metadata, hread, hstored⟩
      cases hstored
      exact ⟨h.priority, Rows.isMetadata_of_readMetadata hread⟩

end SoapStub

/-! ## All kinds -/

/-- Unmodelled members of one level, nested no deeper than the levels around them allow. -/
structure Apart (level : List String × Nat) (extra : SortedMap Json) : Prop where
  unmodelled : Unmodelled level.1 extra
  within : ∀ e ∈ extra.entries, Json.Within level.2 e.2

namespace StubKind

def metadata : (kind : StubKind) → kind.Item → Option Json
  | .rest, s => Stub.metadata s
  | .graphQl, s => GraphQlStub.metadata s
  | .soap, s => SoapStub.metadata s

/-- The stub holds what a document can say. -/
def Sound : (kind : StubKind) → kind.Item → Prop
  | .rest, s => Stub.Sound s
  | .graphQl, s => GraphQlStub.Sound s
  | .soap, s => SoapStub.Sound s

/-- The unmodelled parts leave room for the levels around them, of which there are two. -/
def Fits (room : Nat) : (kind : StubKind) → kind.Item → Prop
  | .rest, s => Stub.Fits room s
  | .graphQl, s => GraphQlStub.Fits (room + 1) s
  | .soap, s => SoapStub.Fits (room + 1) s

def Bounded : (kind : StubKind) → kind.Item → Prop
  | .rest, s => Stub.Bounded s
  | .graphQl, s => InLimits (GraphQlStub.priority s) (GraphQlStub.metadata s)
  | .soap, s => InLimits (SoapStub.priority s) (SoapStub.metadata s)

/-- The modelled names at each level, and how many levels there are below it. -/
def levels : StubKind → List (List String × Nat)
  | .rest => [(Stub.names, 126), (RequestPattern.names, 125), (ResponseDefinition.names, 125)]
  | .graphQl => [(GraphQlStub.names, 126)]
  | .soap => [(SoapStub.names, 126)]

/-- What no edit can break. -/
structure Kept (kind : StubKind) (v : kind.Item) : Prop where
  bounded : kind.Bounded v
  apart : ∀ p ∈ kind.levels.zip (kind.extras v), Apart p.1 p.2

variable {kind : StubKind} {v w : kind.Item}

theorem solid_shape (kind : StubKind) : (Record.shape kind.Item).Solid := by
  cases kind with
  | rest => exact Stub.solid_shape
  | graphQl => exact .ofNames GraphQlStub.names true
  | soap => exact SoapStub.solid_shape

theorem ofJson?_toJson (h : kind.Sound v) : Record.ofJson? (Record.toJson v) = some v := by
  cases kind with
  | rest => exact Stub.ofJson?_toJson h
  | graphQl => exact GraphQlStub.ofJson?_toJson h
  | soap => exact SoapStub.ofJson?_toJson h

theorem of_ofJson? {doc : Json} (h : Record.ofJson? doc = some v) :
    kind.Sound v ∧ ∀ room, Json.Within (room + 2) doc → kind.Fits room v := by
  cases kind with
  | rest => exact Stub.of_ofJson? h
  | graphQl =>
      rcases GraphQlStub.of_ofJson? h with ⟨hsound, hfits⟩
      exact ⟨hsound, fun room hwithin => hfits (room + 1) hwithin⟩
  | soap =>
      rcases SoapStub.of_ofJson? h with ⟨hsound, hfits⟩
      exact ⟨hsound, fun room hwithin => hfits (room + 1) hwithin⟩

theorem readable_toJson {room : Nat} (hsound : kind.Sound v) (hfits : kind.Fits (room + 2) v)
    (hwhole : ∀ doc ∈ (RecordType.stub kind).unmodelled v, doc.isWhole = true) :
    Json.Readable (Record.shape kind.Item) (room + 4) (Record.toJson v) := by
  cases kind with
  | rest => exact Stub.readable_toJson hfits hwhole hsound
  | graphQl => exact GraphQlStub.readable_toJson hfits hwhole hsound
  | soap => exact SoapStub.readable_toJson hfits hwhole hsound

theorem metadata_of_fits (h : kind.Fits 125 v) :
    ∀ doc ∈ kind.metadata v, Json.Within 126 doc := by
  cases kind with
  | rest => exact Stub.Fits.metadata h
  | graphQl => exact GraphQlStub.Fits.metadata h
  | soap => exact SoapStub.Fits.metadata h

/-! ## Edits keep it -/

theorem bounded_cycle (h : kind.Bounded v) (field : kind.Field) :
    kind.Bounded (Form.cycle v field) := by
  cases kind with
  | rest => exact Stub.Bounded.cycleField h field
  | graphQl => cases field <;> exact h
  | soap => cases field <;> exact h

theorem bounded_setValue {field : kind.Field} {text : String}
    (hset : Form.setValue v field text = .ok w) (h : kind.Bounded v) : kind.Bounded w := by
  cases kind with
  | rest => exact Stub.Bounded.setField h hset
  | graphQl => exact GraphQlStub.inLimits_setField h hset
  | soap => exact SoapStub.inLimits_setField h hset

theorem kept_fresh (kind : StubKind) : kind.Kept kind.fresh where
  bounded := by
    have hnone {α : Type} {P : α → Prop} : ∀ a ∈ (none : Option α), P a := fun _ h => nomatch h
    cases kind with
    | rest => exact ⟨⟨hnone, hnone⟩, by decide, hnone⟩
    | graphQl => exact ⟨hnone, hnone⟩
    | soap =>
        refine ⟨?_, hnone⟩
        rintro n ⟨⟩
        exact ⟨by decide, by decide⟩
  apart := by
    intro p hp
    have hempty : ∀ extra ∈ kind.extras kind.fresh, extra = ∅ := by
      cases kind <;> simp [extras, Stub.extras, fresh, Stub.fresh, GraphQlStub.fresh,
        SoapStub.fresh, RequestPattern.empty, ResponseDefinition.empty]
    rw [show p.2 = ∅ from hempty p.2 (List.of_mem_zip hp).2]
    exact ⟨Members.unmodelled_empty p.1.1, fun _ h => nomatch h⟩

theorem kept_of_fits (hsound : kind.Sound v) (hfits : kind.Fits 125 v) : kind.Kept v := by
  have hmetadata {depth : Nat} {o : Option Json} (hle : depth ≤ Json.depthLimit)
      (hvalue : ∀ doc ∈ o, IsValue doc) (hwithin : ∀ doc ∈ o, Json.Within depth doc) :
      ∀ doc ∈ o, IsMetadata doc :=
    fun doc hdoc => ⟨hvalue doc hdoc, (hwithin doc hdoc).mono hle⟩
  cases kind with
  | rest =>
      refine ⟨⟨⟨hsound.priority, hmetadata (by decide) hsound.metadata hfits.metadata⟩,
        hsound.response.status, hsound.response.delay⟩, ?_⟩
      simp only [levels, extras, Stub.extras, List.zip_cons_cons, List.forall_mem_cons]
      exact ⟨⟨hsound.extra, hfits.extra⟩, ⟨hsound.request.extra, hfits.request.extra⟩,
        ⟨hsound.response.extra, hfits.response.extra⟩, fun _ h => nomatch h⟩
  | graphQl =>
      refine ⟨⟨hsound.priority, hmetadata (by decide) hsound.metadata hfits.metadata⟩, ?_⟩
      simp only [levels, extras, List.zip_cons_cons, List.forall_mem_cons]
      exact ⟨⟨hsound.extra, hfits.extra⟩, fun _ h => nomatch h⟩
  | soap =>
      refine ⟨⟨hsound.priority, hmetadata (by decide) hsound.metadata hfits.metadata⟩, ?_⟩
      simp only [levels, extras, List.zip_cons_cons, List.forall_mem_cons]
      exact ⟨⟨hsound.extra, hfits.extra⟩, fun _ h => nomatch h⟩

theorem Built.kept (built : kind.Built v) : kind.Kept v := by
  induction built with
  | fresh => exact kept_fresh kind
  | read h =>
      rcases Record.exists_of_read? (solid_shape kind) h with ⟨doc, hwithin, hread⟩
      rcases of_ofJson? hread with ⟨hsound, hfits⟩
      exact kept_of_fits hsound (hfits 125 hwithin)
  | cycle field _ ih =>
      refine ⟨bounded_cycle ih.bounded field, ?_⟩
      rw [extras_cycle]
      exact ih.apart
  | store hset _ ih =>
      refine ⟨bounded_setValue hset ih.bounded, ?_⟩
      rw [extras_setValue hset]
      exact ih.apart

/-! ## Reading a stub back -/

namespace Kept

/-- The unmodelled members level by level, and the bounds of the rest. -/
theorem sound_and_fits (kept : kind.Kept v) :
    kind.Sound v ∧ ∀ room, 125 ≤ room →
      (∀ doc ∈ kind.metadata v, Json.Within (room + 1) doc) → kind.Fits room v := by
  rcases kept with ⟨hbounded, hapart⟩
  have hdeeper {depth room : Nat} {extra : SortedMap Json} (hle : depth ≤ room)
      (h : ∀ e ∈ extra.entries, Json.Within depth e.2) :
      ∀ e ∈ extra.entries, Json.Within room e.2 :=
    fun e he => (h e he).mono hle
  cases kind with
  | rest =>
      simp only [levels, extras, Stub.extras, List.zip_cons_cons, List.forall_mem_cons] at hapart
      rcases hapart with ⟨htop, hrequest, hresponse, -⟩
      refine ⟨⟨⟨hrequest.unmodelled⟩, ⟨hbounded.status, hbounded.delay, hresponse.unmodelled⟩,
        hbounded.priority, fun doc hdoc => (hbounded.metadata doc hdoc).value,
        htop.unmodelled⟩, ?_⟩
      intro room hroom hmetadata
      exact ⟨⟨hdeeper hroom hrequest.within⟩, ⟨hdeeper hroom hresponse.within⟩, hmetadata,
        hdeeper (Nat.succ_le_succ hroom) htop.within⟩
  | graphQl =>
      simp only [levels, extras, List.zip_cons_cons, List.forall_mem_cons] at hapart
      rcases hapart with ⟨htop, -⟩
      refine ⟨⟨hbounded.priority, fun doc hdoc => (hbounded.metadata doc hdoc).value,
        htop.unmodelled⟩, ?_⟩
      intro room hroom hmetadata
      exact ⟨hmetadata, hdeeper (Nat.succ_le_succ hroom) htop.within⟩
  | soap =>
      simp only [levels, extras, List.zip_cons_cons, List.forall_mem_cons] at hapart
      rcases hapart with ⟨htop, -⟩
      refine ⟨⟨hbounded.priority, fun doc hdoc => (hbounded.metadata doc hdoc).value,
        htop.unmodelled⟩, ?_⟩
      intro room hroom hmetadata
      exact ⟨hmetadata, hdeeper (Nat.succ_le_succ hroom) htop.within⟩

theorem isMetadata (kept : kind.Kept v) : ∀ doc ∈ kind.metadata v, IsMetadata doc := by
  have hbounded := kept.bounded
  cases kind with
  | rest => exact hbounded.metadata
  | graphQl => exact hbounded.metadata
  | soap => exact hbounded.metadata

theorem sound (kept : kind.Kept v) : kind.Sound v := kept.sound_and_fits.1

/-- Only metadata that were typed on their own can need one level more than there is. -/
theorem fits_deeper (kept : kind.Kept v) : kind.Fits 126 v :=
  kept.sound_and_fits.2 126 (by decide) fun doc hdoc => (kept.isMetadata doc hdoc).within

variable (hwhole : ∀ doc ∈ (RecordType.stub kind).unmodelled v, doc.isWhole = true)

include hwhole

theorem takenBack (kept : kind.Kept v) (hmetadata : ∀ doc ∈ kind.metadata v, Json.Within 126 doc) :
    TakenBack v :=
  ⟨ofJson?_toJson kept.sound,
    readable_toJson kept.sound (kept.sound_and_fits.2 125 (Nat.le_refl _) hmetadata) hwhole⟩

/-- Whatever is read from the written stub, its metadata left a level for the stub. -/
theorem metadata_of_read?_writePretty (kept : kind.Kept v)
    (h : Record.read? (Record.writePretty v) = some w) :
    ∀ doc ∈ kind.metadata v, Json.Within 126 doc := by
  rcases Option.bind_eq_some_iff.1 h with ⟨doc, hread, -⟩
  have hdeep := readable_toJson kept.sound kept.fits_deeper hwhole
  have hwithin : Json.Within Json.depthLimit (Record.toJson v) :=
    Json.within_of_read?_pretty (solid_shape kind) hdeep.within hdeep.whole hdeep.covered hread
  have hfits := (of_ofJson? (ofJson?_toJson kept.sound)).2 125 hwithin
  exact metadata_of_fits hfits

theorem read?_writePretty (kept : kind.Kept v) :
    Record.read? (Record.writePretty v) = some v ↔
      ∀ doc ∈ kind.metadata v, Json.Within 126 doc :=
  ⟨kept.metadata_of_read?_writePretty hwhole,
    fun hmetadata => (kept.takenBack hwhole hmetadata).read?_writePretty⟩

end Kept

end StubKind

end StubConsole
