import StubConsole.Proofs.Json.Skipping
import StubConsole.Proofs.Session.SameDocument

/-!
# Unmodelled — members that no record models come back as they were

A stub is saved as a whole record, so a member that got lost on the way through the form would be
lost on the server as well.  What a text says under an unmodelled name is what the written stub
says under it, at each level that keeps such names, whatever was edited in between.

* `Json.SameApartFrom` — two documents that differ under the given names only;
* `Members.sameApartFrom_read` — one level: what is read from a document and written again;
* `StubKind.Edited` — any sequence of edits of a stub;
* `StubKind.unmodelled_survive` — all levels of a stub of any kind.
-/

namespace StubConsole

open Members (ofObject? ofSlots)

/-! ## Documents that differ under some names only -/

namespace Json

/-- Under every other name the second document says what the first one says, and nothing if the
first one says nothing. -/
def SameApartFrom (names : List String) (before after : Json) : Prop :=
  ∀ key, key ∉ names → after.membersNamed key = before.membersNamed key

end Json

/-! ## One level -/

namespace Members

section Level

variable {fields : List (String × Json.Shape)} {doc : Json} {members : Members}

theorem eq_obj_of_ofObject? (h : ofObject? doc = some members) : doc = .obj members := by
  cases doc with
  | obj _ =>
      cases h
      rfl
  | _ => cases h

theorem ofMember_of_foreign {key : String} (hkey : key ∉ fields.map (·.1)) :
    (Json.Shape.record fields true).ofMember key = .any := by
  have hlookup : fields.lookup key = none := by
    refine List.lookup_eq_none_iff.2 ?_
    intro field hfield
    have hne : key ≠ field.1 := fun heq => hkey (List.mem_map.2 ⟨field, hfield, heq.symm⟩)
    simpa using hne
  simp only [Json.Shape.ofMember, hlookup]
  rfl

/-- The unmodelled members of a record say under a foreign name what the value of the object says:
the last of several members counts for both. -/
theorem membersNamed_others {names : List String} {key : String} (hkey : key ∉ names) :
    (Json.obj (members.others names).entries).membersNamed key
      = (Json.obj members).sorted.membersNamed key := by
  have hfilter : ((members.filter fun m => !names.contains m.1).map
        fun m => (m.1, m.2.sorted)).filter (fun e => e.1 == key)
      = (members.filter fun m => m.1 == key).map fun m => (m.1, m.2.sorted) := by
    rw [List.filter_map, List.filter_filter]
    refine congrArg (List.map _) (List.filter_congr ?_)
    intro m _
    by_cases hm : m.1 = key
    · simp [hm, hkey]
    · simp [hm]
  rw [Json.membersNamed_sorted]
  simp only [Json.membersNamed, others, SortedMap.filter_ofList, hfilter, List.getLast?_map]
  cases (members.filter fun m => m.1 == key).getLast? <;> rfl

theorem membersNamed_others_keep {key : String} (hkey : key ∉ fields.map (·.1))
    (hobj : ofObject? (doc.keep (.record fields true)) = some members) :
    (Json.obj (members.others (fields.map (·.1))).entries).membersNamed key
      = doc.sorted.membersNamed key := by
  have hany := ofMember_of_foreign hkey
  have hkept : ((Json.Shape.record fields true).ofMember key).isSkipped = false := by
    rw [hany]
    rfl
  calc
    (Json.obj (members.others (fields.map (·.1))).entries).membersNamed key
        = (Json.obj members).sorted.membersNamed key := membersNamed_others hkey
    _ = (((doc.keep (.record fields true)).membersNamed key).getLast?.map Json.sorted).toList := by
          rw [← eq_obj_of_ofObject? hobj, Json.membersNamed_sorted]
    _ = ((doc.membersNamed key).getLast?.map Json.sorted).toList := by
          rw [Json.membersNamed_keep hkept, hany]
          simp
    _ = doc.sorted.membersNamed key := (Json.membersNamed_sorted key doc).symm

variable {slots : List (String × Option Json)}

theorem membersNamed_ofSlots_append {names : List String} {key : String}
    (hslots : ∀ slot ∈ slots, slot.1 ∈ names) (hkey : key ∉ names)
    (extra : List (String × Json)) :
    (Json.obj (ofSlots slots ++ extra)).membersNamed key = (Json.obj extra).membersNamed key := by
  have hnone : (ofSlots slots).filter (fun m => m.1 == key) = [] := by
    refine List.filter_eq_nil_iff.2 ?_
    intro m hm heq
    have hname : m.1 ∈ names := hslots _ (mem_ofSlots.1 hm)
    exact hkey (eq_of_beq heq ▸ hname)
  simp only [Json.membersNamed, List.filter_append, hnone, List.nil_append]

/-- Whatever stands in the slots, the unmodelled members are written as they were read. -/
theorem sameApartFrom_read {extra : SortedMap Json}
    (hobj : ofObject? (doc.keep (.record fields true)) = some members)
    (hextra : extra = members.others (fields.map (·.1)))
    (hslots : ∀ slot ∈ slots, slot.1 ∈ fields.map (·.1)) :
    doc.sorted.SameApartFrom (fields.map (·.1)) (.obj (ofSlots slots ++ extra.entries)) := by
  intro key hkey
  rw [membersNamed_ofSlots_append hslots hkey, hextra]
  exact membersNamed_others_keep hkey hobj

end Level

/-! ## A level inside another one -/

section Inner

variable {α : Type} (extra : α → SortedMap Json) {read : Json → Option α} {absent a : α}
  {fields : List (String × Json.Shape)} {outer : Json.Shape} {doc : Json} {members : Members}
  {name : String}

/-- The record that a member holds, or the one that stands for an absent member. -/
theorem sameApartFrom_inner {slots : List (String × Option Json)}
    (hobj : ofObject? (doc.keep outer) = some members)
    (hfield : members.field name (Rule.orElse absent read) = some a)
    (hshape : outer.ofMember name = .record fields true)
    (habsent : extra absent = ∅)
    (hread : ∀ inner b, read inner = some b → ∃ parts, ofObject? inner = some parts ∧
      extra b = parts.others (fields.map (·.1)))
    (hslots : ∀ slot ∈ slots, slot.1 ∈ fields.map (·.1)) :
    ((doc.sorted.get? name).getD (.obj [])).SameApartFrom (fields.map (·.1))
      (.obj (ofSlots slots ++ (extra a).entries)) := by
  have hkept : (outer.ofMember name).isSkipped = false := by
    rw [hshape]
    rfl
  have hnamed : (members.filter fun m => m.1 == name).map (·.2)
      = (doc.membersNamed name).map fun value => value.keep (.record fields true) := by
    rw [← hshape, ← Json.membersNamed_keep hkept, eq_obj_of_ofObject? hobj]
    rfl
  have hget : doc.sorted.get? name = (doc.membersNamed name).getLast?.map Json.sorted := by
    rw [Json.get?_eq_head?, Json.membersNamed_sorted]
    cases (doc.membersNamed name).getLast? <;> rfl
  rcases Option.bind_eq_some_iff.1 hfield with ⟨value, hunique, hrule⟩
  unfold unique? at hunique
  split at hunique
  next hnone =>
    -- the member is absent, and so is all that it could say
    cases hunique
    cases hrule
    have hempty : doc.membersNamed name = [] := by
      rw [hnone] at hnamed
      exact List.map_eq_nil_iff.1 hnamed.symm
    rw [hget, hempty]
    intro key hkey
    rw [membersNamed_ofSlots_append hslots hkey, habsent]
    rfl
  next m hone =>
    cases hunique
    rw [hone] at hnamed
    rcases List.map_eq_singleton_iff.1 hnamed.symm with ⟨full, hfull, hvalue⟩
    rcases hread m.2 a hrule with ⟨parts, hparts, hextra⟩
    rw [hget, hfull]
    exact sameApartFrom_read ((congrArg ofObject? hvalue).trans hparts) hextra hslots
  next => cases hunique

end Inner

end Members

/-! ## What the readers keep -/

theorem RequestPattern.extra_of_ofJson? {doc : Json} {p : RequestPattern}
    (h : ofJson? doc = some p) :
    ∃ members, ofObject? doc = some members ∧ p.extra = members.others names := by
  simp only [ofJson?, ↓bind_eq_some_iff] at h
  obtain ⟨members, hobj, _, -, _, -, _, -, _, -, _, -, _, -, _, -, _, -, h⟩ := h
  cases h
  exact ⟨members, hobj, rfl⟩

theorem ResponseDefinition.extra_of_ofJson? {doc : Json} {r : ResponseDefinition}
    (h : ofJson? doc = some r) :
    ∃ members, ofObject? doc = some members ∧ r.extra = members.others names := by
  simp only [ofJson?, ↓bind_eq_some_iff] at h
  obtain ⟨members, hobj, _, -, _, -, _, -, _, -, _, -, _, -, _, -, h⟩ := h
  cases h
  exact ⟨members, hobj, rfl⟩

theorem Stub.parts_of_ofJson? {doc : Json} {s : Stub} (h : ofJson? doc = some s) :
    ∃ members, ofObject? doc = some members ∧ s.extra = members.others names
      ∧ members.field "request" (Rule.orElse .empty RequestPattern.ofJson?) = some s.request
      ∧ members.field "response" (Rule.orElse .empty ResponseDefinition.ofJson?)
          = some s.response := by
  simp only [ofJson?, ↓bind_eq_some_iff] at h
  obtain ⟨members, hobj, _, -, _, -, request, hrequest, response, hresponse, _, -, _, -, _, -,
    _, -, _, -, _, -, _, -, h⟩ := h
  cases h
  exact ⟨members, hobj, rfl, hrequest, hresponse⟩

theorem GraphQlStub.extra_of_ofJson? {doc : Json} {s : GraphQlStub} (h : ofJson? doc = some s) :
    ∃ members, ofObject? doc = some members ∧ s.extra = members.others names := by
  simp only [ofJson?, ↓bind_eq_some_iff] at h
  obtain ⟨members, hobj, _, -, _, -, _, -, _, -, _, -, _, -, _, -, _, -, _, -, _, -, _, -, _, -,
    _, -, h⟩ := h
  cases h
  exact ⟨members, hobj, rfl⟩

theorem SoapStub.extra_of_ofJson? {doc : Json} {s : SoapStub} (h : ofJson? doc = some s) :
    ∃ members, ofObject? doc = some members ∧ s.extra = members.others names := by
  simp only [ofJson?, ↓bind_eq_some_iff] at h
  obtain ⟨members, hobj, _, -, _, -, _, -, _, -, _, -, _, -, _, -, _, -, _, -, _, -, _, -, _, -,
    _, -, _, -, h⟩ := h
  cases h
  exact ⟨members, hobj, rfl⟩

/-! ## Edited stubs -/

namespace StubKind

variable {kind : StubKind} {v w : kind.Item}

/-- What a sequence of edits makes of a stub: a field steps on to its next choice, or takes a text
that it accepts. -/
inductive Edited (kind : StubKind) (v : kind.Item) : kind.Item → Prop where
  | unchanged : Edited kind v v
  | cycle {w : kind.Item} (field : kind.Field) :
      Edited kind v w → Edited kind v (Form.cycle w field)
  | store {w u : kind.Item} {field : kind.Field} {text : String} :
      Form.setValue w field text = .ok u → Edited kind v w → Edited kind v u

theorem extras_eq_of_edited (h : kind.Edited v w) : kind.extras w = kind.extras v := by
  induction h with
  | unchanged => rfl
  | cycle field _ ih => exact (extras_cycle _ field).trans ih
  | store hset _ ih => exact (extras_setValue hset).trans ih

/-- The members of a stub that are records with room for unmodelled members of their own, and
the names that these model. -/
def parts : StubKind → List (String × List String)
  | .rest => [("request", RequestPattern.names), ("response", ResponseDefinition.names)]
  | .graphQl => []
  | .soap => []

end StubKind

theorem Stub.unmodelled_of_extras {full : Json} {v w : Stub}
    (hread : ofJson? (full.keep (.record fields true)) = some v) (hextras : w.extras = v.extras) :
    full.sorted.SameApartFrom names w.toJson
      ∧ w.toJson.membersNamed "request" = [w.request.toJson]
      ∧ w.toJson.membersNamed "response" = [w.response.toJson]
      ∧ ((full.sorted.get? "request").getD (.obj [])).SameApartFrom RequestPattern.names
          w.request.toJson
      ∧ ((full.sorted.get? "response").getD (.obj [])).SameApartFrom ResponseDefinition.names
          w.response.toJson := by
  rcases parts_of_ofJson? hread with ⟨members, hobj, hextra, hrequest, hresponse⟩
  obtain ⟨htop, hinrequest, hinresponse⟩ : w.extra = v.extra ∧ w.request.extra = v.request.extra
      ∧ w.response.extra = v.response.extra := by simpa [extras] using hextras
  have hslots : ∀ slot ∈ w.slots, slot.1 ∈ names := fun slot hslot => List.mem_map_of_mem hslot
  have hnodup : (w.slots.map (·.1)).Nodup := (by decide : names.Nodup)
  have hforeign : ∀ name ∈ names, ∀ e ∈ w.extra.entries, e.1 ≠ name := by
    intro name hname e he heq
    rw [htop, hextra] at he
    exact (Members.unmodelled_others members names).foreign e he (heq ▸ hname)
  refine ⟨?_, ?_, ?_, ?_, ?_⟩
  · rw [toJson_eq]
    exact Members.sameApartFrom_read hobj (htop.trans hextra) hslots
  · have hslot : ("request", some w.request.toJson) ∈ w.slots := by simp [slots]
    rw [toJson_eq]
    exact Members.membersNamed_ofSlots hnodup hslot
      (hforeign "request" (by decide))
  · have hslot : ("response", some w.response.toJson) ∈ w.slots := by simp [slots]
    rw [toJson_eq]
    exact Members.membersNamed_ofSlots hnodup hslot
      (hforeign "response" (by decide))
  · rw [RequestPattern.toJson_eq, hinrequest]
    exact Members.sameApartFrom_inner RequestPattern.extra hobj hrequest rfl rfl
      (fun _ _ h => RequestPattern.extra_of_ofJson? h)
      fun slot hslot => List.mem_map_of_mem hslot
  · rw [ResponseDefinition.toJson_eq, hinresponse]
    exact Members.sameApartFrom_inner ResponseDefinition.extra hobj hresponse rfl rfl
      (fun _ _ h => ResponseDefinition.extra_of_ofJson? h)
      fun slot hslot => List.mem_map_of_mem hslot

namespace StubKind

variable {kind : StubKind} {v w : kind.Item} {text : String} {d : Json}

/-- Two readings of one text: as a value, and as a stub. -/
theorem exists_of_read? (hvalue : Json.parse? text = some d)
    (hread : Record.read? text = some v) :
    ∃ full : Json, d = full.sorted
      ∧ Record.ofJson? (full.keep (Record.shape kind.Item)) = some v := by
  rcases Option.map_eq_some_iff.1 hvalue with ⟨full, hfull, rfl⟩
  have hkept : Json.read? (Record.shape kind.Item) text
      = some (full.keep (Record.shape kind.Item)) :=
    Json.read?_keep (solid_shape kind) hfull
  rcases Option.bind_eq_some_iff.1 hread with ⟨doc, hdoc, hof⟩
  obtain rfl : full.keep (Record.shape kind.Item) = doc :=
    Option.some.inj (hkept.symm.trans hdoc)
  exact ⟨full, rfl, hof⟩

/-- What is not modelled is written as it was read, at the top and inside the parts, and nothing
else that is not modelled. -/
theorem unmodelled_survive (hvalue : Json.parse? text = some d)
    (hread : Record.read? text = some v) (hedited : kind.Edited v w) :
    d.SameApartFrom kind.names (Record.toJson w)
      ∧ ∀ part ∈ kind.parts, ∃ inner, (Record.toJson w).membersNamed part.1 = [inner]
        ∧ ((d.get? part.1).getD (.obj [])).SameApartFrom part.2 inner := by
  rcases exists_of_read? hvalue hread with ⟨full, rfl, hof⟩
  have hextras : kind.extras w = kind.extras v := extras_eq_of_edited hedited
  cases kind with
  | rest =>
      rcases Stub.unmodelled_of_extras hof hextras with
        ⟨htop, hrequest, hresponse, hinrequest, hinresponse⟩
      refine ⟨htop, ?_⟩
      simp only [parts, List.forall_mem_cons, List.not_mem_nil, false_implies, implies_true,
        and_true]
      exact ⟨⟨_, hrequest, hinrequest⟩, ⟨_, hresponse, hinresponse⟩⟩
  | graphQl =>
      rcases GraphQlStub.extra_of_ofJson? hof with ⟨members, hobj, hextra⟩
      refine ⟨?_, fun _ hpart => nomatch hpart⟩
      have hjson : Record.toJson w = _ := GraphQlStub.toJson_eq w
      have hslots : ∀ slot ∈ GraphQlStub.slots w, slot.1 ∈ GraphQlStub.names :=
        fun slot hslot => List.mem_map_of_mem (f := Prod.fst) hslot
      have hkept : ofObject? (full.keep (.record (GraphQlStub.names.map (·, .any)) true))
          = some members := hobj
      have hlevel :=
        Members.sameApartFrom_read hkept ((List.cons.inj hextras).1.trans hextra) hslots
      rw [hjson]
      exact hlevel
  | soap =>
      rcases SoapStub.extra_of_ofJson? hof with ⟨members, hobj, hextra⟩
      refine ⟨?_, fun _ hpart => nomatch hpart⟩
      have hjson : Record.toJson w = _ := SoapStub.toJson_eq w
      have hslots : ∀ slot ∈ SoapStub.slots w, slot.1 ∈ SoapStub.names :=
        fun slot hslot => List.mem_map_of_mem (f := Prod.fst) hslot
      rw [hjson]
      exact Members.sameApartFrom_read hobj ((List.cons.inj hextras).1.trans hextra) hslots

/-- Unmodelled members of a stub and of its response, and one that is dropped. -/
def layered : String :=
  "\x7b\"later\":\"x\",\"response\":\x7b\"zone\":[-3]\x7d,\"scenario\":\x7b\"note\":2\x7d\x7d"

theorem unmodelled_survive_layered :
    ∃ v w : Stub, Record.read? layered = some v ∧ v.setField .name "b" = .ok w
      ∧ (Record.toJson (w.cycleField .method)).membersNamed "later" = [.str "x"]
      ∧ ∃ inner, (Record.toJson (w.cycleField .method)).membersNamed "response" = [inner]
        ∧ inner.membersNamed "zone" = [.arr [.ofInt (-3)]]
        ∧ inner.membersNamed "host" = [] := by
  have hvalue : Json.parse? layered = some (.obj
      [("later", .str "x"), ("response", .obj [("zone", .arr [.ofInt (-3)])]),
       ("scenario", .obj [("note", .ofNat 2)])]) := by decide +kernel
  have hread : (Record.read? (α := Stub) layered).isSome = true := by decide +kernel
  rcases Option.isSome_iff_exists.1 hread with ⟨v, hv⟩
  have hset : Form.setValue v RestField.name "b" = .ok { v with name := "b" } := rfl
  have hnamed : StubKind.Edited .rest v { v with name := "b" } := .store hset .unchanged
  have hedited : StubKind.Edited .rest v (Stub.cycleField { v with name := "b" } .method) :=
    hnamed.cycle RestField.method
  rcases @unmodelled_survive .rest v _ layered _ hvalue hv hedited with ⟨htop, hparts⟩
  rcases hparts ("response", ResponseDefinition.names) (by simp [parts]) with
    ⟨inner, hinner, hsame⟩
  exact ⟨v, _, hv, rfl, htop "later" (by decide), inner, hinner, hsame "zone" (by decide),
    hsame "host" (by decide)⟩

end StubKind

end StubConsole
