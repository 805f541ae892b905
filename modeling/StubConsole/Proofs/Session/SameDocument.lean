import StubConsole.Proofs.Session.SaveTarget
import StubConsole.Proofs.Session.Toggle

/-!
# SameDocument — the form and its text save the same document

A stub is saved from the form as a typed record, and from the text as the document that was
typed.  Right after the form was changed into its text both send the same value to the same
place.

* `Json.membersNamed_sorted` — what the value of a document says under a name;
* `checkDocument_pretty` — the text of a stub without faults passes the check of texts;
* `Editor.savePlan_toggled` — both saves of one stub.
-/

namespace StubConsole

/-! ## Values of documents -/

namespace Json

theorem membersNamed_sorted (key : String) (doc : Json) :
    doc.sorted.membersNamed key = ((doc.membersNamed key).getLast?.map sorted).toList := by
  cases doc with
  | obj members =>
      have hmap : (members.map fun m => (m.1, m.2.sorted)).filter (fun e => e.1 == key)
          = (members.filter fun m => m.1 == key).map fun m => (m.1, m.2.sorted) :=
        List.filter_map
      rw [sorted_obj]
      simp only [membersNamed, SortedMap.filter_ofList, hmap, List.getLast?_map]
      cases (members.filter fun m => m.1 == key).getLast? <;> rfl
  | _ => rfl

theorem get?_eq_head? (key : String) (doc : Json) :
    doc.get? key = (doc.membersNamed key).head? := by
  cases doc with
  | obj members =>
      simp only [get?, membersNamed]
      induction members with
      | nil => rfl
      | cons m rest ih =>
          rcases m with ⟨k, value⟩
          by_cases hk : k = key
          · subst hk
            simp
          · have hkey : (key == k) = false := by simpa using Ne.symm hk
            simpa [List.lookup_cons, hkey, hk] using ih
  | _ => rfl

/-- A member that is as it should be already changes nothing. -/
theorem setMember_of_membersNamed {members : List (String × Json)} {key : String}
    {value : Option Json} (hascend : KeysAscend members)
    (h : (Json.obj members).membersNamed key = value.toList) :
    (Json.obj members).setMember key value = .obj members := by
  cases value with
  | some value =>
      have hmem : value ∈ (Json.obj members).membersNamed key := by
        rw [h]
        exact List.mem_singleton_self value
      rcases List.mem_map.1 hmem with ⟨m, hfiltered, rfl⟩
      rcases List.mem_filter.1 hfiltered with ⟨hm, hkey⟩
      obtain rfl : m.1 = key := eq_of_beq hkey
      exact congrArg Json.obj (SortedMap.insertEntry_of_mem hascend hm)
  | none =>
      have hkeep : ∀ m ∈ members, (m.1 != key) = true := by
        intro m hm
        by_cases hkey : m.1 = key
        · have hmem : m.2 ∈ (Json.obj members).membersNamed key :=
            List.mem_map_of_mem (List.mem_filter.2 ⟨hm, by simpa using hkey⟩)
          rw [h] at hmem
          cases hmem
        · simpa using hkey
      exact congrArg Json.obj (List.filter_eq_self.2 hkeep)

end Json

/-! ## The text of a stub -/

namespace Stub

variable {v : Stub}

theorem membersNamed_toJson (hsound : v.Sound) {name : String} {value : Option Json}
    (hslot : (name, value) ∈ v.slots) :
    (Record.toJson v).membersNamed name = value.toList := by
  have hjson : Record.toJson v = .obj (Members.ofSlots v.slots ++ v.extra.entries) := toJson_eq v
  have hname : name ∈ names := List.mem_map_of_mem (f := Prod.fst) hslot
  rw [hjson]
  refine Members.membersNamed_ofSlots (by decide : names.Nodup) hslot ?_
  intro e he heq
  exact hsound.extra.foreign e he (heq ▸ hname)

/-- The members that a text needs are there, and none of them counts as missing. -/
theorem truthy_of_faults (hsound : v.Sound) (hfaults : v.faults = []) :
    ∀ key ∈ neededKeys, ((Record.toJson v).sorted.get? key).any Json.truthy = true := by
  have hname : v.name ≠ "" := by
    intro hempty
    have hblank : Text.allBlank v.name = true := by
      rw [hempty]
      rfl
    have hmissing : DraftFault.nameMissing ∈ v.faults := by
      simp only [faults, DraftFault.when, hblank, if_true, List.cons_append, List.mem_cons,
        true_or]
    rw [hfaults] at hmissing
    cases hmissing
  have hget (key : String) (value : Json) (hslot : (key, some value) ∈ v.slots) :
      (Record.toJson v).sorted.get? key = some value.sorted := by
    rw [Json.get?_eq_head?, Json.membersNamed_sorted, membersNamed_toJson hsound hslot]
    rfl
  simp only [neededKeys, List.forall_mem_cons, List.not_mem_nil, false_implies, implies_true,
    and_true]
  refine ⟨?_, ?_, ?_⟩
  · rw [hget "name" (.str v.name) (by simp [slots])]
    simpa [Json.sorted, Json.truthy] using hname
  · rw [hget "request" v.request.toJson (by simp [slots])]
    rfl
  · rw [hget "response" v.response.toJson (by simp [slots])]
    rfl

end Stub

/-- A text is checked on its own, but asks for nothing that the form does not. -/
theorem checkDocument_pretty {v : Stub} (hsound : v.Sound) (hfaults : v.faults = [])
    (hreadable : Json.Readable .any Json.depthLimit (Record.toJson v)) :
    checkDocument (Record.writePretty v) = .ok (Record.toJson v).sorted := by
  have hparse : Json.parse? (Record.writePretty v) = some (Record.toJson v).sorted := by
    have hread := Json.read?_pretty_of_readable hreadable
    exact congrArg (Option.map Json.sorted) hread
  have hneeded : (neededKeys.all fun key =>
      ((Record.toJson v).sorted.get? key).any Json.truthy) = true :=
    List.all_eq_true.2 (Stub.truthy_of_faults hsound hfaults)
  simp only [checkDocument, hparse, hneeded, if_true]

/-! ## Both saves -/

namespace Editor

open StubKind (savedId?)

/-- The form sends the stub as it is: it was opened under its own identifier. -/
theorem savePlan_opened {v : Stub} (hfaults : v.faults = []) :
    savePlan ⟨.rest, .opened v⟩ = .ok (.ofItem .rest v) := by
  have hid : (@savedId? .rest v).getD "" = v.id := by
    by_cases h : v.id = "" <;> simp [savedId?, Form.id, h]
  have hprepare : (Session.opened v).prepareSave = .ok v := by
    calc
      (Session.opened v).prepareSave
          = if v.faults = [] then .ok { v with id := (@savedId? .rest v).getD "" }
            else .error v.faults := rfl
      _ = .ok v := by rw [if_pos hfaults, hid]
  calc
    savePlan ⟨.rest, .opened v⟩
        = (Session.opened v).prepareSave >>= fun item => .ok (.ofItem .rest item) := rfl
    _ = .ok (.ofItem .rest v) := by
          rw [hprepare]
          rfl

/-- The text is sent as the value that it stands for, under the identifier that was opened. -/
theorem savePlan_text {v : Stub}
    (hcheck : checkDocument (Record.writePretty v) = .ok (Record.toJson v).sorted) :
    savePlan ⟨.rest, (Session.opened v).toggleMode.1⟩
      = .ok (.ofDocument (@savedId? .rest v) (Record.toJson v).sorted) := by
  have hdraft : (Session.opened v).draft = .structured v := rfl
  rw [Session.toggleMode_structured hdraft]
  simp only [savePlan, hcheck]
  rfl

/-- A stub says its own identifier already, so putting it in changes nothing. -/
theorem setMember_id {v : Stub} (hsound : v.Sound) :
    (Record.toJson v).sorted.setMember "id" ((@savedId? .rest v).map .str)
      = (Record.toJson v).sorted := by
  have hjson : Record.toJson v = .obj (Members.ofSlots v.slots ++ v.extra.entries) :=
    Stub.toJson_eq v
  have hid : (Record.toJson v).membersNamed "id"
      = ((@savedId? .rest v).map Json.str).toList := by
    have hslot : ("id", Members.filled v.id) ∈ v.slots := List.mem_cons_self
    rw [Stub.membersNamed_toJson hsound hslot]
    by_cases h : v.id = "" <;> simp [savedId?, Members.filled, Form.id, h]
  have hsorted : (Record.toJson v).sorted.membersNamed "id"
      = ((@savedId? .rest v).map Json.str).toList := by
    rw [Json.membersNamed_sorted, hid]
    cases @savedId? .rest v <;> rfl
  rw [hjson, Json.sorted_obj] at hsorted ⊢
  exact Json.setMember_of_membersNamed (SortedMap.ascending _) hsorted

/-- Fractions are left out, since reading one may round twice. -/
theorem savePlan_toggled (v : Stub) (built : StubKind.Built .rest v) (hfaults : v.faults = [])
    (hwhole : ∀ doc ∈ v.unmodelled, doc.isWhole = true)
    (hwithin : Json.Within Json.depthLimit (Record.toJson v)) :
    (Session.opened v).toggleMode.2 = .ok () ∧
      ∃ typed raw, savePlan ⟨.rest, .opened v⟩ = .ok typed ∧
        savePlan ⟨.rest, (Session.opened v).toggleMode.1⟩ = .ok raw ∧
        typed.id = @savedId? .rest v ∧ raw.id = typed.id ∧
        typed.document = Record.toJson v ∧ raw.document = typed.document.sorted := by
  have hsound : v.Sound := built.kept.sound
  have hreadable : Json.Readable .any Json.depthLimit (Record.toJson v) := by
    have hdeep := StubKind.readable_toJson built.kept.sound built.kept.fits_deeper hwhole
    exact .any hwithin hdeep.whole
  have hcheck := checkDocument_pretty hsound hfaults hreadable
  refine ⟨?_, _, _, savePlan_opened hfaults, savePlan_text hcheck, rfl, rfl, rfl, ?_⟩
  · have hdraft : (Session.opened v).draft = .structured v := rfl
    rw [Session.toggleMode_structured hdraft]
  · exact setMember_id hsound

/-- A stub with a numeric identifier and unmodelled members at two levels. -/
def zoned : Stub :=
  { Stub.fresh with
    id := "7"
    name := "a"
    response :=
      { ResponseDefinition.empty with
        status := 200
        extra := ⟨[("zone", .arr [.ofInt (-3)])], by decide⟩ }
    enabled := none
    extra := ⟨[("later", .str "é")], by decide⟩ }

theorem savePlan_toggled_zoned :
    ∃ typed raw, savePlan ⟨.rest, .opened (zoned.cycleField .method)⟩ = .ok typed ∧
      savePlan ⟨.rest, (Session.opened (zoned.cycleField .method)).toggleMode.1⟩ = .ok raw ∧
      typed.id = some "7" ∧ raw.id = some "7" ∧
      raw.document ≠ typed.document ∧ raw.document = typed.document.sorted := by
  have hread : Record.read?
      "\x7b\"id\":7,\"name\":\"a\",\"request\":\x7b\"method\":\"GET\",\"urlPath\":\"/\"\x7d,
        \"response\":\x7b\"status\":200,\"zone\":[-3]\x7d,\"later\":\"\\u00e9\"\x7d"
      = some zoned := by decide +kernel
  have opened : StubKind.Built .rest zoned := .read hread
  have built : StubKind.Built .rest (zoned.cycleField .method) := opened.cycle RestField.method
  have hwhole : ∀ doc ∈ (RecordType.stub .rest).unmodelled (zoned.cycleField .method),
      doc.isWhole = true := by decide
  have hback : Record.TakenBack (zoned.cycleField .method) :=
    built.kept.takenBack hwhole fun _ h => nomatch h
  rcases savePlan_toggled (zoned.cycleField .method) built (by decide) hwhole
      hback.readable.within with
    ⟨-, typed, raw, htyped, hraw, hid, hsame, hdocument, hsorted⟩
  have hdiffer : (Record.toJson (zoned.cycleField .method)).sorted
      ≠ Record.toJson (zoned.cycleField .method) := by decide +kernel
  refine ⟨typed, raw, htyped, hraw, hid, hsame.trans hid, ?_, hsorted⟩
  rw [hsorted, hdocument]
  exact hdiffer

end Editor

end StubConsole
