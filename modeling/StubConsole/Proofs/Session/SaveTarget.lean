import StubConsole.Editor
import StubConsole.Proofs.Session.Edits
import StubConsole.Proofs.Session.Steps

/-!
# SaveTarget — a save aims at the record that was opened

Whatever is typed into a form or a document, a save updates the record that the editor was opened
on, or makes a new one if it was opened on none, and sends nothing that did not pass its check.

* `Json.membersNamed` — what a document says under one name;
* `StubKind.membersNamed_id` — a record names its identifier once, a new one not at all;
* `Editor.Checked` — a document that passed the check of its kind;
* `Editor.savePlan_after_run` — the plan of a save after any sequence of edits.
-/

namespace StubConsole

/-! ## What a document says under a name -/

namespace Json

def membersNamed (key : String) : Json → List Json
  | .obj members => (members.filter fun m => m.1 == key).map (·.2)
  | _ => []

section Obj

variable {members : List (String × Json)} {key other : String} {value : Json}

theorem membersNamed_setMember_of_ne (h : other ≠ key) (new : Option Json) (doc : Json) :
    (doc.setMember key new).membersNamed other = doc.membersNamed other := by
  cases doc with
  | obj members =>
      cases new with
      | some value =>
          simp only [setMember, membersNamed, SortedMap.filter_insertEntry_of_ne h]
      | none =>
          have hsame : ∀ m ∈ members, (m.1 == other && m.1 != key) = (m.1 == other) := by
            intro m _
            by_cases hm : m.1 = other
            · simp [hm, h]
            · simp [hm]
          simp only [setMember, membersNamed, List.filter_filter]
          rw [List.filter_congr hsame]
  | _ => rfl

theorem membersNamed_setMember_self (h : KeysAscend members) (new : Option Json) :
    ((Json.obj members).setMember key new).membersNamed key = new.toList := by
  cases new with
  | some value =>
      simp [setMember, membersNamed, SortedMap.filter_insertEntry_self h]
  | none =>
      have hnone : (members.filter fun m => m.1 != key).filter (fun m => m.1 == key) = [] := by
        refine List.filter_eq_nil_iff.2 ?_
        intro m hm heq
        have hne : m.1 ≠ key := by simpa using (List.mem_filter.1 hm).2
        exact hne (eq_of_beq heq)
      simp [setMember, membersNamed, hnone]

end Obj

end Json

theorem Members.membersNamed_ofSlots {slots : List (String × Option Json)} {name : String}
    {extra : List (String × Json)} {value : Option Json} (hnodup : (slots.map (·.1)).Nodup)
    (hslot : (name, value) ∈ slots) (hextra : ∀ e ∈ extra, e.1 ≠ name) :
    (Json.obj (ofSlots slots ++ extra)).membersNamed name = value.toList := by
  have hnone : extra.filter (fun m => m.1 == name) = [] := by
    refine List.filter_eq_nil_iff.2 ?_
    intro e he heq
    exact hextra e he (eq_of_beq heq)
  simp only [Json.membersNamed, List.filter_append, filter_ofSlots hnodup hslot, hnone,
    List.append_nil]
  cases value <;> rfl

/-! ## The identifier in a document -/

namespace StubKind

variable {kind : StubKind}

/-- The identifier that a stub has on the server, if it was ever saved. -/
def savedId? (v : kind.Item) : Option String :=
  if Form.id v = "" then none else some (Form.id v)

theorem savedId?_eq_filled (v : kind.Item) :
    (savedId? v).toList.map Json.str = (Members.filled (Form.id v)).toList := by
  unfold savedId? Members.filled
  split <;> rfl

theorem membersNamed_id (v : kind.Item) (h : ∀ e ∈ (kind.extra v).entries, e.1 ≠ "id") :
    (Record.toJson v).membersNamed "id" = (savedId? v).toList.map .str := by
  rw [savedId?_eq_filled]
  cases kind with
  | rest =>
      have hjson : Record.toJson v = _ := Stub.toJson_eq v
      rw [hjson]
      exact Members.membersNamed_ofSlots (by decide : Stub.names.Nodup)
        List.mem_cons_self h
  | graphQl =>
      have hjson : Record.toJson v = _ := GraphQlStub.toJson_eq v
      rw [hjson]
      exact Members.membersNamed_ofSlots (by decide : GraphQlStub.names.Nodup)
        List.mem_cons_self h
  | soap =>
      have hjson : Record.toJson v = _ := SoapStub.toJson_eq v
      rw [hjson]
      exact Members.membersNamed_ofSlots (by decide : SoapStub.names.Nodup)
        List.mem_cons_self h

theorem id_setId (v : kind.Item) (id : String) : Form.id (Form.setId v id) = id := by
  cases kind <;> rfl

/-- The checks do not look at the identifier. -/
theorem faults_setId (v : kind.Item) (id : String) :
    Form.faults (Form.setId v id) = Form.faults v := by
  cases kind <;> rfl

theorem savedId?_setId_getD (v w : kind.Item) :
    savedId? (Form.setId w ((savedId? v).getD "")) = savedId? v := by
  simp only [savedId?, id_setId]
  by_cases h : Form.id v = "" <;> simp [h]

end StubKind

/-! ## Checks -/

namespace Session

variable {α Field : Type} [Form α Field]

theorem exists_of_prepareSave {s : Session α} {item : α} (h : s.prepareSave = .ok item) :
    ∃ value, s.currentValue = .ok value ∧ Form.faults value = []
      ∧ item = Form.setId value (s.openedId.getD "") := by
  rcases Json.exists_of_bind_eq_ok h with ⟨value, hvalue, hrest⟩
  refine ⟨value, hvalue, ?_⟩
  by_cases hfaults : Form.faults value = []
  · rw [if_pos hfaults] at hrest
    cases hrest
    exact ⟨hfaults, rfl⟩
  · rw [if_neg hfaults] at hrest
    cases hrest

end Session

/-- A document that passes the check is an object whose keys ascend. -/
theorem exists_of_checkDocument {text : String} {doc : Json} (h : checkDocument text = .ok doc) :
    ∃ members, doc = .obj members ∧ KeysAscend members := by
  unfold checkDocument at h
  split at h
  · cases h
  next parsed hparse =>
    split at h
    next hkeys =>
      cases h
      -- a document of another kind has no members at all
      have hname : (doc.get? "name").any Json.truthy = true :=
        List.all_eq_true.1 hkeys "name" List.mem_cons_self
      cases doc with
      | obj members =>
          refine ⟨members, rfl, ?_⟩
          rcases Option.map_eq_some_iff.1 hparse with ⟨source, -, hsource⟩
          cases source with
          | obj given =>
              rw [Json.sorted_obj] at hsource
              cases hsource
              exact SortedMap.ascending _
          | _ => cases hsource
      | _ => cases hname
    · cases h

namespace Editor

variable {kind : StubKind}

/-- What passed before the document is sent: the typed record, or the document of a REST stub as
it was typed, of which nothing but the identifier is changed. -/
inductive Checked (s : Session kind.Item) (document : Json) : Prop where
  | record (value : kind.Item) :
      (kind = .rest → s.draft.isRaw = false) →
      s.currentValue = .ok value →
      Form.faults (Form.setId value (s.openedId.getD "")) = [] →
      document = Record.toJson (Form.setId value (s.openedId.getD "")) →
      Checked s document
  | text (text : String) (typed : Json) :
      kind = .rest →
      s.draft = .raw text →
      s.json.map TextBuffer.content = some text →
      checkDocument text = .ok typed →
      (∀ key, key ≠ "id" → document.membersNamed key = typed.membersNamed key) →
      Checked s document

theorem exists_of_savePlan_raw {s : Session Stub} {text : String} {plan : SavePlan}
    (hdraft : s.draft = .raw text) (h : savePlan ⟨.rest, s⟩ = .ok plan) :
    ∃ typed, checkDocument text = .ok typed ∧ plan = .ofDocument s.openedId typed := by
  simp only [savePlan, hdraft] at h
  rcases Json.exists_of_bind_eq_ok h with ⟨typed, hcheck, hplan⟩
  cases htext : checkDocument text with
  | error fault =>
      rw [htext] at hcheck
      cases hcheck
  | ok doc =>
      rw [htext] at hcheck
      cases hcheck
      cases hplan
      exact ⟨typed, rfl, rfl⟩

theorem exists_of_savePlan_typed {s : Session kind.Item} {plan : SavePlan}
    (hdraft : kind = .rest → s.draft.isRaw = false) (h : savePlan ⟨kind, s⟩ = .ok plan) :
    ∃ item, s.prepareSave = .ok item ∧ plan = .ofItem kind item := by
  have hplan : (s.prepareSave >>= fun item => pure (SavePlan.ofItem kind item)) = .ok plan := by
    cases kind with
    | rest =>
        cases hform : s.draft with
        | structured value => simpa only [savePlan, hform] using h
        | raw text =>
            have hraw := hdraft rfl
            rw [hform] at hraw
            cases hraw
    | graphQl => exact h
    | soap => exact h
  rcases Json.exists_of_bind_eq_ok hplan with ⟨item, hitem, heq⟩
  cases heq
  exact ⟨item, hitem, rfl⟩

end Editor

/-! ## The plan of a save -/

/-- A stub keeps its identifier apart from the members it does not model. -/
theorem StubKind.foreignId_of_read? {kind : StubKind} {text : String} {v : kind.Item}
    (h : Record.read? text = some v) : ∀ e ∈ (kind.extra v).entries, e.1 ≠ "id" := by
  intro e he heq
  refine (unmodelled_of_read? h).foreign e he ?_
  rw [heq]
  cases kind <;> decide

theorem StubKind.foreignId_fresh (kind : StubKind) :
    ∀ e ∈ (kind.extra kind.fresh).entries, e.1 ≠ "id" := by
  cases kind <;> exact fun _ he => nomatch he

/-- No edit brings a member named `id` among the unmodelled ones. -/
theorem StubKind.editClosed_foreignId (kind : StubKind) :
    EditClosed fun v : kind.Item => ∀ e ∈ (kind.extra v).entries, e.1 ≠ "id" where
  cycle := by
    intro v field h
    rw [extra_eq_of_extras_eq (extras_cycle v field)]
    exact h
  setValue := by
    intro v w field text hset h
    rw [extra_eq_of_extras_eq (extras_setValue hset)]
    exact h
  read := by
    intro text v hread
    exact foreignId_of_read? hread

namespace Editor

variable {kind : StubKind}

theorem steady_run_opened {v : kind.Item} (hforeign : ∀ e ∈ (kind.extra v).entries, e.1 ≠ "id")
    (steps : List SessionStep) :
    ((Session.opened v).run steps).Steady (StubKind.savedId? v)
      fun w => ∀ e ∈ (kind.extra w).entries, e.1 ≠ "id" :=
  Session.steady_run (StubKind.editClosed_foreignId kind) (Session.steady_opened hforeign) steps

/-- A typed record has no unmodelled `id` either, be it read from the text or not. -/
theorem foreign_of_currentValue {s : Session kind.Item} {openedId : Option String}
    {value : kind.Item}
    (h : s.Steady openedId fun w => ∀ e ∈ (kind.extra w).entries, e.1 ≠ "id")
    (hvalue : s.currentValue = .ok value) : ∀ e ∈ (kind.extra value).entries, e.1 ≠ "id" := by
  unfold Session.currentValue at hvalue
  cases hdraft : s.draft with
  | structured typed =>
      rw [hdraft] at hvalue
      cases hvalue
      exact h.structured value hdraft
  | raw text =>
      rw [hdraft] at hvalue
      cases hread : (Record.read? text : Option kind.Item) with
      | none =>
          simp only [hread] at hvalue
          cases hvalue
      | some typed =>
          simp only [hread] at hvalue
          cases hvalue
          exact StubKind.foreignId_of_read? hread

/-- The plan for a typed record. -/
theorem target_of_record {s : Session kind.Item} {v : kind.Item} {plan : SavePlan}
    (hsteady : s.Steady (StubKind.savedId? v) fun w => ∀ e ∈ (kind.extra w).entries, e.1 ≠ "id")
    (hdraft : kind = .rest → s.draft.isRaw = false) (h : savePlan ⟨kind, s⟩ = .ok plan) :
    plan.kind = kind ∧ plan.id = StubKind.savedId? v
      ∧ plan.document.membersNamed "id" = (StubKind.savedId? v).toList.map .str
      ∧ Checked s plan.document := by
  rcases exists_of_savePlan_typed hdraft h with ⟨item, hprepare, rfl⟩
  rcases Session.exists_of_prepareSave hprepare with ⟨value, hvalue, hfaults, rfl⟩
  -- the identifier that is sent is the opened one, whatever the form or the text says
  have hid : StubKind.savedId? (Form.setId value (s.openedId.getD "")) = StubKind.savedId? v := by
    rw [hsteady.openedId_eq]
    exact StubKind.savedId?_setId_getD v value
  refine ⟨rfl, hid, ?_, ?_⟩
  · have hforeign := foreign_of_currentValue hsteady hvalue
    rw [← StubKind.extra_setId value (s.openedId.getD "")] at hforeign
    exact (StubKind.membersNamed_id _ hforeign).trans (by rw [hid])
  · refine .record value hdraft hvalue ?_ rfl
    rw [StubKind.faults_setId]
    exact hfaults

/-- The plan for a document that is sent as it was typed. -/
theorem target_of_text {s : Session Stub} {openedId : Option String} {P : Stub → Prop}
    {text : String} {plan : SavePlan} (hsteady : s.Steady openedId P)
    (hdraft : s.draft = .raw text) (h : savePlan ⟨.rest, s⟩ = .ok plan) :
    plan.kind = .rest ∧ plan.id = openedId
      ∧ plan.document.membersNamed "id" = openedId.toList.map .str
      ∧ @Checked .rest s plan.document := by
  rcases exists_of_savePlan_raw hdraft h with ⟨typed, hcheck, rfl⟩
  rcases exists_of_checkDocument hcheck with ⟨members, rfl, hascend⟩
  refine ⟨rfl, hsteady.openedId_eq, ?_, ?_⟩
  · -- the document is sent with its own identifier taken out and the opened one put in
    have hmember := @Json.membersNamed_setMember_self members "id" hascend (s.openedId.map .str)
    rw [hsteady.openedId_eq] at hmember
    simp only [SavePlan.ofDocument, hsteady.openedId_eq]
    rw [hmember]
    cases openedId <;> rfl
  · have hshown : s.json.map TextBuffer.content = some text := by
      rw [hsteady.shown, hdraft]
      rfl
    exact .text text (.obj members) rfl hdraft hshown hcheck
      fun key hkey =>
        Json.membersNamed_setMember_of_ne hkey (s.openedId.map .str) (.obj members)

/-- The members that the stub does not model are known not to name an identifier, as in every stub
that is read or made new: `StubKind.foreignId_of_read?`, `StubKind.foreignId_fresh`. -/
theorem savePlan_after_run (kind : StubKind) (v : kind.Item)
    (hforeign : ∀ e ∈ (kind.extra v).entries, e.1 ≠ "id") (steps : List SessionStep) :
    ((Session.opened v).run steps).openedId = StubKind.savedId? v
      ∧ ∀ plan, savePlan ⟨kind, (Session.opened v).run steps⟩ = .ok plan →
          plan.kind = kind ∧ plan.id = StubKind.savedId? v
            ∧ plan.document.membersNamed "id" = (StubKind.savedId? v).toList.map .str
            ∧ Checked ((Session.opened v).run steps) plan.document := by
  have hsteady := steady_run_opened hforeign steps
  refine ⟨hsteady.openedId_eq, ?_⟩
  intro plan hplan
  by_cases htyped : kind = .rest → ((Session.opened v).run steps).draft.isRaw = false
  · exact target_of_record hsteady htyped hplan
  · -- only the text of a REST stub is sent as it stands
    cases kind with
    | rest =>
        cases hdraft : ((Session.opened v).run steps).draft with
        | structured value =>
            refine absurd ?_ htyped
            intro _
            rw [hdraft]
            rfl
        | raw text => exact target_of_text hsteady hdraft hplan
    | graphQl => exact absurd (fun h => nomatch h) htyped
    | soap => exact absurd (fun h => nomatch h) htyped

/-- A document that names another identifier. -/
def otherId : String :=
  "\x7b\"id\":\"9\",\"name\":\"a\",\"request\":\x7b\x7d,\"response\":\x7b\x7d\x7d"

/-- Another identifier typed into the document does not redirect the save. -/
theorem savePlan_after_run_typedId :
    ∃ plan, savePlan ⟨.rest, (Session.opened { Stub.fresh with id := "7" }).run
        [.toggleMode, .typeJson fun b => b.setContent otherId]⟩ = .ok plan
      ∧ plan.id = some "7" ∧ plan.document.membersNamed "id" = [.str "7"] := by
  have hplan : (savePlan ⟨.rest, (Session.opened { Stub.fresh with id := "7" }).run
      [.toggleMode, .typeJson fun b => b.setContent otherId]⟩).toOption.isSome = true := by
    decide +kernel
  cases hsave : savePlan ⟨.rest, (Session.opened { Stub.fresh with id := "7" }).run
      [.toggleMode, .typeJson fun b => b.setContent otherId]⟩ with
  | error faults =>
      rw [hsave] at hplan
      cases hplan
  | ok plan =>
      rcases (savePlan_after_run .rest { Stub.fresh with id := "7" } (by decide) _).2 plan hsave
        with ⟨-, hid, hdocument, -⟩
      exact ⟨plan, rfl, hid, hdocument⟩

end Editor

end StubConsole
