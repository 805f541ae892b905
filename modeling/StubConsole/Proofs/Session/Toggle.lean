import StubConsole.Proofs.Session.Built

/-!
# Toggle — from the form to the text and back

The text that a form is shown as is the record as it would be written.  It is taken back unless
the metadata use all the levels that the reader allows: they were read on their own, and inside
the record they stand one level deeper.

* `Session.toggleMode_structured`, `toggleMode_raw` — the two directions;
* `Session.toggle_back` — both directions after any sequence of edits;
* `nest` — metadata of any depth, and a session that cannot go back.
-/

namespace StubConsole

namespace Session

/-! ## The two directions -/

section Directions

variable {α Field : Type} [Form α Field] {s : Session α}

theorem toggleMode_structured {value : α} (h : s.draft = .structured value) :
    s.toggleMode = ({ s with
      draft := .raw (Record.writePretty value)
      input := none
      json := some (.multiLine (Record.writePretty value)) }, .ok ()) := by
  simp [toggleMode, h, Draft.toggle?, Draft.isRaw, Draft.enterJsonMode, Draft.text, Draft.rawText?]

theorem toggleMode_raw {text : String} (h : s.draft = .raw text) :
    s.toggleMode =
      match (Record.read? text : Option α) with
      | some value => ({ s with draft := .structured value, input := none, json := none }, .ok ())
      | none => ({ s with input := none }, .error Draft.cannotLeave) := by
  cases hread : (Record.read? text : Option α) <;>
    simp [toggleMode, h, Draft.toggle?, Draft.isRaw, Draft.enterFormMode?, Draft.rawText?, hread]

end Directions

/-! ## There and back -/

variable {kind : StubKind} {s : Session kind.Item} {w : kind.Item}

/-- Back in the form, the draft is the one that was left if it is read from its own text. -/
theorem toggle_back_of_kept (kept : kind.Kept w) (hdraft : s.draft = .structured w)
    (hwhole : ∀ doc ∈ (RecordType.stub kind).unmodelled w, doc.isWhole = true) :
    ((∀ doc ∈ kind.metadata w, Json.Within 126 doc) →
        s.toggleMode.1.toggleMode.2 = .ok () ∧
          s.toggleMode.1.toggleMode.1.draft = .structured w) ∧
      ((¬ ∀ doc ∈ kind.metadata w, Json.Within 126 doc) →
        s.toggleMode.1.toggleMode.2 = .error Draft.cannotLeave ∧
          s.toggleMode.1.toggleMode.1.draft = .raw (Record.writePretty w)) := by
  rw [toggleMode_structured hdraft, toggleMode_raw rfl]
  constructor
  · intro hmetadata
    have hread := (kept.takenBack hwhole hmetadata).read?_writePretty
    simp only [hread, and_self]
  · intro hdeep
    have hread : (Record.read? (Record.writePretty w) : Option kind.Item) = none := by
      refine Option.eq_none_iff_forall_not_mem.2 ?_
      intro u hu
      exact hdeep (kept.metadata_of_read?_writePretty hwhole hu)
    simp only [hread, and_self]

/-- Fractions are left out, since reading one may round twice. -/
theorem toggle_back (kind : StubKind) (v w : kind.Item) (built : kind.Built v)
    (steps : List SessionStep) (hdraft : ((opened v).run steps).draft = .structured w)
    (hwhole : ∀ doc ∈ (RecordType.stub kind).unmodelled w, doc.isWhole = true) :
    let there := ((opened v).run steps).toggleMode
    let back := there.1.toggleMode
    there.2 = .ok () ∧
      ((∀ doc ∈ kind.metadata w, Json.Within 126 doc) →
        back.2 = .ok () ∧ back.1.draft = .structured w) ∧
      ((¬ ∀ doc ∈ kind.metadata w, Json.Within 126 doc) →
        back.2 = .error Draft.cannotLeave ∧ back.1.draft = .raw (Record.writePretty w)) := by
  intro there back
  have hsteady := steady_run kind.editClosed_built (steady_opened built) steps
  have kept : kind.Kept w := (hsteady.structured w hdraft).kept
  have hthere : there.2 = .ok () := by
    simp only [there, toggleMode_structured hdraft]
  exact ⟨hthere, toggle_back_of_kept kept hdraft hwhole⟩

/-- The keys that open the metadata of a stub, type a text there and store it. -/
def typeMetadata (text : String) : List SessionStep :=
  .setTab .advanced :: List.replicate 4 .selectNext ++
    [.activate, .typeField fun b => b.setContent text, .commit]

theorem toggle_back_typedMetadata :
    let s := (opened Stub.fresh).run (typeMetadata "\x7b\"b\":[\x7b\x7d],\"a\":-1\x7d")
    ∃ w, s.draft = .structured w ∧
      w.metadata = some (.obj [("a", .ofInt (-1)), ("b", .arr [.obj []])]) ∧
      s.toggleMode.1.toggleMode.1.draft = .structured w := by
  intro s
  let w : Stub :=
    { Stub.fresh with metadata := some (.obj [("a", .ofInt (-1)), ("b", .arr [.obj []])]) }
  have hdraft : s.draft = .structured w := by decide +kernel
  have hback := toggle_back .rest Stub.fresh w .fresh _ hdraft (by decide)
  have hmetadata : ∀ doc ∈ StubKind.metadata .rest w, Json.Within 126 doc := by
    rintro doc ⟨⟩
    refine .obj ?_
    simp only [List.forall_mem_cons, List.not_mem_nil, false_implies, implies_true, and_true]
    exact ⟨.num ⟨by decide, by decide⟩, .arr (by simpa using .obj (by simp))⟩
  exact ⟨w, hdraft, rfl, (hback.2.1 hmetadata).2⟩

end Session

/-! ## Metadata with too many levels -/

namespace Json

/-- An object with `n` more objects inside, one in the other. -/
def nest : Nat → Json
  | 0 => .obj []
  | n + 1 => .obj [("a", nest n)]

theorem within_nest (n : Nat) : Within (n + 1) (nest n) := by
  induction n with
  | zero => exact .obj fun _ h => nomatch h
  | succ n ih =>
      refine .obj ?_
      simpa using ih

theorem lt_of_within_nest {n depth : Nat} (h : Within depth (nest n)) : n < depth := by
  induction n generalizing depth with
  | zero =>
      cases h
      exact Nat.succ_pos _
  | succ n ih =>
      cases h with
      | obj hmembers => exact Nat.succ_lt_succ (ih (hmembers _ List.mem_cons_self))

theorem isWhole_nest (n : Nat) : (nest n).isWhole = true := by
  induction n with
  | zero => rfl
  | succ n ih => simpa [nest, isWhole, haveWhole] using ih

theorem sorted_nest (n : Nat) : (nest n).sorted = nest n := by
  induction n with
  | zero => rfl
  | succ n ih =>
      rw [nest, sorted_obj, List.map_singleton, ih]
      rfl

theorem readMetadata_nest {n : Nat} (h : n < depthLimit) :
    Rows.readMetadata (nest n).compact = .ok (some (nest n)) := by
  have hread : read? .any (nest n).compact = some (nest n) :=
    read?_compact ((within_nest n).mono h) (isWhole_nest n) (.any _)
  have hparse : parse? (nest n).compact = some (nest n) := by
    have hsorted := congrArg (Option.map sorted) hread
    rw [Option.map_some, sorted_nest] at hsorted
    exact hsorted
  have hblank : Text.allBlank (nest n).compact = false := by
    cases n <;> simp [Text.allBlank, compact, nest, compactChars, Text.isBlank]
  have hobject : (nest n).isObject = true := by
    cases n <;> rfl
  simp [Rows.readMetadata, hblank, hparse, hobject]

end Json

namespace Session

theorem setValue_metadata {text : String} {doc : Json}
    (h : Rows.readMetadata text = .ok (some doc)) :
    Form.setValue Stub.fresh RestField.metadata text
      = .ok { Stub.fresh with metadata := some doc } := by
  change Stub.setField Stub.fresh .metadata text = _
  simp only [Stub.setField, h]
  rfl

theorem draft_typeMetadata {text : String} {doc : Json}
    (h : Rows.readMetadata text = .ok (some doc)) :
    ((opened Stub.fresh).run (typeMetadata text)).draft
      = .structured { Stub.fresh with metadata := some doc } := by
  let typed : Session Stub :=
    { opened Stub.fresh with
      tab := .advanced
      field := 4
      input := some ((TextBuffer.multiLine "").setContent text) }
  have hrun : (opened Stub.fresh).run (typeMetadata text) = typed.after .commit := rfl
  have hcommit : typed.commitInput
      = .ok { typed with
          draft := .structured { Stub.fresh with metadata := some doc }
          input := none } := by
    change (Form.setValue Stub.fresh RestField.metadata text >>= _) = _
    rw [setValue_metadata h]
    rfl
  rw [hrun, after, hcommit]

theorem cannotLeave_of_deep {text : String} {doc : Json}
    (h : Rows.readMetadata text = .ok (some doc)) (hwhole : doc.isWhole = true)
    (hdeep : ¬ Json.Within 126 doc) :
    ((opened Stub.fresh).run (typeMetadata text)).toggleMode.1.toggleMode.2
      = .error Draft.cannotLeave := by
  have hdraft := draft_typeMetadata h
  have built : StubKind.Built .rest { Stub.fresh with metadata := some doc } :=
    .store (setValue_metadata h) .fresh
  have honly : (RecordType.stub .rest).unmodelled { Stub.fresh with metadata := some doc }
      = [doc] := rfl
  refine ((toggle_back_of_kept built.kept hdraft ?_).2 ?_).1
  · rw [honly]
    simpa using hwhole
  · intro hmetadata
    exact hdeep (hmetadata doc rfl)

/-- Metadata with as many levels as the reader allows are stored, and shown as a text that is not
taken back. -/
theorem deep_metadata_cannotLeave :
    let s := (opened Stub.fresh).run (typeMetadata (Json.nest 126).compact)
    s.draft = .structured { Stub.fresh with metadata := some (Json.nest 126) } ∧
      s.toggleMode.1.toggleMode.2 = .error Draft.cannotLeave := by
  have hread : Rows.readMetadata (Json.nest 126).compact = .ok (some (Json.nest 126)) :=
    Json.readMetadata_nest (by decide)
  have hdeep : ¬ Json.Within 126 (Json.nest 126) := fun h =>
    Nat.lt_irrefl 126 (Json.lt_of_within_nest h)
  exact ⟨draft_typeMetadata hread, cannotLeave_of_deep hread (Json.isWhole_nest 126) hdeep⟩

end Session

end StubConsole
