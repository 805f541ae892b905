import StubConsole.Json.Reformat
import StubConsole.Proofs.Record.Values
import StubConsole.Proofs.Session.Unmodelled

/-!
# Formatted — the pretty form of a text says what the text says

A text is read in two ways: as a value, where the last of several members of a name counts, and as
a stub, where a name that stands twice is refused.  The pretty form is printed from the value and
has to serve both.

* `Json.parse?_pretty` — the pretty form of the value of a text has that value;
* `StubKind.read?_pretty` — a text that stands for a stub has a pretty form that stands for it;
* `Formatted` — what the form of a text shares with it, for any reader;
* `Editor.savePlan_withDocument` — a save sends the same from both.
-/

namespace StubConsole

/-! ## Values and stubs -/

namespace Json

variable {text : String} {d : Json}

/-- Fractions are left out, since reading one may round twice. -/
theorem read?_pretty_of_parse? (h : parse? text = some d) (hwhole : d.isWhole = true) :
    read? .any d.pretty = some d :=
  read?_pretty (within_of_parse? h) hwhole (.any d)

theorem parse?_pretty (h : parse? text = some d) (hwhole : d.isWhole = true) :
    parse? d.pretty = some d := by
  have hread : (readChars .any d.pretty.toList).toOption = some d :=
    read?_pretty_of_parse? h hwhole
  rw [parse?, hread, Option.map_some, sorted_of_parse? h]

theorem reformat_pretty (h : parse? text = some d) (hwhole : d.isWhole = true) :
    reformat d.pretty = d.pretty := by
  rw [reformat, parse?_pretty h hwhole]

theorem parse_eq_ok_iff : parse text = .ok d ↔ parse? text = some d := by
  unfold parse parse?
  cases readChars .any text.toList <;> simp [Except.toOption]

end Json

/-- The members that the stub does not ask for are left out of both, and what is left of the
pretty form is the value of what is left of the text. -/
theorem StubKind.read?_pretty {kind : StubKind} {v : kind.Item} {text : String} {d : Json}
    (hvalue : Json.parse? text = some d) (hwhole : d.isWhole = true)
    (hread : Record.read? text = some v) : Record.read? d.pretty = some v := by
  rcases exists_of_read? hvalue hread with ⟨full, rfl, hof⟩
  have hpretty : Json.read? (Record.shape kind.Item) full.sorted.pretty
      = some (full.sorted.keep (Record.shape kind.Item)) :=
    Json.read?_keep (solid_shape kind) (Json.read?_pretty_of_parse? hvalue hwhole)
  rw [Record.read?, hpretty, Option.bind_some, Json.keep_sorted]
  exact takesValue kind _ v hof

/-! ## Texts and buffers -/

/-- The second text is the pretty form of the first one: for every reader it says the same, and
it is its own pretty form. -/
structure Formatted (before after : String) : Prop where
  value : ∃ doc, Json.parse? before = some doc ∧ Json.parse? after = some doc
  stub : ∀ {kind : StubKind} {v : kind.Item}, Record.read? before = some v →
    Record.read? after = some v
  settled : Json.reformat after = after

namespace TextBuffer

variable {b after : TextBuffer}

theorem exists_of_formatJson (h : b.formatJson = .ok after) :
    ∃ doc, Json.parse? b.content = some doc ∧ after = b.setContent doc.pretty := by
  unfold formatJson at h
  split at h
  next doc hparse =>
    cases h
    exact ⟨doc, Json.parse_eq_ok_iff.1 hparse, rfl⟩
  next => cases h

theorem parse?_of_formatJson_error {message : String} (h : b.formatJson = .error message) :
    Json.parse? b.content = none := by
  unfold formatJson at h
  cases hparse : Json.parse? b.content with
  | none => rfl
  | some doc =>
      rw [Json.parse_eq_ok_iff.2 hparse] at h
      cases h

theorem formatted_of_formatJson (h : b.formatJson = .ok after)
    (hwhole : ∀ doc ∈ Json.parse? b.content, doc.isWhole = true) :
    Formatted b.content after.content := by
  rcases exists_of_formatJson h with ⟨doc, hparse, rfl⟩
  have hdoc := hwhole doc hparse
  exact {
    value := ⟨doc, hparse, Json.parse?_pretty hparse hdoc⟩
    stub := StubKind.read?_pretty hparse hdoc
    settled := Json.reformat_pretty hparse hdoc }

/-- The cursor stands at the end already. -/
theorem formatJson_again (h : b.formatJson = .ok after)
    (hwhole : ∀ doc ∈ Json.parse? b.content, doc.isWhole = true) :
    after.formatJson = .ok after := by
  rcases exists_of_formatJson h with ⟨doc, hparse, rfl⟩
  have hagain : Json.parse (b.setContent doc.pretty).content = .ok doc :=
    Json.parse_eq_ok_iff.2 (Json.parse?_pretty hparse (hwhole doc hparse))
  unfold formatJson
  rw [hagain]
  rfl

end TextBuffer

/-! ## Editors -/

theorem Session.prepareSave_formatted {kind : StubKind} {s : Session kind.Item} {v : kind.Item}
    {before : String} {b : TextBuffer} (hdraft : s.draft = .raw before)
    (hf : Formatted before b.content) (h : s.prepareSave = .ok v) :
    ({ s with draft := .raw b.content, json := some b } : Session kind.Item).prepareSave
      = .ok v := by
  rcases Json.exists_of_bind_eq_ok h with ⟨value, hvalue, hchecked⟩
  have hread : Record.read? before = some value := by
    unfold currentValue at hvalue
    rw [hdraft] at hvalue
    dsimp only at hvalue
    split at hvalue
    next found hfound =>
      cases hvalue
      exact hfound
    next => cases hvalue
  have hafter : Record.read? b.content = some value := hf.stub hread
  have hagain : Session.currentValue { s with draft := .raw b.content, json := some b }
      = .ok value := by
    simp only [currentValue, hafter]
  exact Json.bind_eq_ok_of hagain hchecked

namespace Editor

/-- The editor with another text as its document. -/
def withDocument (e : Editor) (b : TextBuffer) : Editor :=
  { e with session := { e.session with draft := .raw b.content, json := some b } }

variable {e : Editor} {before : String} {b : TextBuffer} {plan : SavePlan}

/-- A REST stub is sent as the value of its text, the others as the stubs that their texts stand
for. -/
theorem savePlan_withDocument (hdraft : e.session.draft = .raw before)
    (hf : Formatted before b.content) (h : e.savePlan = .ok plan) :
    (e.withDocument b).savePlan = .ok plan := by
  rcases e with ⟨kind, session⟩
  cases kind with
  | rest =>
      have hcheck : checkDocument b.content = checkDocument before := by
        rcases hf.value with ⟨doc, hbefore, hafter⟩
        rw [checkDocument, checkDocument, hbefore, hafter]
      simp only at hdraft
      simp only [savePlan, hdraft] at h
      simp only [savePlan, withDocument, hcheck]
      exact h
  | graphQl | soap =>
      rcases Json.exists_of_bind_eq_ok h with ⟨value, hvalue, hplan⟩
      exact Json.bind_eq_ok_of (Session.prepareSave_formatted hdraft hf hvalue) hplan

end Editor

end StubConsole
