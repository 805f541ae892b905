import StubConsole.Proofs.Console.Reached
import StubConsole.Proofs.Session.Formatted

/-!
# Formatting — a document is formatted without being changed

In an open document one key brings the text into pretty form.  A text that is no JSON stays as it
is, with its cursor, and a notice says what is wrong; any other text stays the text of the same
value, and of the same stub if it was one.

* `Console.DocumentOpen` — which document is typed in;
* `Console.DocumentOpen.formatted`, `Console.DocumentOpen.refused` — the console after the key;
* `Console.formatJson_safe` — any text, in whichever run it is typed.
-/

namespace StubConsole

namespace Console

/-- Keys are for the document of the open editor, which stands in the buffer. -/
structure DocumentOpen (s : Console) (e : Editor) (b : TextBuffer) : Prop where
  mode : s.mode = .editingJson
  active : s.editor.active = some e
  json : e.session.json = some b

/-- The key that formats an open document. -/
def formatKey : Key := ⟨.char 'f', true⟩

variable {s : Console} {e : Editor} {b after : TextBuffer}

theorem modifyEditor_active (hactive : s.editor.active = some e) :
    (s.modifyEditor fun _ => e) = s := by
  have hpane : s.editor.modify (fun _ => e) = s.editor := by
    unfold EditorPane.modify
    rw [hactive, Option.map_some, ← hactive]
  unfold modifyEditor
  rw [hpane]

/-! ## The key -/

namespace DocumentOpen

theorem handleKey_format (h : s.DocumentOpen e b) :
    s.handleKey formatKey = done (s.formatDocument e) := by
  simp only [handleKey, h.mode, handleJsonKey, h.active]
  rfl

theorem draft_eq (h : s.DocumentOpen e b) (hcoherent : e.session.Coherent) :
    e.session.draft = .raw b.content := by
  have hshown := hcoherent.shown
  rw [h.json] at hshown
  cases hdraft : e.session.draft with
  | structured value =>
      rw [hdraft] at hshown
      cases hshown
  | raw text =>
      rw [hdraft] at hshown
      exact congrArg Draft.raw (Option.some.inj hshown).symm

theorem formatted (h : s.DocumentOpen e b) (hcoherent : e.session.Coherent)
    (hformat : b.formatJson = .ok after) :
    s.handleKey formatKey = done (s.modifyEditor fun _ => e.withDocument after) := by
  have hdraft := h.draft_eq hcoherent
  rw [h.handleKey_format]
  simp only [formatDocument, h.json, hformat, Session.syncJson, hdraft]
  rfl

/-- Draft and text agree already, so nothing is taken over. -/
theorem refused (h : s.DocumentOpen e b) (hcoherent : e.session.Coherent) {message : String}
    (hformat : b.formatJson = .error message) :
    s.handleKey formatKey = done { s with notice := some (.error message) } := by
  have hsync : e.session.syncJson = e.session := by
    unfold Session.syncJson
    rw [h.json, h.draft_eq hcoherent]
    dsimp only
    rw [← h.draft_eq hcoherent, ← h.json]
  rw [h.handleKey_format]
  simp only [formatDocument, h.json, hformat, hsync, modifyEditor_active h.active]

end DocumentOpen

/-! ## Runs -/

/-- The text is either no JSON and stays open as it was, or it is replaced by its pretty form,
which is as good for every reader: what a save would have sent it sends.  Fractions are left out,
since reading one may round twice. -/
theorem formatJson_safe (b : TextBuffer)
    (hwhole : ∀ doc, Json.parse? b.content = some doc → doc.isWhole = true) :
    (∃ message, b.formatJson = .error message ∧ Json.parse? b.content = none ∧
      ∀ steps e, (initial.run steps).DocumentOpen e b →
        (initial.run steps).handleKey formatKey
          = done { initial.run steps with notice := some (.error message) })
    ∨ ∃ after, b.formatJson = .ok after ∧ Formatted b.content after.content ∧
        after.formatJson = .ok after ∧
        ∀ steps e, (initial.run steps).DocumentOpen e b →
          (initial.run steps).handleKey formatKey
              = done ((initial.run steps).modifyEditor fun _ => e.withDocument after) ∧
            ∀ plan, e.savePlan = .ok plan → (e.withDocument after).savePlan = .ok plan := by
  have hcoherent (steps : List ConsoleStep) {e : Editor}
      (h : (initial.run steps).DocumentOpen e b) : e.session.Coherent :=
    (consistent_run consistent_initial steps).session e h.active
  cases hformat : b.formatJson with
  | error message =>
      refine .inl ⟨message, rfl, TextBuffer.parse?_of_formatJson_error hformat, ?_⟩
      intro steps e hopen
      exact hopen.refused (hcoherent steps hopen) hformat
  | ok after =>
      have hformatted := TextBuffer.formatted_of_formatJson hformat hwhole
      refine .inr ⟨after, rfl, hformatted, TextBuffer.formatJson_again hformat hwhole, ?_⟩
      intro steps e hopen
      refine ⟨hopen.formatted (hcoherent steps hopen) hformat, ?_⟩
      intro plan hplan
      exact Editor.savePlan_withDocument (hopen.draft_eq (hcoherent steps hopen)) hformatted hplan

/-- A stub with nothing but a name. -/
def named : Stub :=
  { Stub.fresh with name := "a", request := .empty, response := .empty, enabled := none }

/-- A stub is opened as its document, and a line feed is typed behind it. -/
def strayRun : List ConsoleStep :=
  [.press (.ofChar '2'), .finish (.fetch (.stubs .rest)) (.ok [named]), .press (.ofChar 'e'),
    .press (.ofChar 'J'), .press (.plain .enter), .press (.plain .enter)]

def strayText : TextBuffer :=
  (TextBuffer.multiLine (Record.writePretty named)).insertChar '\n'

theorem formatJson_safe_stray :
    ∃ e after plan, (initial.run strayRun).DocumentOpen e strayText ∧
      (initial.run strayRun).handleKey formatKey
        = done ((initial.run strayRun).modifyEditor fun _ => e.withDocument after) ∧
      Formatted strayText.content after.content ∧
      e.savePlan = .ok plan ∧ (e.withDocument after).savePlan = .ok plan := by
  have hparse : Json.parse? strayText.content = some (.obj
      [("name", .str "a"), ("request", .obj [("method", .str "")]),
       ("response", .obj [("status", .ofNat 0)])]) := by decide +kernel
  have hwhole : ∀ doc, Json.parse? strayText.content = some doc → doc.isWhole = true := by
    intro doc hdoc
    rw [hparse] at hdoc
    cases hdoc
    decide
  have hmode : (initial.run strayRun).mode = .editingJson := rfl
  have hjson : ((initial.run strayRun).editor.active.bind fun e => e.session.json)
      = some strayText := rfl
  have hkind : ((initial.run strayRun).editor.active.map Editor.kind) = some .rest := rfl
  rcases Option.bind_eq_some_iff.1 hjson with ⟨⟨kind, session⟩, hactive, hbuffer⟩
  have hopen : (initial.run strayRun).DocumentOpen ⟨kind, session⟩ strayText :=
    ⟨hmode, hactive, hbuffer⟩
  obtain rfl : kind = .rest := by
    rw [hactive] at hkind
    exact Option.some.inj hkind
  have hdraft : session.draft = .raw strayText.content :=
    hopen.draft_eq ((consistent_run consistent_initial strayRun).session _ hactive)
  have hplan : Editor.savePlan ⟨.rest, session⟩ = .ok (.ofDocument session.openedId (.obj
      [("name", .str "a"), ("request", .obj [("method", .str "")]),
       ("response", .obj [("status", .ofNat 0)])])) := by
    simp only [Editor.savePlan, hdraft, checkDocument, hparse]
    rfl
  rcases formatJson_safe strayText hwhole with
    ⟨message, -, hnone, -⟩ | ⟨after, -, hformatted, -, hrun⟩
  · rw [hparse] at hnone
    cases hnone
  · rcases hrun strayRun _ hopen with ⟨hkey, hsame⟩
    exact ⟨_, after, _, hopen, hkey, hformatted, hplan, hsame _ hplan⟩

end Console

end StubConsole
