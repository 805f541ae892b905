import StubConsole.Proofs.TextBuffer.Offsets

/-!
# Editing — a buffer through any sequence of keys

Keys and new contents act on a buffer as they act on the two texts that it holds: after the same
steps the buffer holds the same two texts, and no others.  Since the cursor is the end of the first
text, it never leaves the boundaries of characters.

* `TextBuffer.Edit`, `TextBuffer.run` — what can happen to a buffer;
* `Halves.Step`, `Halves.Run` — what then happens to the two texts;
* `TextBuffer.edits_refine` — the two go in step, and no key fails.
-/

namespace StubConsole

namespace TextBuffer

inductive Edit where
  | key (key : Key)
  | setContent (text : String)
  deriving DecidableEq

def edit (b : TextBuffer) : Edit → TextBuffer
  | .key key => (b.handleKey key).1
  | .setContent text => b.setContent text

def run (b : TextBuffer) (edits : List Edit) : TextBuffer := edits.foldl edit b

def opened (multiline : Bool) (content : String) : TextBuffer :=
  if multiline then multiLine content else singleLine content

end TextBuffer

namespace Halves

open TextBuffer (Edit)

/-- What an edit does to the two texts.  A key that does nothing leaves them alone, and a new
content stands before the cursor. -/
inductive Step (multiline : Bool) : Edit → Halves → Halves → Prop where
  | pressed {key : Key} {h h' : Halves} (hpress : h.Press multiline key h') :
      Step multiline (.key key) h h'
  | ignored {key : Key} {h : Halves} (hnone : ∀ h', ¬ h.Press multiline key h') :
      Step multiline (.key key) h h
  | replaced (text : String) (h : Halves) : Step multiline (.setContent text) h ⟨text.toList, []⟩

inductive Run (multiline : Bool) : List Edit → Halves → Halves → Prop where
  | nil (h : Halves) : Run multiline [] h h
  | cons {e : Edit} {edits : List Edit} {h h' h'' : Halves} (hstep : Step multiline e h h')
      (hrun : Run multiline edits h' h'') : Run multiline (e :: edits) h h''

/-- The texts that a buffer is opened with: a single line has no line feeds. -/
def start (multiline : Bool) (content : String) : Halves :=
  ⟨if multiline then content.toList else content.toList.map fun c => if c = '\n' then ' ' else c,
    []⟩

end Halves

namespace TextBuffer

variable {b : TextBuffer} {h h' : Halves}

theorem shows_opened (multiline : Bool) (content : String) :
    (opened multiline content).Shows (.start multiline content)
      ∧ (opened multiline content).multiline = multiline := by
  cases multiline with
  | true => exact ⟨Shows.ofContent content true, rfl⟩
  | false =>
      have hspaces := Shows.ofContent (Text.replaceChar '\n' ' ' content) false
      rw [Text.replaceChar, String.toList_ofList] at hspaces
      exact ⟨hspaces, rfl⟩

/-! ## Keys -/

theorem handleKey_of_press {key : Key} (hb : b.Shows h) (hpress : h.Press b.multiline key h') :
    (b.handleKey key).2 = true ∧ (b.handleKey key).1.Shows h'
      ∧ (b.handleKey key).1.multiline = b.multiline := by
  rcases pressKey?_of_press hb hpress with ⟨after, hafter, hshows, hmulti⟩
  rw [handleKey_eq_told, hafter]
  exact ⟨rfl, hshows, hmulti⟩

theorem handleKey_of_ignored {key : Key} (hb : b.Shows h)
    (hnone : ∀ h', ¬ h.Press b.multiline key h') : b.handleKey key = (b, false) := by
  rw [handleKey_eq_told]
  cases hafter : b.pressKey? key with
  | none => rfl
  | some after =>
      rcases exists_press hb hafter with ⟨h', hpress⟩
      exact absurd hpress (hnone h')

/-! ## Steps and runs -/

theorem shows_edit_of_step {e : Edit} (hb : b.Shows h) (hstep : h.Step b.multiline e h') :
    (b.edit e).Shows h' ∧ (b.edit e).multiline = b.multiline := by
  cases hstep with
  | pressed hpress => exact (handleKey_of_press hb hpress).2
  | ignored hnone =>
      rw [edit, handleKey_of_ignored hb hnone]
      exact ⟨hb, rfl⟩
  | replaced text => exact ⟨Shows.setContent b text, rfl⟩

theorem exists_step (h : Halves) (multiline : Bool) (e : Edit) : ∃ h', h.Step multiline e h' := by
  cases e with
  | key key =>
      by_cases hpress : ∃ h', h.Press multiline key h'
      · rcases hpress with ⟨h', hpress⟩
        exact ⟨h', .pressed hpress⟩
      · exact ⟨h, .ignored (not_exists.1 hpress)⟩
  | setContent text => exact ⟨_, .replaced text h⟩

theorem exists_run (h : Halves) (multiline : Bool) (edits : List Edit) :
    ∃ h', h.Run multiline edits h' := by
  induction edits generalizing h with
  | nil => exact ⟨h, .nil h⟩
  | cons e edits ih =>
      rcases exists_step h multiline e with ⟨h', hstep⟩
      rcases ih h' with ⟨h'', hrun⟩
      exact ⟨h'', .cons hstep hrun⟩

/-- A buffer holds what its texts have become. -/
theorem shows_run {edits : List Edit} (hb : b.Shows h) (hrun : h.Run b.multiline edits h') :
    (b.run edits).Shows h' ∧ (b.run edits).multiline = b.multiline := by
  induction edits generalizing b h with
  | nil =>
      cases hrun
      exact ⟨hb, rfl⟩
  | cons e edits ih =>
      cases hrun with
      | cons hstep hrun =>
          have hedit := shows_edit_of_step hb hstep
          have hlast := ih hedit.1 (hedit.2.symm ▸ hrun)
          exact ⟨hlast.1, hlast.2.trans hedit.2⟩

/-- A buffer edited by any keys and new contents holds exactly the two texts that the same edits
lead to.  The next key does not fail by offsets; it is told to do something if it does something to
the texts, and otherwise leaves the whole buffer alone. -/
theorem edits_refine (multiline : Bool) (content : String) (edits : List Edit) :
    let b := (opened multiline content).run edits
    ∃ h, (∀ h', (Halves.start multiline content).Run multiline edits h' ↔ h' = h) ∧ b.Shows h ∧
      ∀ key,
        ByOffset.press? b key = some (b.handleKey key) ∧
        ((b.handleKey key).2 = true →
          ∃ h', h.Press multiline key h' ∧ (b.handleKey key).1.Shows h') ∧
        ((b.handleKey key).2 = false →
          (∀ h', ¬ h.Press multiline key h') ∧ (b.handleKey key).1 = b) := by
  intro b
  rcases shows_opened multiline content with ⟨hopened, hmulti⟩
  rcases exists_run (.start multiline content) multiline edits with ⟨h, hrun⟩
  have hshown : ∀ h', (Halves.start multiline content).Run multiline edits h' →
      b.Shows h' ∧ b.multiline = multiline := by
    intro h' hrun'
    have hlast : b.Shows h' ∧ b.multiline = (opened multiline content).multiline :=
      shows_run hopened (by rwa [hmulti])
    exact ⟨hlast.1, hlast.2.trans hmulti⟩
  rcases hshown h hrun with ⟨hb, hsame⟩
  have hunique : ∀ h', (Halves.start multiline content).Run multiline edits h' ↔ h' = h :=
    fun h' => ⟨fun hrun' => (hshown h' hrun').1.unique hb, fun heq => heq ▸ hrun⟩
  refine ⟨h, hunique, hb, fun key => ⟨hb.press?_eq key, ?_⟩⟩
  rw [← hsame]
  by_cases hpress : ∃ h', h.Press b.multiline key h'
  · rcases hpress with ⟨h', hpress⟩
    have hkey := handleKey_of_press hb hpress
    exact ⟨fun _ => ⟨h', hpress, hkey.2.1⟩, fun hfalse => by simp [hkey.1] at hfalse⟩
  · have hkey := handleKey_of_ignored hb (not_exists.1 hpress)
    rw [hkey]
    exact ⟨fun htrue => (nomatch htrue), fun _ => ⟨not_exists.1 hpress, rfl⟩⟩

end TextBuffer

end StubConsole
