import StubConsole.Console.Keys

/-!
# Keys — what a key can lead to

Most keys are an action or a command and nothing else.  Here it is said once, for the places where
keys are many, which of the two they are.

* `Console.PaneAnswer`, `Console.paneAnswer_handleEditorKey` — keys for an open editor;
* `Console.PageAnswer`, `Console.pageAnswer_handleNormalKey` — keys for a page.
-/

namespace StubConsole

theorem StubKind.ofPage?_eq_some {page : Page} {kind : StubKind} :
    StubKind.ofPage? page = some kind ↔ page = kind.page := by
  cases page <;> cases kind <;> decide

/-- The actions that keys stand for while an editor is open. -/
def Action.ofEditor : Action → Bool
  | .closeEditor | .nextTab | .prevTab | .nextField | .prevField | .toggleJson | .scrollUp
  | .scrollDown => true
  | _ => false

namespace Console

/-! ## The open editor -/

/-- What a key can lead to while an editor is open and nothing is typed. -/
inductive PaneAnswer (s : Console) : KeyResult → Prop where
  | act (action : Action) (h : action.ofEditor = true) : PaneAnswer s (s.act action)
  | edit : PaneAnswer s (done s.startEditing)
  | save : PaneAnswer s (s.ask .saveEditor)
  | execute : PaneAnswer s (s.ask .executeEditor)
  | validate : PaneAnswer s (s.ask .validateWsdl)
  | copy (text : String) : PaneAnswer s (s.ask (.copy .response text))
  | none : PaneAnswer s (done s)

namespace PaneAnswer

variable {s : Console}

theorem ite {p : Prop} [Decidable p] {a b : KeyResult} (ha : PaneAnswer s a)
    (hb : PaneAnswer s b) : PaneAnswer s (if p then a else b) := by
  split
  · exact ha
  · exact hb

theorem copyResponse (s : Console) : PaneAnswer s s.copyResponse := by
  unfold Console.copyResponse
  split
  next text _ => exact .copy text
  next => exact .none

end PaneAnswer

theorem paneAnswer_handleEditorKey (s : Console) (key : Key) :
    PaneAnswer s (s.handleEditorKey key) := by
  rcases key with ⟨code, ctrl⟩
  cases code with
  | escape => exact .act .closeEditor rfl
  | tab => exact .act .nextTab rfl
  | right => exact .act .nextTab rfl
  | backTab => exact .act .prevTab rfl
  | left => exact .act .prevTab rfl
  | down => exact .act .nextField rfl
  | up => exact .act .prevField rfl
  | enter => exact .edit
  | char c =>
      -- the letters, in the order in which they are tried
      refine .ite .save (.ite (.act .scrollUp rfl) (.ite (.act .scrollDown rfl) ?_))
      refine .ite (.act .nextTab rfl) (.ite (.act .prevTab rfl) (.ite (.act .nextField rfl) ?_))
      refine .ite (.act .prevField rfl) (.ite (.act .toggleJson rfl) (.ite .execute ?_))
      exact .ite (.copyResponse s) (.ite .validate .none)
  | _ => exact .none

/-! ## Pages -/

/-- What a key can lead to on a page. -/
inductive PageAnswer (s : Console) (key : Key) : KeyResult → Prop where
  | act (action : Action) : PageAnswer s key (s.act action)
  | ask (command : Command) (h : ∀ kind id, command ≠ .delete kind id) :
      PageAnswer s key (s.ask command)
  | line : PageAnswer s key (done s.beginLineInput)
  | disarm : PageAnswer s key (done { s.modifyView ListView.disarm with notice := none })
  | press (kind : StubKind) (hcode : key.code = .char 'd') (hpage : s.page = kind.page) :
      PageAnswer s key (s.pressDelete kind)
  | quit : PageAnswer s key (done { s with quit := true })
  | none : PageAnswer s key (done s)

section Pages

variable (s : Console) (key : Key)

theorem pageAnswer_handleStubsKey {kind : StubKind} (hpage : s.page = kind.page) :
    PageAnswer s key (s.handleStubsKey kind key) := by
  unfold handleStubsKey
  split
  next => exact .act .openSelected
  next => exact .disarm
  next => exact .act .enterSearch
  next => exact .act .cycleMethod
  next => exact .act .openNew
  next => exact .act .openSelected
  next =>
    unfold copyStub
    split
    · exact .ask _ (fun _ _ => nofun)
    · exact .none
  next hcode => exact .press kind hcode hpage
  next => exact .none

theorem pageAnswer_handlePageKey : PageAnswer s key (s.handlePageKey key) := by
  unfold handlePageKey
  split
  -- an arrow and a letter for each direction
  next => exact .act .selectNext
  next => exact .act .selectNext
  next => exact .act .selectPrev
  next => exact .act .selectPrev
  next =>
    -- all other keys are for the page
    cases hpage : s.page with
    | dashboard => exact .none
    -- three pages share one handler, and only there a key can delete
    | stubs => exact @pageAnswer_handleStubsKey s key .rest hpage
    | graphQl => exact @pageAnswer_handleStubsKey s key .graphQl hpage
    | soap => exact @pageAnswer_handleStubsKey s key .soap hpage
    | scenarios =>
        simp only [handleScenariosKey]
        split
        · exact .act .openDialog
        · exact .act .openDialog
        · exact .ask .resetScenarios (fun _ _ => nofun)
        · exact .none
    | requests =>
        simp only [handleJournalKey]
        split
        · exact .act .toggleDetails
        · exact .act .enterSearch
        · exact .act .cycleMethod
        · exact .act .cycleStatus
        · exact .act .toggleOrder
        · exact .ask .clearJournal (fun _ _ => nofun)
        · exact .none
    | recording =>
        simp only [handleRecordingKey]
        split
        · exact .line
        · exact .line
        · exact .ask _ (fun _ _ => nofun)
        · exact .ask _ (fun _ _ => nofun)
        · exact .ask _ (fun _ _ => nofun)
        · exact .ask _ (fun _ _ => nofun)
        · exact .none
    | importExport =>
        simp only [handleTransferKey]
        split
        · exact .line
        · exact .line
        · exact .act .cycleFormat
        · exact .ask .importSpec (fun _ _ => nofun)
        · exact .ask .exportStubs (fun _ _ => nofun)
        · exact .none
    | settings =>
        simp only [handleSettingsKey]
        split
        · exact .line
        · exact .line
        · exact .ask .saveSettings (fun _ _ => nofun)
        · exact .none

theorem pageAnswer_handleNormalKey : PageAnswer s key (s.handleNormalKey key) := by
  unfold handleNormalKey
  split
  next => exact .act .nextPage
  next => exact .act .prevPage
  next =>
    split
    next => exact .quit
    next =>
      split
      next => exact .ask .refresh (fun _ _ => nofun)
      next =>
        split
        next page _ => exact .act (.goTo page)
        next => exact pageAnswer_handlePageKey s key
  next => exact pageAnswer_handlePageKey s key

end Pages

end Console

end StubConsole
