import StubConsole.Proofs.Console.InFlight
import StubConsole.Proofs.Console.LateAnswers
import StubConsole.Proofs.Console.Quiet

/-!
# OneCall — one call to the recorder, one transfer

The recorder takes one transition at a time, and so does the page for imports and exports.  The
marks for both are set exactly while such a call is open, whatever keys, polls and answers come in
between, so that neither is ever called twice at once.

* `Console.ControlAnswer`, `Console.TransferAnswer` — what asking for a call can lead to;
* `Console.guards_controlling`, `Console.guards_transferring` — the marks count open tasks;
* `Console.lastKnown` — the status that the last poll told;
* `Console.one_call_at_a_time` — all of this in every genuine run.
-/

namespace StubConsole

namespace Console

/-! ## Asking for a call -/

/-- What asking for a call to the recorder can lead to. -/
inductive ControlAnswer (s : Console) (action : RecordingAction) : StartResult → Prop where
  | refused (t : Console) (hwires : t.wires = s.wires)
      (htarget : t.recording.targetUrl = s.recording.targetUrl) : ControlAnswer s action (t, none)
  | sent (hidle : s.recording.busy = false)
      (hallowed : action.allowed s.recording.state.status = true)
      (htarget : action = .startRecording →
        checkUrl (Text.trim s.recording.targetUrl) = .ok ()) :
      ControlAnswer s action
        ({ s with recording.busy := true },
          some (.control action (Text.trim s.recording.targetUrl)))

theorem controlAnswer_startControl (s : Console) (action : RecordingAction) :
    ControlAnswer s action (s.startControl action) := by
  unfold startControl
  dsimp only
  split
  · exact .refused _ rfl rfl
  next hfree =>
    simp only [Bool.or_eq_true, Bool.not_eq_true', not_or, Bool.not_eq_true,
      Bool.not_eq_false] at hfree
    split
    · exact .refused _ rfl rfl
    next hfault =>
      refine .sent hfree.1 hfree.2 ?_
      rintro rfl
      -- an address that passes has no fault
      rw [if_pos rfl] at hfault
      unfold targetFault? at hfault
      split at hfault
      next hcheck => exact hcheck
      next => cases hfault

/-- What asking for an import or an export can lead to. -/
inductive TransferAnswer (s : Console) : StartResult → Prop where
  | refused (t : Console) (hwires : t.wires = s.wires) : TransferAnswer s (t, none)
  | sent (t : Console) (task : Task) (hidle : s.transfer.busy = false)
      (hwires : t.wires = { s.wires with transferring := true })
      (htask : task.isTransfer = true) : TransferAnswer s (t, some task)

theorem transferAnswer_startImport (s : Console) : TransferAnswer s s.startImport := by
  unfold startImport
  dsimp only
  split
  · exact .refused s rfl
  next hidle =>
    split
    · exact .refused _ rfl
    · refine .sent _ _ (Bool.eq_false_iff.2 hidle) rfl ?_
      split <;> rfl

theorem transferAnswer_startExport (s : Console) (dir : String) :
    TransferAnswer s (s.startExport dir) := by
  unfold startExport
  split
  · exact .refused s rfl
  next hidle => exact .sent _ _ (Bool.eq_false_iff.2 hidle) rfl rfl

/-- What the answer to a part of a transfer can lead to. -/
inductive TransferStep (s : Console) : StartResult → Prop where
  | ended (t : Console) (hwires : t.wires = { s.wires with transferring := false }) :
      TransferStep s (t, none)
  | goesOn (task : Task) (htask : task.isTransfer = true) : TransferStep s (s, some task)

theorem transferStep_finish (s : Console) {t : Task} (ht : t.isTransfer = true) (r : t.Outcome) :
    TransferStep s (s.finish t r) := by
  cases t with
  | declineImport => exact .ended _ rfl
  | readSpec path =>
      cases r with
      | ok spec => exact .goesOn (.sendSpec spec) rfl
      | error detail => exact .ended _ rfl
  | sendSpec spec => cases r <;> exact .ended _ rfl
  | fetchExport dir =>
      cases r with
      | ok document => exact .goesOn (.writeExport dir document) rfl
      | error cause => exact .ended _ rfl
  | writeExport dir document =>
      cases r with
      | ok _ => exact .ended _ rfl
      | error fault => cases fault <;> exact .ended _ rfl
  | _ => cases ht

/-! ## Other tasks -/

section Started

variable {s : Console} {t : Task}

/-- The task is neither a call to the recorder nor a part of a transfer. -/
theorem plain_of_startRefresh {page : Page} (h : (s.startRefresh page).2 = some t) :
    t.isControl = false ∧ t.isTransfer = false := by
  unfold startRefresh at h
  split at h
  · cases h
    exact ⟨rfl, rfl⟩
  · split at h
    · cases h
      exact ⟨rfl, rfl⟩
    · cases h
      exact ⟨rfl, rfl⟩
    · cases h

theorem plain_of_begin {config : Config} {command : Command} (hcommand : command.ofWires = false)
    (h : (s.begin config command).2 = some t) : t.isControl = false ∧ t.isTransfer = false := by
  cases heditor : command.ofEditor with
  | true =>
      have ht : t.ofEditor = true := ofEditor_of_begin heditor h
      cases t <;> first
        | exact ⟨rfl, rfl⟩
        | cases ht
  | false =>
      cases command with
      | refresh => exact plain_of_startRefresh h
      | saveEditor => cases heditor
      | executeEditor => cases heditor
      | validateWsdl => cases heditor
      | recording action => cases hcommand
      | importSpec => cases hcommand
      | exportStubs => cases hcommand
      | saveSettings => cases h
      | copy source text => cases h
      | _ =>
          cases h
          exact ⟨rfl, rfl⟩

theorem plain_of_started {step : ConsoleStep} (hstep : step.ofWires = false)
    (h : s.started step = some t) : t.isControl = false ∧ t.isTransfer = false := by
  cases step with
  | begin config command => exact plain_of_begin hstep h
  | refresh page => exact plain_of_startRefresh h
  | ensure =>
      simp only [started, startEnsure] at h
      split at h
      · exact plain_of_startRefresh h
      · cases h
  | finish task r =>
      -- only answers about the recorder and about transfers start tasks that follow
      cases task <;> first
        | cases h
        | cases hstep
  | _ => cases h

theorem plain_of_answered {step : ConsoleStep} (hstep : step.ofWires = false)
    (h : step.answered? = some t) : t.isControl = false ∧ t.isTransfer = false := by
  cases step with
  | finish task r =>
      cases h
      cases t <;> first
        | exact ⟨rfl, rfl⟩
        | cases hstep
  | _ => cases h

end Started

/-! ## The marks -/

theorem isControl_of_isTransfer {t : Task} (h : t.isTransfer = true) : t.isControl = false := by
  cases t <;> first
    | rfl
    | cases h

section Marks

variable {s : Console}

/-- An event that is about neither changes neither mark. -/
theorem MarkStep.of_plain {mark : Console → Bool} {sort : Task → Bool} {step : ConsoleStep}
    (hmark : ∀ s t : Console, t.wires = s.wires → mark t = mark s)
    (hsort : ∀ t, t.isControl = false ∧ t.isTransfer = false → sort t = false)
    (hstep : step.ofWires = false) :
    MarkStep mark sort s step.answered? (s.after step, s.started step) :=
  .other (fun t ht => hsort t (plain_of_answered hstep ht))
    (fun t ht => hsort t (plain_of_started hstep ht)) (hmark _ _ (wires_after s hstep))

/-! ### Calls to the recorder -/

theorem ControlAnswer.controlling {action : RecordingAction} {r : StartResult}
    (h : ControlAnswer s action r) : MarkStep (·.recording.busy) Task.isControl s none r := by
  cases h with
  | refused t hwires _ =>
      exact .other (fun _ h => nomatch h) (fun _ h => nomatch h) (congrArg Wires.controlling hwires)
  | sent hidle _ _ => exact .begins (fun _ h => nomatch h) rfl rfl hidle rfl

theorem TransferAnswer.controlling {r : StartResult} (h : TransferAnswer s r) :
    MarkStep (·.recording.busy) Task.isControl s none r := by
  cases h with
  | refused t hwires =>
      exact .other (fun _ h => nomatch h) (fun _ h => nomatch h) (congrArg Wires.controlling hwires)
  | sent t task _ hwires htask =>
      refine .other (fun _ h => nomatch h) ?_ (congrArg Wires.controlling hwires)
      rintro u ⟨⟩
      exact isControl_of_isTransfer htask

theorem TransferStep.controlling {t : Task} (ht : t.isTransfer = true) {r : StartResult}
    (h : TransferStep s r) : MarkStep (·.recording.busy) Task.isControl s (some t) r := by
  have hanswered : ∀ u, some t = some u → u.isControl = false := by
    rintro u ⟨⟩
    exact isControl_of_isTransfer ht
  cases h with
  | ended t hwires =>
      exact .other hanswered (fun _ h => nomatch h) (congrArg Wires.controlling hwires)
  | goesOn task htask =>
      refine .other hanswered ?_ rfl
      rintro u ⟨⟩
      exact isControl_of_isTransfer htask

theorem guards_controlling : Guards (·.recording.busy) Task.isControl := by
  intro s step
  cases hwires : step.ofWires with
  | false =>
      exact .of_plain (fun s t h => congrArg Wires.controlling h) (fun t h => h.1) hwires
  | true =>
      cases ConsoleStep.ofWires_cases hwires with
      | control config action => exact (controlAnswer_startControl s action).controlling
      | importSpec config => exact (transferAnswer_startImport s).controlling
      | exportStubs config => exact (transferAnswer_startExport s config.exportDir).controlling
      | polled r => cases r <;> exact .other (by rintro t ⟨⟩; rfl) (fun _ h => nomatch h) rfl
      | controlled action target r =>
          -- the mark goes with the answer, whatever that is
          cases r with
          | ok _ => exact .ends rfl rfl (by rintro t ⟨⟩; rfl) rfl
          | error cause => exact .ends rfl rfl (fun _ h => nomatch h) rfl
      | transfer ht r => exact (transferStep_finish s ht r).controlling ht

/-! ### Transfers -/

theorem ControlAnswer.transferring {action : RecordingAction} {r : StartResult}
    (h : ControlAnswer s action r) : MarkStep (·.transfer.busy) Task.isTransfer s none r := by
  cases h with
  | refused t hwires _ =>
      exact .other (fun _ h => nomatch h) (fun _ h => nomatch h)
        (congrArg Wires.transferring hwires)
  | sent _ _ _ => exact .other (fun _ h => nomatch h) (by rintro u ⟨⟩; rfl) rfl

theorem TransferAnswer.transferring {r : StartResult} (h : TransferAnswer s r) :
    MarkStep (·.transfer.busy) Task.isTransfer s none r := by
  cases h with
  | refused t hwires =>
      exact .other (fun _ h => nomatch h) (fun _ h => nomatch h)
        (congrArg Wires.transferring hwires)
  | sent t task hidle hwires htask =>
      exact .begins (fun _ h => nomatch h) rfl htask hidle (congrArg Wires.transferring hwires)

theorem TransferStep.transferring {t : Task} (ht : t.isTransfer = true) {r : StartResult}
    (h : TransferStep s r) : MarkStep (·.transfer.busy) Task.isTransfer s (some t) r := by
  cases h with
  | ended t hwires =>
      exact .ends rfl ht (fun _ h => nomatch h) (congrArg Wires.transferring hwires)
  | goesOn task htask => exact .goesOn rfl ht rfl htask rfl

theorem guards_transferring : Guards (·.transfer.busy) Task.isTransfer := by
  intro s step
  cases hwires : step.ofWires with
  | false =>
      exact .of_plain (fun s t h => congrArg Wires.transferring h) (fun t h => h.2) hwires
  | true =>
      cases ConsoleStep.ofWires_cases hwires with
      | control config action => exact (controlAnswer_startControl s action).transferring
      | importSpec config => exact (transferAnswer_startImport s).transferring
      | exportStubs config => exact (transferAnswer_startExport s config.exportDir).transferring
      | polled r => cases r <;> exact .other (by rintro t ⟨⟩; rfl) (fun _ h => nomatch h) rfl
      | controlled action target r =>
          cases r with
          | ok _ => exact .other (by rintro t ⟨⟩; rfl) (by rintro t ⟨⟩; rfl) rfl
          | error cause => exact .other (by rintro t ⟨⟩; rfl) (fun _ h => nomatch h) rfl
      | transfer ht r => exact (transferStep_finish s ht r).transferring ht

end Marks

/-! ## The status known last -/

/-- What the recorder is known to do after a step, if it was known to do so before. -/
def told (known : RecordingState) : ConsoleStep → RecordingState
  | .finish .pollRecorder (.ok state) => state
  | _ => known

/-- The status that the last poll told, if any did. -/
def lastKnown (steps : List ConsoleStep) : RecordingState :=
  steps.foldl told .initial

theorem told_of_plain {step : ConsoleStep} (h : step.ofWires = false) (known : RecordingState) :
    told known step = known := by
  cases step with
  | finish t r =>
      cases t with
      | pollRecorder => cases h
      | _ => rfl
  | _ => rfl

theorem ControlAnswer.state {s : Console} {action : RecordingAction} {r : StartResult}
    (h : ControlAnswer s action r) : r.1.recording.state = s.recording.state := by
  cases h with
  | refused t hwires _ => exact congrArg Wires.state hwires
  | sent _ _ _ => rfl

theorem TransferAnswer.state {s : Console} {r : StartResult} (h : TransferAnswer s r) :
    r.1.recording.state = s.recording.state := by
  cases h with
  | refused t hwires => exact congrArg Wires.state hwires
  | sent t task _ hwires _ => exact congrArg Wires.state hwires

theorem TransferStep.state {s : Console} {r : StartResult} (h : TransferStep s r) :
    r.1.recording.state = s.recording.state := by
  cases h with
  | ended t hwires => exact congrArg Wires.state hwires
  | goesOn task _ => rfl

/-- Only a poll that succeeds tells a status. -/
theorem state_after (s : Console) (step : ConsoleStep) :
    (s.after step).recording.state = told s.recording.state step := by
  cases hwires : step.ofWires with
  | false =>
      rw [told_of_plain hwires]
      exact congrArg Wires.state (wires_after s hwires)
  | true =>
      cases ConsoleStep.ofWires_cases hwires with
      | control config action => exact (controlAnswer_startControl s action).state
      | importSpec config => exact (transferAnswer_startImport s).state
      | exportStubs config => exact (transferAnswer_startExport s config.exportDir).state
      | polled r => cases r <;> rfl
      | controlled action target r => cases r <;> rfl
      | @transfer t ht r =>
          have htold : told s.recording.state (.finish t r) = s.recording.state := by
            cases t <;> first
              | rfl
              | cases ht
          rw [htold]
          exact (transferStep_finish s ht r).state

theorem state_run (s : Console) (steps : List ConsoleStep) :
    (s.run steps).recording.state = steps.foldl told s.recording.state := by
  induction steps generalizing s with
  | nil => rfl
  | cons step rest ih =>
      rw [run_cons, ih, state_after]
      rfl

/-! ## Calls that are sent -/

theorem TransferAnswer.isTransfer {s : Console} {r : StartResult} (h : TransferAnswer s r) :
    ∀ t, r.2 = some t → t.isTransfer = true := by
  cases h with
  | refused _ _ => exact fun _ h => nomatch h
  | sent _ task _ _ htask =>
      rintro t ⟨⟩
      exact htask

theorem TransferStep.isTransfer {s : Console} {r : StartResult} (h : TransferStep s r) :
    ∀ t, r.2 = some t → t.isTransfer = true := by
  cases h with
  | ended _ _ => exact fun _ h => nomatch h
  | goesOn task htask =>
      rintro t ⟨⟩
      exact htask

/-- What an event about the recorder or about a transfer starts is about these again. -/
theorem ofWires_of_started {s : Console} {step : ConsoleStep} {t : Task}
    (hwires : step.ofWires = true) (h : s.started step = some t) : t.ofWires = true := by
  have htransfer : t.isTransfer = true → t.ofWires = true := by
    intro ht
    cases t <;> first
      | rfl
      | cases ht
  cases ConsoleStep.ofWires_cases hwires with
  | control config action =>
      have hanswer := controlAnswer_startControl s action
      have hsent : (s.startControl action).2 = some t := h
      generalize s.startControl action = result at hanswer hsent
      cases hanswer with
      | refused _ _ _ => cases hsent
      | sent _ _ _ =>
          cases hsent
          rfl
  | importSpec config => exact htransfer ((transferAnswer_startImport s).isTransfer _ h)
  | exportStubs config =>
      exact htransfer ((transferAnswer_startExport s config.exportDir).isTransfer _ h)
  | polled r => cases r <;> cases h
  | controlled action target r =>
      cases r with
      | ok _ =>
          cases h
          rfl
      | error cause => cases h
  | transfer ht r => exact htransfer ((transferStep_finish s ht r).isTransfer _ h)

/-- A call to the recorder that is started was asked for, and nothing spoke against it. -/
theorem allowed_of_started {s : Console} {step : ConsoleStep} {action : RecordingAction}
    {target : String} (h : s.started step = some (.control action target)) :
    action.allowed s.recording.state.status = true
      ∧ (action = .startRecording → checkUrl target = .ok ()) := by
  cases hwires : step.ofWires with
  | false => cases (plain_of_started hwires h).1
  | true =>
      cases ConsoleStep.ofWires_cases hwires with
      | control config asked =>
          have hresult := controlAnswer_startControl s asked
          have hsent : (s.startControl asked).2 = some (.control action target) := h
          generalize s.startControl asked = result at hresult hsent
          cases hresult with
          | refused t _ _ => cases hsent
          | sent hidle hallowed htarget =>
              cases hsent
              exact ⟨hallowed, htarget⟩
      | importSpec config => cases (transferAnswer_startImport s).isTransfer _ h
      | exportStubs config =>
          cases (transferAnswer_startExport s config.exportDir).isTransfer _ h
      | polled r => cases r <;> cases h
      | controlled asked address r => cases r <;> cases h
      | transfer ht r => cases (transferStep_finish s ht r).isTransfer _ h

/-- A call that is refused leaves what is known of the recorder, its target and its mark. -/
theorem ControlAnswer.refusal {s : Console} {action : RecordingAction} {r : StartResult}
    (h : ControlAnswer s action r) (hnone : r.2 = none) :
    r.1.recording.state = s.recording.state ∧ r.1.recording.targetUrl = s.recording.targetUrl
      ∧ r.1.recording.busy = s.recording.busy := by
  cases h with
  | refused t hwires htarget =>
      exact ⟨congrArg Wires.state hwires, htarget, congrArg Wires.controlling hwires⟩
  | sent _ _ _ => cases hnone

/-- Each mark is set exactly while one task of its sort is open, and there are never two. -/
theorem one_call_at_a_time {steps : List ConsoleStep} (hgenuine : initial.Genuine [] steps) :
    let s := initial.run steps
    let flight := initial.inFlight [] steps
    flight.countP Task.isControl = s.recording.busy.toNat
      ∧ flight.countP Task.isTransfer = s.transfer.busy.toNat
      ∧ (∀ step t, (∀ ended, step.answered? = some ended → ended ∈ flight) →
          s.started step = some t →
          (t.isControl = true → (unanswered flight step).countP Task.isControl = 0)
            ∧ (t.isTransfer = true → (unanswered flight step).countP Task.isTransfer = 0)
            ∧ ∀ action target, t = .control action target →
                action.allowed (lastKnown steps).status = true
                  ∧ (action = .startRecording → checkUrl target = .ok ()))
      ∧ ∀ config action, (s.begin config (.recording action)).2 = none →
          let after := (s.begin config (.recording action)).1
          after.recording.state = s.recording.state
            ∧ after.recording.targetUrl = s.recording.targetUrl
            ∧ after.recording.busy = s.recording.busy := by
  intro s flight
  have hcontrol : flight.countP Task.isControl = s.recording.busy.toNat :=
    guards_controlling.inFlight rfl hgenuine
  have htransfer : flight.countP Task.isTransfer = s.transfer.busy.toNat :=
    guards_transferring.inFlight rfl hgenuine
  refine ⟨hcontrol, htransfer, ?_, ?_⟩
  · intro step t hanswer hstarted
    refine ⟨guards_controlling.none_open_of_started hcontrol hanswer hstarted,
      guards_transferring.none_open_of_started htransfer hanswer hstarted, ?_⟩
    rintro action target rfl
    have hknown : s.recording.state = lastKnown steps := state_run initial steps
    rw [← hknown]
    exact allowed_of_started hstarted
  · intro config action hnone
    exact (controlAnswer_startControl s action).refusal hnone

/-- Playback is asked for twice, and an export once, while a poll brings news. -/
def playing : List ConsoleStep :=
  [.begin .default (.recording .startPlayback), .refresh .recording,
   .begin .default (.recording .startPlayback), .begin .default .exportStubs,
   .finish .pollRecorder (.ok ⟨.playing, none⟩)]

theorem one_call_at_a_time_playing :
    (initial.inFlight [] playing).countP Task.isControl = 1
      ∧ (initial.inFlight [] playing).countP Task.isTransfer = 1
      ∧ (initial.run playing).recording.state.status = .playing := by
  have hgenuine : initial.Genuine [] playing := by
    -- only the last step is an answer, to the task that the second one started
    refine ⟨nofun, nofun, nofun, nofun, ?_, trivial⟩
    rintro t ⟨⟩
    decide +kernel
  have hbusy : (initial.run playing).recording.busy = true := by decide +kernel
  have htransfer : (initial.run playing).transfer.busy = true := by decide +kernel
  rcases one_call_at_a_time hgenuine with ⟨hcontrols, htransfers, -, -⟩
  rw [hbusy] at hcontrols
  rw [htransfer] at htransfers
  exact ⟨hcontrols, htransfers, by decide +kernel⟩

end Console

end StubConsole
