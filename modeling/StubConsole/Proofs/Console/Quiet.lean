import StubConsole.Proofs.Console.Holdings
import StubConsole.Proofs.Console.Steps

/-!
# Quiet — events that bring no news

The server owns the records, and calls to it are marked while they are open.  Of all events only
few are about either: the answers that acknowledge a change of records, the calls to the recorder
and the transfers, and the answers to those.

* `Console.items`, `Console.wires` — the records; the recorder with the marks for open calls;
* `ConsoleStep.brings` — the collection whose records an event may change;
* `ConsoleStep.ofWires` — the event is about the recorder or a transfer;
* `Console.Quiet`, `Console.quiet_after` — every other event leaves both as they are.
-/

namespace StubConsole

/-! ## What an event is about -/

namespace Task

/-- The collection whose records an answer may change.  A failure changes none. -/
def brings : (t : Task) → t.Outcome → Option Collection
  | .fetch c, .ok _ => some c
  | .delete kind _, .ok _ => some (.stubs kind)
  | .save plan, .ok _ => some (.stubs plan.kind)
  | .clearJournal, .ok _ => some .requests
  | _, _ => none

/-- The task starts or stops recording or playback. -/
def isControl : Task → Bool
  | .control _ _ => true
  | _ => false

/-- The task is a part of an import or of an export. -/
def isTransfer : Task → Bool
  | .declineImport | .readSpec _ | .sendSpec _ | .fetchExport _ | .writeExport _ _ => true
  | _ => false

/-- The answer to the task is about the recorder or a transfer. -/
def ofWires : Task → Bool
  | .pollRecorder => true
  | t => t.isControl || t.isTransfer

end Task

/-- The commands that ask for a call to the recorder or for a transfer. -/
def Command.ofWires : Command → Bool
  | .recording _ | .importSpec | .exportStubs => true
  | _ => false

namespace ConsoleStep

def brings : ConsoleStep → Option Collection
  | .finish t r => t.brings r
  | .change c _ => some c
  | _ => none

def ofWires : ConsoleStep → Bool
  | .begin _ command => command.ofWires
  | .finish t _ => t.ofWires
  | _ => false

/-- The events about the recorder and about transfers, one by one. -/
inductive OfWires : ConsoleStep → Prop where
  | control (config : Config) (action : RecordingAction) :
      OfWires (.begin config (.recording action))
  | importSpec (config : Config) : OfWires (.begin config .importSpec)
  | exportStubs (config : Config) : OfWires (.begin config .exportStubs)
  | polled (r : Except ApiError RecordingState) : OfWires (.finish .pollRecorder r)
  | controlled (action : RecordingAction) (target : String) (r : Except ApiError Unit) :
      OfWires (.finish (.control action target) r)
  | transfer {t : Task} (ht : t.isTransfer = true) (r : t.Outcome) : OfWires (.finish t r)

theorem ofWires_cases {step : ConsoleStep} (h : step.ofWires = true) : step.OfWires := by
  cases step with
  | begin config command =>
      cases command with
      | recording action => exact .control config action
      | importSpec => exact .importSpec config
      | exportStubs => exact .exportStubs config
      | _ => cases h
  | finish t r =>
      cases t with
      | pollRecorder => exact .polled r
      | control action target => exact .controlled action target r
      | declineImport => exact .transfer rfl r
      | readSpec path => exact .transfer rfl r
      | sendSpec spec => exact .transfer rfl r
      | fetchExport dir => exact .transfer rfl r
      | writeExport dir document => exact .transfer rfl r
      | _ => cases h
  | _ => cases h

end ConsoleStep

namespace Console

/-! ## Records and wires -/

/-- The records of a collection, as they are shown. -/
def items (s : Console) (c : Collection) : List c.Item := (s.collection c).items

/-- What is known of the recorder, and the marks for open calls. -/
structure Wires where
  state : RecordingState
  controlling : Bool
  transferring : Bool

def wires (s : Console) : Wires := ⟨s.recording.state, s.recording.busy, s.transfer.busy⟩

section Collections

variable (s : Console) {c : Collection}

theorem collection_modifyCollection_self (f : Cache c.Item → Cache c.Item) :
    (s.modifyCollection c f).collection c = f (s.collection c) := by
  cases c with
  | stubs kind => cases kind <;> rfl
  | _ => rfl

theorem collection_modifyCollection_of_ne {other : Collection} (h : c ≠ other)
    (f : Cache c.Item → Cache c.Item) :
    (s.modifyCollection c f).collection other = s.collection other := by
  cases c with
  | stubs kind =>
      cases other with
      | stubs kind' =>
          cases kind <;> cases kind' <;> first
            | rfl
            | exact absurd rfl h
      | _ => cases kind <;> rfl
  | scenarios =>
      cases other with
      | stubs kind => cases kind <;> rfl
      | scenarios => exact absurd rfl h
      | requests => rfl
  | requests =>
      cases other with
      | stubs kind => cases kind <;> rfl
      | scenarios => rfl
      | requests => exact absurd rfl h

theorem items_modifyCollection_of_ne {other : Collection} (h : c ≠ other)
    (f : Cache c.Item → Cache c.Item) :
    (s.modifyCollection c f).items other = s.items other :=
  congrArg Cache.items (collection_modifyCollection_of_ne s h f)

theorem wires_modifyCollection (c : Collection) (f : Cache c.Item → Cache c.Item) :
    (s.modifyCollection c f).wires = s.wires := by
  cases c with
  | stubs kind => cases kind <;> rfl
  | _ => rfl

end Collections

/-! ## Quiet events -/

/-- No record, no status and no mark is another one. -/
structure Quiet (s t : Console) : Prop where
  items : ∀ c, t.items c = s.items c
  wires : t.wires = s.wires

namespace Quiet

variable {s t u : Console}

theorem refl (s : Console) : Quiet s s := ⟨fun _ => rfl, rfl⟩

theorem trans (h : Quiet s t) (h' : Quiet t u) : Quiet s u where
  items := fun c => (h'.items c).trans (h.items c)
  wires := h'.wires.trans h.wires

theorem of_held (h : t.held = s.held) : Quiet s t where
  items := fun c => congrArg Cache.items (collection_of_held h c)
  wires := congrArg (fun held : Holdings =>
    Wires.mk held.recorder held.controlling held.transferring) h

theorem notify (h : Quiet s t) (notice : Notice) : Quiet s (t.notify notice) :=
  ⟨h.items, h.wires⟩

/-- A change of freshness or of the last error is no change of records. -/
theorem modifyCollection (s : Console) (c : Collection) (f : Cache c.Item → Cache c.Item)
    (hf : ∀ cache, (f cache).items = cache.items) : Quiet s (s.modifyCollection c f) where
  items := by
    intro other
    by_cases h : c = other
    · subst h
      exact (congrArg Cache.items (collection_modifyCollection_self s f)).trans (hf _)
    · exact items_modifyCollection_of_ne s h f
  wires := wires_modifyCollection s c f

theorem invalidate (s : Console) (c : Collection) :
    Quiet s (s.modifyCollection c Cache.invalidate) :=
  modifyCollection s c Cache.invalidate fun _ => rfl

theorem mutationFailed (s : Console) (c : Collection) (action : String) (cause : ApiError) :
    Quiet s (s.modifyCollection c (·.mutationFailed action cause)) :=
  modifyCollection s c (·.mutationFailed action cause) fun _ => rfl

/-! ### Starts -/

theorem startRefresh (s : Console) (page : Page) : Quiet s (s.startRefresh page).1 := by
  unfold Console.startRefresh
  split
  · exact modifyCollection s _ Cache.markLoading fun _ => rfl
  · split <;> exact ⟨fun _ => rfl, rfl⟩

theorem startEnsure (s : Console) : Quiet s s.startEnsure.1 := by
  unfold Console.startEnsure
  split
  · exact startRefresh s s.page
  · exact refl s

theorem startSave (s : Console) : Quiet s s.startSave.1 := by
  unfold Console.startSave
  split
  · exact refl s
  · split
    · exact refl s
    · split <;> exact ⟨fun _ => rfl, rfl⟩

theorem startWsdlCheck (s : Console) : Quiet s s.startWsdlCheck.1 := by
  unfold Console.startWsdlCheck
  split
  · exact refl s
  · split <;> exact ⟨fun _ => rfl, rfl⟩

theorem startTrial (s : Console) (base : String) : Quiet s (s.startTrial base).1 := by
  unfold Console.startTrial
  split
  · exact refl s
  · split
    next request _ => cases request <;> exact ⟨fun _ => rfl, rfl⟩
    · exact refl s

theorem begin (s : Console) (config : Config) {command : Command}
    (h : command.ofWires = false) : Quiet s (s.begin config command).1 := by
  cases command with
  | refresh => exact startRefresh s s.page
  | saveEditor => exact startSave s
  | executeEditor => exact startTrial s config.mockBase
  | validateWsdl => exact startWsdlCheck s
  | recording action => cases h
  | importSpec => cases h
  | exportStubs => cases h
  | _ => exact ⟨fun _ => rfl, rfl⟩

/-! ### Answers -/

theorem finish (s : Console) {t : Task} {r : t.Outcome} (hbrings : t.brings r = none)
    (hwires : t.ofWires = false) : Quiet s (s.finish t r).1 := by
  cases t with
  | fetch c =>
      cases r with
      | ok items => cases hbrings
      | error cause => exact modifyCollection s c (·.fetchFailed _) fun _ => rfl
  | delete kind id =>
      cases r with
      | ok _ => cases hbrings
      | error cause => exact mutationFailed s (.stubs kind) _ cause
  | save plan =>
      cases r with
      | ok item => cases hbrings
      | error cause => exact ⟨fun _ => rfl, rfl⟩
  | clearJournal =>
      cases r with
      | ok _ => cases hbrings
      | error cause => exact mutationFailed s .requests _ cause
  -- these mark the scenarios as stale or as failed, and nothing more
  | moveScenario id state =>
      cases r with
      | ok _ =>
          have hclosed : Quiet s s.closeDialog := ⟨fun _ => rfl, rfl⟩
          exact (hclosed.trans (invalidate _ .scenarios)).notify _
      | error cause => exact ⟨fun _ => rfl, rfl⟩
  | resetScenarios =>
      have hidle : Quiet s { s with scenarioPage.busy := false } := ⟨fun _ => rfl, rfl⟩
      cases r with
      | ok _ => exact (hidle.trans (invalidate _ .scenarios)).notify _
      | error cause => exact hidle.trans (mutationFailed _ .scenarios "reset scenarios" cause)
  | execute request => exact ⟨fun _ => rfl, rfl⟩
  | fetchDashboard => cases r <;> exact ⟨fun _ => rfl, rfl⟩
  | checkWsdl url => cases r <;> exact ⟨fun _ => rfl, rfl⟩
  | _ => cases hwires

theorem settingsStored (s : Console) (before : Config) (r : Except SettingsFault Config) :
    Quiet s (s.settingsStored before r) := by
  have hfold : ∀ (cs : List Collection) (t : Console),
      Quiet t (cs.foldl (fun s c => s.modifyCollection c Cache.invalidate) t) := by
    intro cs
    induction cs with
    | nil => exact refl
    | cons c rest ih =>
        intro t
        exact (invalidate t c).trans (ih _)
  cases r with
  | error cause => exact ⟨fun _ => rfl, rfl⟩
  | ok after =>
      -- what is forgotten is how fresh the records are
      have hforget : Quiet s (if after.apiBase = before.apiBase then s else s.forget) := by
        split
        · exact refl s
        · exact ⟨(hfold Collection.all s).items, (hfold Collection.all s).wires⟩
      exact ⟨hforget.items, hforget.wires⟩

theorem copyFinished (s : Console) (source : CopySource) (r : Except String Unit) :
    Quiet s (s.copyFinished source r) := by
  cases r <;> exact ⟨fun _ => rfl, rfl⟩

end Quiet

theorem quiet_after (s : Console) {step : ConsoleStep} (hbrings : step.brings = none)
    (hwires : step.ofWires = false) : Quiet s (s.after step) := by
  cases step with
  | press key => exact .of_held (held_handleKey s key)
  | begin config command => exact .begin s config hwires
  | refresh page => exact .startRefresh s page
  | ensure => exact .startEnsure s
  | finish t r => exact .finish s hbrings hwires
  | change c f => cases hbrings
  | clamp => exact .of_held (held_modifyCursor s _)
  | storeSettings before result => exact .settingsStored s before result
  | copied source result => exact .copyFinished s source result
  | copyFaded => exact ⟨fun _ => rfl, rfl⟩

/-- An answer that brings records has nothing to do with the recorder or a transfer. -/
theorem wires_after_of_brings (s : Console) {step : ConsoleStep} {c : Collection}
    (h : step.brings = some c) : (s.after step).wires = s.wires := by
  cases step with
  | finish t r =>
      cases t with
      | fetch c => cases r <;> exact wires_modifyCollection s c _
      | delete kind id => cases r <;> exact wires_modifyCollection s (.stubs kind) _
      | save plan =>
          cases r with
          | ok item => exact wires_modifyCollection s (.stubs plan.kind) _
          | error cause => rfl
      | clearJournal => cases r <;> rfl
      | _ => cases r <;> cases h
  | change c f => exact wires_modifyCollection s c f
  | _ => cases h

/-- Only the recorder, the transfers and their answers touch the wires. -/
theorem wires_after (s : Console) {step : ConsoleStep} (h : step.ofWires = false) :
    (s.after step).wires = s.wires := by
  cases hbrings : step.brings with
  | none => exact (quiet_after s hbrings h).wires
  | some c => exact wires_after_of_brings s hbrings

end Console

end StubConsole
