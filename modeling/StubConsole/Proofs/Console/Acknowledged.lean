import StubConsole.Proofs.Console.Quiet

/-!
# Acknowledged — collections change only when the server says so

The server owns the records.  What the console shows of them changes when an answer acknowledges a
change, in the one collection that the answer is about, and at no other time: not when a key is
pressed, not when a call starts, and not when it fails.

* `Cache.Placed` — a record in the place of the first one with its identifier, or at the end;
* `Console.items_after` — all other records stay as they are;
* `Console.items_acknowledged` — and what a success does to the ones it is about;
* `Console.items_run_brought` — so the records depend on nothing but these successes.
-/

namespace StubConsole

/-! ## The place of a saved record -/

namespace Cache

variable {α : Type} [Keyed α]

inductive Placed (item : α) : List α → List α → Prop where
  | instead {before after : List α} {old : α} :
      Keyed.key old = Keyed.key item → (∀ i ∈ before, Keyed.key i ≠ Keyed.key item) →
      Placed item (before ++ old :: after) (before ++ item :: after)
  | atEnd {items : List α} :
      (∀ i ∈ items, Keyed.key i ≠ Keyed.key item) → Placed item items (items ++ [item])

theorem Placed.cons {item first : α} {items placed : List α}
    (hfirst : Keyed.key first ≠ Keyed.key item) (h : Placed item items placed) :
    Placed item (first :: items) (first :: placed) := by
  cases h with
  | @instead before after old hold hbefore =>
      exact @instead _ _ item (first :: before) after old hold
        (List.forall_mem_cons.2 ⟨hfirst, hbefore⟩)
  | atEnd hnone => exact .atEnd (List.forall_mem_cons.2 ⟨hfirst, hnone⟩)

theorem Placed.mem {item : α} {items placed : List α} (h : Placed item items placed) :
    item ∈ placed := by
  cases h with
  | instead _ _ => exact List.mem_append_right _ List.mem_cons_self
  | atEnd _ => exact List.mem_append_right _ (List.mem_singleton_self item)

theorem placed_replaceFirst (item : α) (items : List α) :
    Placed item items (replaceFirst item items) := by
  induction items with
  | nil => exact .atEnd fun _ h => nomatch h
  | cons old rest ih =>
      unfold replaceFirst
      split
      next hsame => exact @Placed.instead _ _ item [] rest old hsame fun _ h => nomatch h
      next hother => exact ih.cons hother

end Cache

namespace Console

/-! ## Records that stay -/

section Frame

variable (s : Console) (c : Collection)

theorem items_startControl (action : RecordingAction) :
    (s.startControl action).1.items c = s.items c := by
  unfold startControl
  dsimp only
  split
  · rfl
  · split <;> rfl

theorem items_startImport : s.startImport.1.items c = s.items c := by
  unfold startImport
  dsimp only
  split
  · rfl
  · split <;> rfl

theorem items_startExport (dir : String) : (s.startExport dir).1.items c = s.items c := by
  unfold startExport
  split <;> rfl

theorem items_finish_transfer {t : Task} (h : t.isTransfer = true) (r : t.Outcome) :
    (s.finish t r).1.items c = s.items c := by
  cases t with
  | declineImport => rfl
  | readSpec path => cases r <;> rfl
  | sendSpec spec =>
      cases r with
      -- what was imported makes the stubs stale, and is fetched later
      | ok stubs => exact (Quiet.invalidate s (.stubs .rest)).items c
      | error cause => rfl
  | fetchExport dir => cases r <;> rfl
  | writeExport dir document =>
      cases r with
      | ok _ => rfl
      | error fault => cases fault <;> rfl
  | _ => cases h

theorem items_after_of_wires {step : ConsoleStep} (h : step.ofWires = true) :
    (s.after step).items c = s.items c := by
  cases ConsoleStep.ofWires_cases h with
  | control config action => exact items_startControl s c action
  | importSpec config => exact items_startImport s c
  | exportStubs config => exact items_startExport s c config.exportDir
  | polled r => cases r <;> rfl
  | controlled action target r => cases r <;> rfl
  | transfer ht r => exact items_finish_transfer s c ht r

variable {c}

/-- An answer that brings one collection leaves the others alone. -/
theorem items_after_of_other {step : ConsoleStep} {named : Collection}
    (hbrings : step.brings = some named) (h : named ≠ c) :
    (s.after step).items c = s.items c := by
  cases step with
  | finish t r =>
      cases t with
      | fetch other =>
          cases r with
          | ok items =>
              cases hbrings
              exact items_modifyCollection_of_ne s h _
          | error cause => cases hbrings
      | delete kind id =>
          cases r with
          | ok _ =>
              cases hbrings
              exact items_modifyCollection_of_ne s h _
          | error cause => cases hbrings
      | save plan =>
          cases r with
          | ok item =>
              cases hbrings
              exact items_modifyCollection_of_ne s h _
          | error cause => cases hbrings
      | clearJournal =>
          cases r with
          | ok _ =>
              cases hbrings
              exact items_modifyCollection_of_ne s h Cache.clear
          | error cause => cases hbrings
      | _ => cases r <;> cases hbrings
  | change other f =>
      cases hbrings
      exact items_modifyCollection_of_ne s h f
  | _ => cases hbrings

/-- Whatever happens, only the collection that an event brings can show other records. -/
theorem items_after {step : ConsoleStep} (h : step.brings ≠ some c) :
    (s.after step).items c = s.items c := by
  cases hwires : step.ofWires with
  | true => exact items_after_of_wires s c hwires
  | false =>
      cases hbrings : step.brings with
      | none => exact (quiet_after s hbrings hwires).items c
      | some named =>
          refine items_after_of_other s hbrings ?_
          intro heq
          exact h (hbrings.trans (congrArg some heq))

end Frame

/-! ## Records that change -/

section Successes

variable (s : Console)

theorem items_fetched (c : Collection) (items : List c.Item) :
    (s.finish (.fetch c) (.ok items)).1.items c = items :=
  congrArg Cache.items (collection_modifyCollection_self s (c := c) (·.replaceAll items))

theorem items_deleted (kind : StubKind) (id : String) :
    (s.finish (.delete kind id) (.ok ())).1.items (.stubs kind)
      = (s.items (.stubs kind)).filter fun (item : kind.Item) => Keyed.key item != id :=
  congrArg Cache.items (collection_modifyCollection_self s _)

theorem items_saved (plan : SavePlan) (item : plan.kind.Item) :
    (s.finish (.save plan) (.ok item)).1.items (.stubs plan.kind)
      = Cache.replaceFirst (α := plan.kind.Item) item (s.items (.stubs plan.kind)) :=
  congrArg Cache.items (collection_modifyCollection_self s _)

theorem items_cleared : (s.finish .clearJournal (.ok ())).1.items .requests = [] := rfl

end Successes

theorem items_acknowledged (s : Console) :
    (∀ action c, (s.apply action).items c = s.items c)
      ∧ (∀ step c, step.brings ≠ some c → (s.after step).items c = s.items c)
      ∧ (∀ c items, (s.finish (.fetch c) (.ok items)).1.items c = items)
      ∧ (∀ plan item, Cache.Placed (α := plan.kind.Item) item (s.items (.stubs plan.kind))
          ((s.finish (.save plan) (.ok item)).1.items (.stubs plan.kind)))
      ∧ (∀ kind id, (s.finish (.delete kind id) (.ok ())).1.items (.stubs kind)
          = (s.items (.stubs kind)).filter fun (item : kind.Item) => Keyed.key item != id)
      ∧ (s.finish .clearJournal (.ok ())).1.items .requests = [] := by
  refine ⟨fun action c => (Quiet.of_held (held_apply s action)).items c,
    fun step c => items_after s, items_fetched s, ?_, items_deleted s, items_cleared s⟩
  intro plan item
  rw [items_saved]
  exact Cache.placed_replaceFirst item _

def savedOnce : Console :=
  { initial with stubs := ⟨[{ Stub.fresh with id := "1" }], .stale, none⟩ }

/-- A stub that the server did not delete stays, one that it did goes. -/
theorem items_acknowledged_savedOnce :
    (savedOnce.after (.finish (.delete .rest "1") (.error (.server 500 "busy")))).items
        (.stubs .rest) = savedOnce.items (.stubs .rest)
      ∧ (savedOnce.finish (.delete .rest "1") (.ok ())).1.items (.stubs .rest) = [] := by
  rcases items_acknowledged savedOnce with ⟨-, hstay, -, -, hdeleted, -⟩
  refine ⟨hstay _ _ (by decide), ?_⟩
  rw [hdeleted]
  decide

/-! ## Runs -/

/-- What an acknowledged change makes of a collection depends on its records only. -/
theorem items_after_congr {s t : Console} {step : ConsoleStep} {c : Collection}
    (hbrings : step.brings = some c) (hgenuine : ∀ named f, step ≠ .change named f)
    (h : s.items c = t.items c) : (s.after step).items c = (t.after step).items c := by
  cases step with
  | finish task r =>
      cases task with
      | fetch named =>
          cases r with
          | ok items =>
              cases hbrings
              exact (items_fetched s c items).trans (items_fetched t c items).symm
          | error cause => cases hbrings
      | delete kind id =>
          cases r with
          | ok _ =>
              cases hbrings
              simp only [after]
              rw [items_deleted s kind id, items_deleted t kind id, h]
          | error cause => cases hbrings
      | save plan =>
          cases r with
          | ok item =>
              cases hbrings
              simp only [after]
              rw [items_saved s plan item, items_saved t plan item, h]
          | error cause => cases hbrings
      | clearJournal =>
          cases r with
          | ok _ =>
              cases hbrings
              rfl
          | error cause => cases hbrings
      | _ => cases r <;> cases hbrings
  | change named f => exact absurd rfl (hgenuine named f)
  | _ => cases hbrings

/-- Of everything that happened, the records of a collection remember the successes that brought
it, in their order. -/
theorem items_run_brought (s : Console) (c : Collection) {steps : List ConsoleStep}
    (hgenuine : ∀ step ∈ steps, ∀ named f, step ≠ .change named f) :
    (s.run steps).items c
      = (s.run (steps.filter fun step => step.brings = some c)).items c := by
  have hrun : ∀ t : Console, s.items c = t.items c → (s.run steps).items c
      = (t.run (steps.filter fun step => step.brings = some c)).items c := by
    induction steps generalizing s with
    | nil => exact fun _ h => h
    | cons step rest ih =>
        intro t h
        rcases List.forall_mem_cons.1 hgenuine with ⟨hstep, hrest⟩
        by_cases hbrings : step.brings = some c
        · have hboth := items_after_congr hbrings hstep h
          simpa [hbrings] using ih (s.after step) hrest (t.after step) hboth
        · have hsame := (items_after s hbrings).trans h
          simpa [hbrings] using ih (s.after step) hrest t hsame
  exact hrun s rfl

end Console

end StubConsole
