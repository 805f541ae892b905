import StubConsole.Proofs.Console.OneCall

/-!
# Fetches — how often a collection is fetched

The page that is shown asks again and again for what it lists, and a fetch is started if that is
stale.  A fetch uses this up, whatever its answer will be: the collection is stale again only when
the server has acknowledged a change of it, or when it was invalidated.

* `Console.outdates` — the events that leave a collection stale;
* `Console.fetches` — the events that fetch it: `Console.ensures` for a page that asks, and
  `Console.refreshes` for a user who does;
* `Console.stale_after`, `Console.of_fetches` — staleness through one event;
* `Console.ensured_add_stale_le` — and through a run, where it pays for every fetch of a page;
* `Console.ensured_fetches_le` — so pages fetch once, and once more for each time it was outdated.
-/

namespace StubConsole

/-! ## Events and collections -/

/-- The collection that a change makes stale as the server acknowledges it. -/
def Task.outdates : (t : Task) → t.Outcome → Option Collection
  | .delete kind _, .ok _ => some (.stubs kind)
  | .save plan, .ok _ => some (.stubs plan.kind)
  | .moveScenario _ _, .ok _ => some .scenarios
  | .resetScenarios, .ok _ => some .scenarios
  | .clearJournal, .ok _ => some .requests
  | .sendSpec _, .ok _ => some (.stubs .rest)
  | _, _ => none

namespace Console

def stale (s : Console) (c : Collection) : Bool := (s.collection c).needsFetch

/-- A change of the collection is acknowledged, or the collection is invalidated.  All are when the
settings name another server. -/
def outdates (c : Collection) (s : Console) : ConsoleStep → Bool
  | .finish t r => t.outdates r = some c
  | .storeSettings before (.ok after) => after.apiBase ≠ before.apiBase
  | .change named f => named = c && (f (s.collection named)).needsFetch
  | _ => false

def fetches (c : Collection) (s : Console) (step : ConsoleStep) : Bool :=
  s.started step = some (.fetch c)

/-- The page that is shown asks for what it lists, and the collection is fetched for it. -/
def ensures (c : Collection) (s : Console) : ConsoleStep → Bool
  | .ensure => s.startEnsure.2 = some (.fetch c)
  | _ => false

/-- The user asks for the collection, by a key or by the page that lists it. -/
def refreshes (c : Collection) (s : Console) : ConsoleStep → Bool
  | .refresh page => Collection.ofPage? page = some c
  | .begin _ .refresh => Collection.ofPage? s.page = some c
  | _ => false

/-! ## Staleness through one event -/

section Stale

variable {s : Console} {c : Collection}

theorem stale_of_held {t : Console} (h : t.held = s.held) : t.stale c = s.stale c :=
  congrArg Cache.needsFetch (collection_of_held h c)

/-- A collection that is stale after a change of one of them was so before, or is the one. -/
theorem stale_modifyCollection {named : Collection} {f : Cache named.Item → Cache named.Item}
    (h : (s.modifyCollection named f).stale c = true) :
    s.stale c = true ∨ named = c ∧ (f (s.collection named)).needsFetch = true := by
  by_cases hnamed : named = c
  · subst hnamed
    rw [stale, collection_modifyCollection_self] at h
    exact .inr ⟨rfl, h⟩
  · rw [stale, collection_modifyCollection_of_ne s hnamed] at h
    exact .inl h

/-- Fetches and failures make nothing stale. -/
theorem stale_of_modifyCollection {named : Collection} {f : Cache named.Item → Cache named.Item}
    (hf : ∀ cache, (f cache).needsFetch = true → cache.needsFetch = true)
    (h : (s.modifyCollection named f).stale c = true) : s.stale c = true := by
  rcases stale_modifyCollection h with hbefore | ⟨rfl, hafter⟩
  · exact hbefore
  · exact hf _ hafter

theorem needsFetch_of_fetchFailed {α : Type} {cache : Cache α} {message : String}
    (h : (cache.fetchFailed message).needsFetch = true) : cache.needsFetch = true := by
  -- a cache that waited for the fetch is fresh now, any other is as stale as it was
  by_cases hloading : cache.freshness = .loading
  · simp [Cache.fetchFailed, Cache.needsFetch, hloading] at h
  · simpa [Cache.fetchFailed, Cache.needsFetch, hloading] using h

theorem stale_mutationFailed (named : Collection) {action : String} {cause : ApiError}
    (h : (s.modifyCollection named (·.mutationFailed action cause)).stale c = true) :
    s.stale c = true :=
  stale_of_modifyCollection (f := (·.mutationFailed action cause)) (fun _ hcache => hcache) h

/-! ### Starts -/

theorem stale_startRefresh {page : Page} (h : (s.startRefresh page).1.stale c = true) :
    s.stale c = true := by
  unfold startRefresh at h
  split at h
  · exact stale_of_modifyCollection (f := Cache.markLoading) (fun _ => nofun) h
  · split at h <;> exact h

theorem stale_startEnsure (h : s.startEnsure.1.stale c = true) : s.stale c = true := by
  unfold startEnsure at h
  split at h
  · exact stale_startRefresh h
  · exact h

theorem stale_begin {config : Config} {command : Command}
    (h : (s.begin config command).1.stale c = true) : s.stale c = true := by
  rcases begin_cases s config command with rfl | ⟨id, state, rfl⟩ | hbegun
  · exact stale_startRefresh h
  · exact h
  · exact (congrArg Cache.needsFetch (hbegun.collection c)).symm.trans h

/-! ### Answers -/

theorem stale_finish {t : Task} {r : t.Outcome} (h : (s.finish t r).1.stale c = true) :
    s.stale c = true ∨ t.outdates r = some c := by
  -- an acknowledged change is of one collection, and the others are as stale as they were
  have hchange : ∀ (named : Collection) {f : Cache named.Item → Cache named.Item},
      (s.modifyCollection named f).stale c = true → s.stale c = true ∨ some named = some c := by
    intro named f hafter
    exact (stale_modifyCollection hafter).imp_right fun hnamed => congrArg some hnamed.1
  cases t with
  | fetch named =>
      cases r with
      | ok items =>
          exact .inl (stale_of_modifyCollection (f := (·.replaceAll items)) (fun _ => nofun) h)
      | error cause => exact .inl (stale_of_modifyCollection (fun _ => needsFetch_of_fetchFailed) h)
  | delete kind id =>
      cases r with
      | ok _ => exact hchange (.stubs kind) h
      | error cause => exact .inl (stale_mutationFailed (.stubs kind) h)
  | save plan =>
      cases r with
      | ok item => exact hchange (.stubs plan.kind) h
      | error cause => exact .inl h
  | moveScenario id state =>
      cases r with
      | ok _ => exact hchange .scenarios (f := Cache.invalidate) h
      | error cause => exact .inl h
  | resetScenarios =>
      cases r with
      | ok _ => exact hchange .scenarios (f := Cache.invalidate) h
      | error cause => exact .inl (stale_mutationFailed .scenarios h)
  | clearJournal =>
      cases r with
      | ok _ => exact hchange .requests (f := Cache.clear) h
      | error cause => exact .inl (stale_mutationFailed .requests h)
  | sendSpec spec =>
      cases r with
      | ok stubs => exact hchange (.stubs .rest) (f := Cache.invalidate) h
      | error cause => exact .inl h
  | writeExport dir document =>
      cases r with
      | ok _ => exact .inl h
      | error fault => cases fault <;> exact .inl h
  | declineImport => exact .inl h
  | execute request => exact .inl h
  | _ => cases r <;> exact .inl h

theorem stale_after {step : ConsoleStep} (h : (s.after step).stale c = true) :
    s.stale c = true ∨ s.outdates c step = true := by
  cases step with
  | press key => exact .inl ((stale_of_held (held_handleKey s key)).symm.trans h)
  | begin config command => exact .inl (stale_begin h)
  | refresh page => exact .inl (stale_startRefresh h)
  | ensure => exact .inl (stale_startEnsure h)
  | finish t r => exact (stale_finish h).imp_right decide_eq_true
  | change named f =>
      refine (stale_modifyCollection h).imp_right ?_
      rintro ⟨hnamed, hafter⟩
      simpa [outdates, hnamed] using hafter
  | clamp => exact .inl ((stale_of_held (held_modifyCursor s _)).symm.trans h)
  | storeSettings before result =>
      cases result with
      | error cause => exact .inl h
      | ok after =>
          -- only another server makes the console forget what is fresh
          by_cases hserver : after.apiBase = before.apiBase
          · simp only [Console.after, settingsStored, if_pos hserver] at h
            exact .inl h
          · exact .inr (decide_eq_true hserver)
  | copied source result => cases result <;> exact .inl h
  | copyFaded => exact .inl h

/-! ## Fetches -/

theorem of_startRefresh {page : Page} (h : (s.startRefresh page).2 = some (.fetch c)) :
    Collection.ofPage? page = some c ∧ (s.startRefresh page).1 = (s.startFetch c).1 := by
  unfold startRefresh at h ⊢
  split at h
  next named hpage =>
    cases h
    simp only [hpage, and_self]
  next => split at h <;> cases h

theorem of_startEnsure (h : s.startEnsure.2 = some (.fetch c)) :
    s.stale c = true ∧ s.startEnsure.1 = (s.startFetch c).1 := by
  unfold startEnsure at h ⊢
  split at h
  next hneeds =>
    rcases of_startRefresh h with ⟨hpage, hafter⟩
    rw [if_pos hneeds]
    rw [needsData, hpage] at hneeds
    exact ⟨hneeds, hafter⟩
  next => cases h

/-- Nothing but a page that asks, or a user who does, starts a fetch. -/
theorem of_fetches {step : ConsoleStep} (h : s.fetches c step = true) :
    s.after step = (s.startFetch c).1
      ∧ (s.ensures c step = true ∧ s.stale c = true ∨ s.refreshes c step = true) := by
  have hstarted : s.started step = some (.fetch c) := of_decide_eq_true h
  -- events of the recorder and of transfers start no fetch, so the step is none of them
  have hplain : step.ofWires = false := by
    refine Bool.eq_false_iff.2 ?_
    intro hwires
    cases ofWires_of_started hwires hstarted
  cases step with
  | begin config command =>
      cases heditor : command.ofEditor with
      | true => cases ofEditor_of_begin heditor hstarted
      | false =>
          cases command with
          | refresh =>
              rcases of_startRefresh hstarted with ⟨hpage, hafter⟩
              exact ⟨hafter, .inr (decide_eq_true hpage)⟩
          | saveEditor => cases heditor
          | executeEditor => cases heditor
          | validateWsdl => cases heditor
          | recording action => cases hplain
          | importSpec => cases hplain
          | exportStubs => cases hplain
          | _ => cases hstarted
  | refresh page =>
      rcases of_startRefresh hstarted with ⟨hpage, hafter⟩
      exact ⟨hafter, .inr (decide_eq_true hpage)⟩
  | ensure =>
      rcases of_startEnsure hstarted with ⟨hstale, hafter⟩
      exact ⟨hafter, .inl ⟨decide_eq_true hstarted, hstale⟩⟩
  | finish task r =>
      -- only answers about the recorder and about transfers start tasks that follow
      cases task <;> first
        | cases hstarted
        | cases hplain
  | _ => cases hstarted

theorem fetches_of_refreshes {step : ConsoleStep} (h : s.refreshes c step = true) :
    s.fetches c step = true := by
  have hrefresh : ∀ page, Collection.ofPage? page = some c →
      (s.startRefresh page).2 = some (.fetch c) := by
    intro page hpage
    simp only [startRefresh, hpage, startFetch]
  cases step with
  | begin config command =>
      cases command with
      | refresh => exact decide_eq_true (hrefresh s.page (of_decide_eq_true h))
      | _ => cases h
  | refresh page => exact decide_eq_true (hrefresh page (of_decide_eq_true h))
  | _ => cases h

theorem fetches_of_ensures {step : ConsoleStep} (h : s.ensures c step = true) :
    s.fetches c step = true := by
  cases step with
  | ensure => exact h
  | _ => cases h

/-- A fetch is for a page or for the user, and never for both. -/
theorem toNat_fetches (s : Console) (c : Collection) (step : ConsoleStep) :
    (s.fetches c step).toNat = (s.ensures c step).toNat + (s.refreshes c step).toNat := by
  cases hensures : s.ensures c step with
  | true =>
      have hother : s.refreshes c step = false := by
        cases step with
        | ensure => rfl
        | _ => cases hensures
      rw [fetches_of_ensures hensures, hother]
      rfl
  | false =>
      cases hrefreshes : s.refreshes c step with
      | true =>
          rw [fetches_of_refreshes hrefreshes]
          rfl
      | false =>
          have hnone : s.fetches c step = false := by
            refine Bool.eq_false_iff.2 ?_
            intro hfetches
            rcases (of_fetches hfetches).2 with ⟨hsome, -⟩ | hsome
            · exact Bool.false_ne_true (hensures.symm.trans hsome)
            · exact Bool.false_ne_true (hrefreshes.symm.trans hsome)
          rw [hnone]
          rfl

theorem stale_of_fetches {step : ConsoleStep} (h : s.fetches c step = true) :
    (s.after step).stale c = false := by
  rw [(of_fetches h).1, stale, startFetch, collection_modifyCollection_self]
  rfl

end Stale

/-! ## Runs -/

section Runs

variable (s : Console) (c : Collection)

/-- A fetch for a page uses up what was stale, and only what outdates the collection brings it
back. -/
theorem ensures_add_stale_le (step : ConsoleStep) :
    (s.ensures c step).toNat + ((s.after step).stale c).toNat
      ≤ (s.stale c).toNat + (s.outdates c step).toNat := by
  cases hensures : s.ensures c step with
  | true =>
      have hfetches : s.fetches c step = true := fetches_of_ensures hensures
      have hbefore : s.stale c = true := by
        rcases (of_fetches hfetches).2 with ⟨-, hstale⟩ | hrefreshes
        · exact hstale
        · cases step with
          | ensure => cases hrefreshes
          | _ => cases hensures
      rw [stale_of_fetches hfetches, hbefore]
      exact Nat.le_add_right 1 _
  | false =>
      cases hafter : (s.after step).stale c with
      | false => exact Nat.zero_le _
      | true =>
          rcases stale_after hafter with hbefore | houtdates
          · rw [hbefore]
            exact Nat.le_add_right 1 _
          · rw [houtdates]
            exact Nat.le_add_left 1 _

theorem ensured_add_stale_le (steps : List ConsoleStep) :
    s.tally (ensures c) steps + ((s.run steps).stale c).toNat
      ≤ (s.stale c).toNat + s.tally (outdates c) steps := by
  induction steps generalizing s with
  | nil => simp
  | cons step rest ih =>
      have hstep := ensures_add_stale_le s c step
      have hrest := ih (s.after step)
      simp only [tally_cons, run_cons]
      omega

theorem tally_fetches (steps : List ConsoleStep) :
    s.tally (fetches c) steps = s.tally (ensures c) steps + s.tally (refreshes c) steps := by
  induction steps generalizing s with
  | nil => rfl
  | cons step rest ih =>
      simp only [tally_cons, toNat_fetches, ih]
      omega

end Runs

/-- In any run, pages fetch a collection once, and once more for each time it was outdated; all
other fetches were asked for by the user.  So after a fetch, whatever answers it and the ones
before, the collection is not fetched again until it is outdated or the user asks for it. -/
theorem ensured_fetches_le (s : Console) (c : Collection) (steps : List ConsoleStep) :
    s.tally (ensures c) steps ≤ 1 + s.tally (outdates c) steps
      ∧ s.tally (fetches c) steps = s.tally (ensures c) steps + s.tally (refreshes c) steps
      ∧ ∀ before step after, steps = before ++ step :: after →
          (s.run before).fetches c step = true →
          let t := (s.run before).after step
          t.tally (outdates c) after = 0 → t.tally (refreshes c) after = 0 →
            t.tally (fetches c) after = 0 := by
  refine ⟨?_, tally_fetches s c steps, ?_⟩
  · -- what is stale at the start allows one fetch
    have hrun := ensured_add_stale_le s c steps
    have hstart : (s.stale c).toNat ≤ 1 := Bool.toNat_le _
    omega
  · -- right after a fetch nothing is stale, and so there is nothing to fetch for
    intro before step after _ hfetches t houtdates hrefreshes
    have hstart : t.stale c = false := stale_of_fetches hfetches
    have hrun := ensured_add_stale_le t c after
    rw [hstart, houtdates] at hrun
    have hensures : t.tally (ensures c) after = 0 := by
      simp only [Bool.toNat_false] at hrun
      omega
    rw [tally_fetches, hensures, hrefreshes]

/-- The list of REST stubs while the server fails every fetch, and deletes a stub in between. -/
def failingServer : List ConsoleStep :=
  [.press (.ofChar '2'), .ensure, .finish (.fetch (.stubs .rest)) (.error (.server 500 "down")),
    .ensure, .clamp, .ensure, .finish (.delete .rest "7") (.ok ()), .ensure,
    .finish (.fetch (.stubs .rest)) (.error (.server 500 "down")), .ensure]

/-- Five times the page asks, and twice there is a fetch. -/
theorem ensured_fetches_failingServer :
    let t := (initial.run [.press (.ofChar '2')]).after .ensure
    let quiet : List ConsoleStep :=
      [.finish (.fetch (.stubs .rest)) (.error (.server 500 "down")), .ensure, .clamp, .ensure]
    initial.tally (ensures (.stubs .rest)) failingServer = 2
      ∧ initial.tally (outdates (.stubs .rest)) failingServer = 1
      ∧ initial.tally (fetches (.stubs .rest)) failingServer = 2
      ∧ t.tally (fetches (.stubs .rest)) quiet = 0 := by
  intro t quiet
  have hensures : initial.tally (ensures (.stubs .rest)) failingServer = 2 := by decide +kernel
  have houtdates : initial.tally (outdates (.stubs .rest)) failingServer = 1 := by decide +kernel
  have hrefreshes : initial.tally (refreshes (.stubs .rest)) failingServer = 0 := by decide +kernel
  rcases ensured_fetches_le initial (.stubs .rest) failingServer with ⟨-, hall, -⟩
  refine ⟨hensures, houtdates, by rw [hall, hensures, hrefreshes], ?_⟩
  have hquiet := (ensured_fetches_le initial (.stubs .rest)
    (.press (.ofChar '2') :: .ensure :: quiet)).2.2 [.press (.ofChar '2')] .ensure quiet rfl
  exact hquiet (by decide +kernel) (by decide +kernel) (by decide +kernel)

end Console

end StubConsole
