import StubConsole.Cache

/-!
# Refetch — what a cache that needs no fetch has seen

Fetches and mutations run apart from each other, and their answers land on a cache in any order.
A *history* is a cache with what led to it; its moments are counted by the mutations that the
server has acknowledged, so that what happened after the last of them is what happened now.

* `Cache.Event` — what can happen to a cache, and `Cache.Mutation` what the server can acknowledge;
* `Cache.History` — the cache, the fetches under way, and the fetch that filled it last;
* `History.Overtaken`, `History.FailedSince` — the two ways in which a cache comes to rest without
  the answer of a fetch that was started after the last mutation;
* `History.Kept` — how the freshness of the cache is tied to its history;
* `current_iff_of_settled` — at rest and in no need of a fetch, these are the only two ways: an
  overtaken fetch hides the mutation, a failed one leaves it shown beside the error.
-/

namespace StubConsole

namespace Cache

variable {α : Type}

/-! ## Histories -/

/-- A change of the collection that the server has acknowledged. -/
inductive Mutation (α : Type) where
  | created (item : α)
  | updated (item : α)
  | removed (id : String)
  | cleared
  | invalidated

/-- A fetch is named by the moment it was started at. -/
inductive Event (α : Type) where
  | fetchStarted
  | fetchLanded (start : Nat) (items : List α)
  | fetchFailed (start : Nat) (message : String)
  | acknowledged (mutation : Mutation α)
  | refused (action : String) (cause : ApiError)

structure Fill (α : Type) where
  startedAt : Nat
  landedAt : Nat
  items : List α

structure History (α : Type) where
  cache : Cache α
  /-- How many mutations the server has acknowledged. -/
  now : Nat
  /-- When the fetches were started that have not landed or failed yet. -/
  underWay : List Nat
  /-- The last fetch that filled the cache. -/
  filled : Option (Fill α)
  /-- When the fetches were started that have failed. -/
  failures : List Nat
  /-- The collection as the last mutation left it. -/
  left : List α

namespace History

def initial : History α := ⟨.empty, 0, [], none, [], []⟩

/-- The fetch that filled the cache last was started after the last mutation. -/
def Current (h : History α) : Prop := ∃ fill ∈ h.filled, fill.startedAt = h.now

/-- A fetch has filled the cache after the last mutation. -/
def FilledSince (h : History α) : Prop := ∃ fill ∈ h.filled, fill.landedAt = h.now

/-- The last mutation was acknowledged while the fetch that filled the cache last was under way. -/
def Overtaken (h : History α) : Prop :=
  ∃ fill ∈ h.filled, fill.startedAt < fill.landedAt ∧ fill.landedAt = h.now

/-- A fetch that was started after the last mutation has failed, and none has filled the cache
since that mutation. -/
def FailedSince (h : History α) : Prop := h.now ∈ h.failures ∧ ¬ h.FilledSince

instance (h : History α) : Decidable h.Current :=
  inferInstanceAs (Decidable (∃ fill ∈ h.filled, _ = _))

instance (h : History α) : Decidable h.FilledSince :=
  inferInstanceAs (Decidable (∃ fill ∈ h.filled, _ = _))

instance (h : History α) : Decidable h.Overtaken :=
  inferInstanceAs (Decidable (∃ fill ∈ h.filled, _ ∧ _))

end History

variable [Keyed α]

def mutate (c : Cache α) : Mutation α → Cache α
  | .created item => c.created item
  | .updated item => c.updated item
  | .removed id => c.removed id
  | .cleared => c.clear
  | .invalidated => c.invalidate

theorem needsFetch_mutate (c : Cache α) (mutation : Mutation α) :
    (c.mutate mutation).needsFetch = true := by
  cases mutation <;> rfl

namespace History

def after (h : History α) : Event α → History α
  | .fetchStarted => { h with cache := h.cache.markLoading, underWay := h.now :: h.underWay }
  | .fetchLanded start items =>
      if start ∈ h.underWay then
        { h with
          cache := h.cache.replaceAll items
          underWay := h.underWay.erase start
          filled := some ⟨start, h.now, items⟩ }
      else h
  | .fetchFailed start message =>
      if start ∈ h.underWay then
        { h with
          cache := h.cache.fetchFailed message
          underWay := h.underWay.erase start
          failures := start :: h.failures }
      else h
  | .acknowledged mutation =>
      let changed := h.cache.mutate mutation
      { h with cache := changed, now := h.now + 1, left := changed.items }
  | .refused action cause => { h with cache := h.cache.mutationFailed action cause }

def run (h : History α) (events : List (Event α)) : History α := events.foldl after h

/-! ## The invariant -/

structure Kept (h : History α) : Prop where
  started : ∀ start ∈ h.underWay, start ≤ h.now
  filled : ∀ fill ∈ h.filled, fill.startedAt ≤ fill.landedAt ∧ fill.landedAt ≤ h.now
  /-- Only a fetch started after the last mutation makes the cache wait. -/
  loading : h.cache.freshness = .loading → h.now ∈ h.underWay
  fresh : h.cache.freshness = .fresh →
    h.FilledSince ∨ (h.now ∈ h.underWay ∨ h.now ∈ h.failures) ∧ h.cache.error.isSome
  brought : ∀ fill ∈ h.filled, fill.landedAt = h.now → h.cache.items = fill.items
  untouched : ¬ h.FilledSince → h.cache.items = h.left

omit [Keyed α] in
theorem kept_initial : (initial : History α).Kept where
  started := by simp [initial]
  filled := by simp [initial]
  loading := by simp [initial, Cache.empty]
  fresh := by simp [initial, Cache.empty]
  brought := by simp [initial]
  untouched := fun _ => rfl

namespace Kept

variable {h : History α}

theorem fetchStarted (kept : h.Kept) : (h.after .fetchStarted).Kept where
  started := by
    intro start mem
    rcases List.mem_cons.mp mem with rfl | mem
    · exact Nat.le_refl _
    · exact kept.started start mem
  filled := kept.filled
  loading := fun _ => List.mem_cons_self
  fresh := fun fresh => Freshness.noConfusion fresh
  brought := kept.brought
  untouched := kept.untouched

theorem fetchLanded (kept : h.Kept) (start : Nat) (items : List α) :
    (h.after (.fetchLanded start items)).Kept := by
  by_cases mem : start ∈ h.underWay
  · have since : (h.after (.fetchLanded start items)).FilledSince :=
      ⟨⟨start, h.now, items⟩, by simp [after, mem], by simp [after, mem]⟩
    refine ⟨?_, ?_, ?_, fun _ => .inl since, ?_, fun not => absurd since not⟩
    · simp only [after, if_pos mem]
      intro other erased
      exact kept.started other (List.mem_of_mem_erase erased)
    · simp only [after, if_pos mem]
      rintro fill ⟨⟩
      exact ⟨kept.started start mem, Nat.le_refl _⟩
    · simp [after, mem, replaceAll]
    · simp only [after, if_pos mem]
      rintro fill ⟨⟩ -
      rfl
  · simpa only [after, if_neg mem] using kept

/-- A fetch that was under way is still so, or it is the one that has failed. -/
theorem mem_erase_or_failed {start now : Nat} {underWay failures : List Nat}
    (mem : now ∈ underWay ∨ now ∈ failures) :
    now ∈ underWay.erase start ∨ now ∈ start :: failures := by
  by_cases same : now = start
  · exact .inr (same ▸ List.mem_cons_self)
  · rcases mem with mem | mem
    · exact .inl ((List.mem_erase_of_ne same).mpr mem)
    · exact .inr (List.mem_cons_of_mem _ mem)

theorem fetchFailed (kept : h.Kept) (start : Nat) (message : String) :
    (h.after (.fetchFailed start message)).Kept := by
  by_cases mem : start ∈ h.underWay
  · simp only [after, if_pos mem]
    refine ⟨?_, kept.filled, ?_, ?_, kept.brought, kept.untouched⟩
    · intro other erased
      exact kept.started other (List.mem_of_mem_erase erased)
    · intro loading
      by_cases waited : h.cache.freshness = .loading <;> simp_all [Cache.fetchFailed]
    · intro fresh
      -- the cache waited for a fetch of this moment, or it was fresh before
      by_cases waited : h.cache.freshness = .loading
      · have pending := kept.loading waited
        exact .inr ⟨mem_erase_or_failed (.inl pending), rfl⟩
      · have before : h.cache.freshness = .fresh := by
          simpa [Cache.fetchFailed, waited] using fresh
        rcases kept.fresh before with since | ⟨pending, -⟩
        · exact .inl since
        · exact .inr ⟨mem_erase_or_failed pending, rfl⟩
  · simpa only [after, if_neg mem] using kept

theorem acknowledged (kept : h.Kept) (mutation : Mutation α) :
    (h.after (.acknowledged mutation)).Kept := by
  have stale : (h.cache.mutate mutation).freshness = .stale := by
    simpa [needsFetch] using needsFetch_mutate h.cache mutation
  refine ⟨?_, ?_, ?_, ?_, ?_, fun _ => rfl⟩
  · intro start mem
    exact Nat.le_succ_of_le (kept.started start mem)
  · intro fill mem
    obtain ⟨started, landed⟩ := kept.filled fill mem
    exact ⟨started, Nat.le_succ_of_le landed⟩
  · intro loading
    exact Freshness.noConfusion (stale.symm.trans loading)
  · intro fresh
    exact Freshness.noConfusion (stale.symm.trans fresh)
  · intro fill mem landed
    have before : fill.landedAt ≤ h.now := (kept.filled fill mem).2
    exact absurd (landed ▸ before) (Nat.not_succ_le_self _)

theorem refused (kept : h.Kept) (action : String) (cause : ApiError) :
    (h.after (.refused action cause)).Kept where
  started := kept.started
  filled := kept.filled
  loading := kept.loading
  fresh := fun fresh => (kept.fresh fresh).imp_right fun ⟨pending, _⟩ => ⟨pending, rfl⟩
  brought := kept.brought
  untouched := kept.untouched

end Kept

theorem kept_after {h : History α} (kept : h.Kept) (event : Event α) : (h.after event).Kept := by
  cases event with
  | fetchStarted => exact kept.fetchStarted
  | fetchLanded start items => exact kept.fetchLanded start items
  | fetchFailed start message => exact kept.fetchFailed start message
  | acknowledged mutation => exact kept.acknowledged mutation
  | refused action cause => exact kept.refused action cause

theorem kept_run (events : List (Event α)) : (initial.run events).Kept := by
  have step (h : History α) (kept : h.Kept) : (h.run events).Kept := by
    induction events generalizing h with
    | nil => exact kept
    | cons event events ih => exact ih _ (kept_after kept event)
  exact step initial kept_initial

/-! ## A settled cache -/

namespace Kept

variable {h : History α}

omit [Keyed α] in
/-- A fetch that was started after the last mutation has landed after it too. -/
theorem current_iff (kept : h.Kept) : h.Current ↔ h.FilledSince ∧ ¬ h.Overtaken := by
  constructor
  · rintro ⟨fill, mem, started⟩
    obtain ⟨before, landed⟩ := kept.filled fill mem
    refine ⟨⟨fill, mem, Nat.le_antisymm landed (started ▸ before)⟩, ?_⟩
    rintro ⟨other, same, late, -⟩
    cases Option.some.inj (mem.symm.trans same)
    exact absurd (started ▸ late) (Nat.not_lt_of_le landed)
  · rintro ⟨⟨fill, mem, landed⟩, punctual⟩
    have before : fill.startedAt ≤ fill.landedAt := (kept.filled fill mem).1
    have notLate : ¬ fill.startedAt < fill.landedAt := fun late =>
      punctual ⟨fill, mem, late, landed⟩
    exact ⟨fill, mem, (Nat.le_antisymm before (Nat.le_of_not_lt notLate)).trans landed⟩

omit [Keyed α] in
/-- At rest, a cache in no need of a fetch was filled after the last mutation, or a fetch that was
started after it has failed. -/
theorem filled_or_failed (kept : h.Kept) (settled : h.cache.needsFetch = false)
    (rest : h.underWay = []) :
    h.FilledSince ∨ h.now ∈ h.failures ∧ h.cache.error.isSome := by
  have fresh : h.cache.freshness = .fresh := by
    cases freshness : h.cache.freshness with
    | stale => simp [needsFetch, freshness] at settled
    | loading => simpa [rest] using kept.loading freshness
    | fresh => rfl
  rcases kept.fresh fresh with since | ⟨pending, error⟩
  · exact .inl since
  · exact .inr ⟨by simpa [rest] using pending, error⟩

/-- Whatever is acknowledged while a fetch is under way is hidden once that fetch lands, and the
cache is not fetched again. -/
theorem overtaken (kept : h.Kept) {start : Nat} (mem : start ∈ h.underWay) (mutation : Mutation α)
    (items : List α) :
    let late := (h.after (.acknowledged mutation)).after (.fetchLanded start items)
    late.cache.needsFetch = false ∧ late.Overtaken ∧ late.cache.items = items := by
  intro late
  have before : start < h.now + 1 := Nat.lt_succ_of_le (kept.started start mem)
  have landed : late = { h with
      cache := (h.cache.mutate mutation).replaceAll items
      now := h.now + 1
      underWay := h.underWay.erase start
      filled := some ⟨start, h.now + 1, items⟩
      left := (h.cache.mutate mutation).items } := if_pos mem
  rw [landed]
  exact ⟨rfl, ⟨_, rfl, before, rfl⟩, rfl⟩

end Kept

/-- A cache at rest that needs no fetch was filled by a fetch from after the last mutation, except
in two cases.  If that mutation has overtaken the fetch, the cache shows what the fetch brought,
whatever the mutation was.  If a fetch from after the mutation has failed, the cache says so, and
still shows what the mutation left. -/
theorem current_iff_of_settled (events : List (Event α)) :
    let h := initial.run events
    (∀ start ∈ h.underWay, ∀ mutation items,
      let late := (h.after (.acknowledged mutation)).after (.fetchLanded start items)
      late.cache.needsFetch = false ∧ late.Overtaken ∧ late.cache.items = items) ∧
    (h.cache.needsFetch = false → h.underWay = [] →
      (h.Current ↔ ¬ h.Overtaken ∧ ¬ h.FailedSince) ∧
      (∀ fill ∈ h.filled, fill.landedAt = h.now → h.cache.items = fill.items) ∧
      (h.FailedSince → h.cache.error.isSome ∧ h.cache.items = h.left)) := by
  intro h
  have kept : h.Kept := kept_run events
  refine ⟨fun start mem => kept.overtaken mem, ?_⟩
  intro settled rest
  have cause := kept.filled_or_failed settled rest
  refine ⟨?_, kept.brought, ?_⟩
  · rw [kept.current_iff, and_comm]
    refine and_congr_right fun _ => ?_
    constructor
    · exact fun since failed => failed.2 since
    · intro notFailed
      rcases cause with since | ⟨failed, -⟩
      · exact since
      · exact Decidable.byContradiction fun notSince => notFailed ⟨failed, notSince⟩
  · intro failed
    exact ⟨(cause.resolve_left failed.2).2, kept.untouched failed.2⟩

def closedDoor : Scenario := ⟨"door", "door", "Closed", ["Closed", "Open"]⟩

def openDoor : Scenario := { closedDoor with state := "Open" }

theorem current_after_reload :
    let h := initial.run [.fetchStarted, .fetchLanded 0 [closedDoor],
      .acknowledged (.updated openDoor), .fetchStarted, .fetchLanded 1 [openDoor]]
    (h.cache.needsFetch = false ∧ h.underWay = []) ∧
      (h.Current ↔ ¬ h.Overtaken ∧ ¬ h.FailedSince) := by
  refine ⟨by decide, ?_⟩
  exact ((current_iff_of_settled _).2 (by decide) (by decide)).1

/-- The door that the server has opened stays closed on the screen: the list that was asked for
before lands after the answer, and no fetch is due. -/
theorem closed_after_opened :
    let h := initial.run [.fetchStarted, .fetchLanded 0 [closedDoor], .fetchStarted,
      .acknowledged (.updated openDoor), .fetchLanded 0 [closedDoor]]
    h.left = [openDoor] ∧ h.cache.needsFetch = false ∧ h.underWay = [] ∧ ¬ h.Current ∧
      h.cache.items = [closedDoor] := by
  decide

end History

end Cache

end StubConsole
