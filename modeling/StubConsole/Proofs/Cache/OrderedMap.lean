import Mathlib.Data.List.Nodup
import Mathlib.Logic.Function.Basic
import StubConsole.Cache

/-!
# OrderedMap — a cache as an ordered map

The records of a cache stand in a list that is searched from its front.  What is looked up and
what stands in the list agree as long as no two records have one identifier, and every operation
on a cache keeps that so.

* `Cache.Rows` — an ordered map: the identifiers in their order, and the record under each;
* `Cache.Operation` — what can happen to a cache, with what it does to its map;
* `rows_apply`, `distinct_apply` — one operation on a cache with distinct identifiers;
* `ordered_map_after_run` — any number of them, and when the cache is fetched again.
-/

namespace StubConsole

namespace Cache

variable {α : Type}

/-! ## Ordered maps -/

@[ext] structure Rows (α : Type) where
  ids : List String
  find : String → Option α

def Rows.none : Rows α := ⟨[], fun _ => .none⟩

section Maps

variable [Keyed α]

/-- A record takes the place of the one with its identifier; without such a one it comes last. -/
def Rows.put (rows : Rows α) (item : α) : Rows α where
  ids := if Keyed.key item ∈ rows.ids then rows.ids else rows.ids ++ [Keyed.key item]
  find := Function.update rows.find (Keyed.key item) (some item)

def Rows.drop (rows : Rows α) (id : String) : Rows α where
  ids := rows.ids.erase id
  find := Function.update rows.find id .none

def Rows.ofItems (items : List α) : Rows α := items.foldl Rows.put .none

def ids (c : Cache α) : List String := c.items.map Keyed.key

def Distinct (c : Cache α) : Prop := c.ids.Nodup

instance (c : Cache α) : Decidable c.Distinct :=
  inferInstanceAs (Decidable c.ids.Nodup)

/-- The map that look-ups in a cache make of it. -/
def rows (c : Cache α) : Rows α := ⟨c.ids, c.get?⟩

/-- With distinct identifiers it does not matter where in the list a record stands. -/
theorem find?_eq_some_iff {items : List α} (distinct : (items.map Keyed.key).Nodup) {id : String}
    {item : α} :
    items.find? (fun other => Keyed.key other == id) = some item ↔
      item ∈ items ∧ Keyed.key item = id := by
  constructor
  · intro found
    exact ⟨List.mem_of_find?_eq_some found, by simpa using List.find?_some found⟩
  · rintro ⟨mem, rfl⟩
    have found : (items.find? fun other => Keyed.key other == Keyed.key item).isSome = true :=
      List.find?_isSome.2 ⟨item, mem, beq_self_eq_true _⟩
    rcases Option.isSome_iff_exists.1 found with ⟨other, hother⟩
    have key : Keyed.key other = Keyed.key item := by simpa using List.find?_some hother
    have same := List.inj_on_of_nodup_map distinct (List.mem_of_find?_eq_some hother) mem key
    rw [hother, same]

theorem get?_of_distinct {c : Cache α} (distinct : c.Distinct) {item : α}
    (mem : item ∈ c.items) : c.get? (Keyed.key item) = some item :=
  (find?_eq_some_iff distinct).2 ⟨mem, rfl⟩

theorem map_get?_ids {c : Cache α} (distinct : c.Distinct) :
    c.ids.map c.get? = c.items.map some := by
  rw [ids, List.map_map]
  exact List.map_congr_left fun item mem => get?_of_distinct distinct mem

/-! ## One record -/

/-- An item in the place of the first one with its identifier is found under it, and under no
other identifier. -/
theorem find?_replaceFirst (item : α) (items : List α) (id : String) :
    (replaceFirst item items).find? (fun other => Keyed.key other == id) =
      if id = Keyed.key item then some item
      else items.find? fun other => Keyed.key other == id := by
  induction items with
  | nil =>
      by_cases same : id = Keyed.key item
      · simp [replaceFirst, same]
      · simp [replaceFirst, same, Ne.symm same]
  | cons old rest ih =>
      unfold replaceFirst
      by_cases replaced : Keyed.key old = Keyed.key item
      · -- both stand under the identifier of `item`
        by_cases same : id = Keyed.key item
        · simp [replaced, same]
        · simp [replaced, same, Ne.symm same]
      · by_cases here : Keyed.key old = id
        · have other : id ≠ Keyed.key item := here ▸ replaced
          simp [here, other]
        · simp [replaced, here, ih]

theorem get?_updated (c : Cache α) (item : α) (id : String) :
    (c.updated item).get? id = if id = Keyed.key item then some item else c.get? id :=
  find?_replaceFirst item c.items id

theorem map_key_replaceFirst (item : α) (items : List α) :
    (replaceFirst item items).map Keyed.key =
      if Keyed.key item ∈ items.map Keyed.key then items.map Keyed.key
      else items.map Keyed.key ++ [Keyed.key item] := by
  induction items with
  | nil => simp [replaceFirst]
  | cons old rest ih =>
      unfold replaceFirst
      by_cases replaced : Keyed.key old = Keyed.key item
      · simp [replaced]
      · rw [if_neg replaced, List.map_cons, ih]
        by_cases mem : Keyed.key item ∈ rest.map Keyed.key
        · simp [mem]
        · have absent : Keyed.key item ∉ (old :: rest).map Keyed.key := by
            rw [List.map_cons, List.mem_cons, not_or]
            exact ⟨Ne.symm replaced, mem⟩
          rw [if_neg mem, if_neg absent]
          rfl

theorem ids_updated (c : Cache α) (item : α) :
    (c.updated item).ids =
      if Keyed.key item ∈ c.ids then c.ids else c.ids ++ [Keyed.key item] :=
  map_key_replaceFirst item c.items

theorem get?_removed (c : Cache α) (id other : String) :
    (c.removed id).get? other = if other = id then none else c.get? other := by
  simp only [get?, removed, changed, List.find?_filter]
  by_cases same : other = id
  · simp [same]
  · rw [if_neg same]
    congr 1
    funext item
    by_cases found : Keyed.key item = other
    · simp [found, same]
    · simp [found]

theorem ids_removed {c : Cache α} (distinct : c.Distinct) (id : String) :
    (c.removed id).ids = c.ids.erase id := by
  rw [List.Nodup.erase_eq_filter distinct, ids, removed, changed, ids, List.filter_map]
  rfl

theorem rows_updated (c : Cache α) (item : α) : (c.updated item).rows = c.rows.put item := by
  refine Rows.ext (ids_updated c item) (funext fun id => ?_)
  simp only [rows, Rows.put, get?_updated, Function.update_apply]

theorem rows_removed {c : Cache α} (distinct : c.Distinct) (id : String) :
    (c.removed id).rows = c.rows.drop id := by
  refine Rows.ext (ids_removed distinct id) (funext fun other => ?_)
  simp only [rows, Rows.drop, get?_removed, Function.update_apply]

/-! ## A collection -/

theorem find_foldl_put (items : List α) (start : Rows α) (id : String) :
    (items.foldl Rows.put start).find id =
      ((items.reverse.find? fun item => Keyed.key item == id).or (start.find id)) := by
  induction items generalizing start with
  | nil => rfl
  | cons first rest ih =>
      rw [List.foldl_cons, ih, List.reverse_cons, List.find?_append, Option.or_assoc]
      congr 1
      by_cases same : Keyed.key first = id
      · simp [Rows.put, same]
      · simp [Rows.put, same, Function.update_of_ne (Ne.symm same)]

theorem ids_foldl_put {items : List α} {start : Rows α}
    (distinct : (start.ids ++ items.map Keyed.key).Nodup) :
    (items.foldl Rows.put start).ids = start.ids ++ items.map Keyed.key := by
  induction items generalizing start with
  | nil => simp
  | cons first rest ih =>
      have fresh : Keyed.key first ∉ start.ids := fun mem =>
        (List.nodup_append.1 distinct).2.2 _ mem _ List.mem_cons_self rfl
      have put : (start.put first).ids = start.ids ++ [Keyed.key first] := if_neg fresh
      have joined : (start.put first).ids ++ rest.map Keyed.key
          = start.ids ++ (first :: rest).map Keyed.key := by
        simp [put]
      rw [List.foldl_cons, ih (joined ▸ distinct), joined]

/-- A collection with distinct identifiers is the map into which its records were put one by
one. -/
theorem rows_replaceAll (c : Cache α) {items : List α} (distinct : (items.map Keyed.key).Nodup) :
    (c.replaceAll items).rows = .ofItems items := by
  refine Rows.ext ?_ (funext fun id => ?_)
  · have start : ((Rows.none : Rows α).ids ++ items.map Keyed.key).Nodup := distinct
    exact (ids_foldl_put start).symm
  · rw [Rows.ofItems, find_foldl_put, Rows.none, Option.or_none]
    -- the record that is put last is the one that is met first, since it is the only one
    have back : (items.reverse.map Keyed.key).Nodup := by
      simpa [List.map_reverse] using distinct
    refine Option.ext fun item => ?_
    calc
      (c.replaceAll items).get? id = some item
          ↔ item ∈ items ∧ Keyed.key item = id := find?_eq_some_iff distinct
      _ ↔ item ∈ items.reverse ∧ Keyed.key item = id := by rw [List.mem_reverse]
      _ ↔ _ := (find?_eq_some_iff back).symm

theorem distinct_updated {c : Cache α} (distinct : c.Distinct) (item : α) :
    (c.updated item).Distinct := by
  rw [Distinct, ids_updated]
  split
  · exact distinct
  next unseen =>
    refine List.nodup_append.2 ⟨distinct, List.nodup_singleton _, fun _ mem _ last same => ?_⟩
    exact unseen (List.mem_singleton.1 last ▸ same ▸ mem)

theorem distinct_removed {c : Cache α} (distinct : c.Distinct) (id : String) :
    (c.removed id).Distinct := by
  rw [Distinct, ids_removed distinct]
  exact distinct.erase id

/-! ## Operations -/

inductive Operation (α : Type) where
  | markLoading
  | invalidate
  | fetchFailed (message : String)
  | mutationFailed (action : String) (cause : ApiError)
  | updated (item : α)
  | removed (id : String)
  | cleared
  | replaced (items : List α)

namespace Operation

def apply (c : Cache α) : Operation α → Cache α
  | .markLoading => c.markLoading
  | .invalidate => c.invalidate
  | .fetchFailed message => c.fetchFailed message
  | .mutationFailed action cause => c.mutationFailed action cause
  | .updated item => c.updated item
  | .removed id => c.removed id
  | .cleared => c.clear
  | .replaced items => c.replaceAll items

/-- What an operation does to a map: only a change or a fetched collection does anything. -/
def onRows (rows : Rows α) : Operation α → Rows α
  | .markLoading | .invalidate | .fetchFailed _ | .mutationFailed _ _ => rows
  | .updated item => rows.put item
  | .removed id => rows.drop id
  | .cleared => .none
  | .replaced items => .ofItems items

/-- A collection is fetched with distinct identifiers. -/
def Distinct : Operation α → Prop
  | .replaced items => (items.map Keyed.key).Nodup
  | _ => True

end Operation

end Maps

namespace Operation

/-- A change that the server has acknowledged. -/
def IsMutation : Operation α → Prop
  | .updated _ | .removed _ | .cleared => True
  | _ => False

/-- A fetch begins, or its collection arrives. -/
def IsFetch : Operation α → Prop
  | .markLoading | .replaced _ => True
  | _ => False

def IsFailure : Operation α → Prop
  | .fetchFailed _ | .mutationFailed _ _ => True
  | _ => False

end Operation

section Runs

variable [Keyed α]

theorem rows_apply {c : Cache α} (distinct : c.Distinct) {operation : Operation α}
    (brought : operation.Distinct) :
    (operation.apply c).rows = operation.onRows c.rows := by
  cases operation with
  | markLoading => rfl
  | invalidate => rfl
  | fetchFailed message => rfl
  | mutationFailed action cause => rfl
  | updated item => exact rows_updated c item
  | removed id => exact rows_removed distinct id
  | cleared => rfl
  | replaced items => exact rows_replaceAll c brought

theorem distinct_apply {c : Cache α} (distinct : c.Distinct) {operation : Operation α}
    (brought : operation.Distinct) : (operation.apply c).Distinct := by
  cases operation with
  | markLoading => exact distinct
  | invalidate => exact distinct
  | fetchFailed message => exact distinct
  | mutationFailed action cause => exact distinct
  | updated item => exact distinct_updated distinct item
  | removed id => exact distinct_removed distinct id
  | cleared => exact List.nodup_nil
  | replaced items => exact brought

theorem items_apply {operation : Operation α} (change : ¬ operation.IsMutation)
    (fetched : ∀ items, operation ≠ .replaced items) (c : Cache α) :
    (operation.apply c).items = c.items := by
  cases operation with
  | markLoading => rfl
  | invalidate => rfl
  | fetchFailed message => rfl
  | mutationFailed action cause => rfl
  | updated item => exact absurd trivial change
  | removed id => exact absurd trivial change
  | cleared => exact absurd trivial change
  | replaced items => exact absurd rfl (fetched items)

/-- Only a cache that waits for a fetch is settled by a failure. -/
theorem freshness_failure {operation : Operation α} (failure : operation.IsFailure) {c : Cache α}
    (settled : c.freshness ≠ .loading) : (operation.apply c).freshness = c.freshness := by
  cases operation with
  | fetchFailed message => exact if_neg settled
  | mutationFailed action cause => rfl
  | _ => exact failure.elim

theorem needsFetch_mutation {operation : Operation α} (change : operation.IsMutation)
    (c : Cache α) : (operation.apply c).needsFetch = true := by
  cases operation with
  | updated item => rfl
  | removed id => rfl
  | cleared => rfl
  | _ => exact change.elim

theorem needsFetch_apply {operation : Operation α} (quiet : ¬ operation.IsFetch) {c : Cache α}
    (stale : c.needsFetch = true) : (operation.apply c).needsFetch = true := by
  cases operation with
  | markLoading => exact absurd trivial quiet
  | replaced items => exact absurd trivial quiet
  | invalidate => rfl
  | fetchFailed message =>
      have freshness : c.freshness = .stale := by simpa [needsFetch] using stale
      simp [Operation.apply, fetchFailed, needsFetch, freshness]
  | mutationFailed action cause => exact stale
  | updated item => rfl
  | removed id => rfl
  | cleared => rfl

/-! ## Runs -/

def run (c : Cache α) (operations : List (Operation α)) : Cache α :=
  operations.foldl Operation.apply c

theorem run_append (c : Cache α) (before after : List (Operation α)) :
    c.run (before ++ after) = (c.run before).run after :=
  List.foldl_append

theorem rows_run {c : Cache α} (distinct : c.Distinct) {operations : List (Operation α)}
    (brought : ∀ operation ∈ operations, operation.Distinct) :
    (c.run operations).Distinct ∧
      (c.run operations).rows = operations.foldl Operation.onRows c.rows := by
  induction operations generalizing c with
  | nil => exact ⟨distinct, rfl⟩
  | cons operation rest ih =>
      rcases List.forall_mem_cons.1 brought with ⟨first, later⟩
      rw [List.foldl_cons, ← rows_apply distinct first]
      exact ih (distinct_apply distinct first) later

theorem needsFetch_run {c : Cache α} (stale : c.needsFetch = true)
    {operations : List (Operation α)} (quiet : ∀ operation ∈ operations, ¬ operation.IsFetch) :
    (c.run operations).needsFetch = true := by
  induction operations generalizing c with
  | nil => exact stale
  | cons operation rest ih =>
      rcases List.forall_mem_cons.1 quiet with ⟨first, later⟩
      exact ih (needsFetch_apply first stale) later

/-- A cache with distinct identifiers is an ordered map, and stays one through any operations:
they do to it what they do to the map, and after every change it asks to be fetched until a fetch
begins or lands. -/
theorem ordered_map_after_run (c : Cache α) (operations : List (Operation α))
    (distinct : c.Distinct) (brought : ∀ operation ∈ operations, operation.Distinct) :
    let d := c.run operations
    d.Distinct ∧
    d.rows = operations.foldl Operation.onRows c.rows ∧
    d.ids.map d.get? = d.items.map some ∧
    (∀ item,
      (d.updated item).get? (Keyed.key item) = some item ∧
      (∀ id, id ≠ Keyed.key item → (d.updated item).get? id = d.get? id) ∧
      (d.updated item).ids =
        if Keyed.key item ∈ d.ids then d.ids else d.ids ++ [Keyed.key item]) ∧
    (∀ id,
      (d.removed id).get? id = none ∧
      (∀ other, other ≠ id → (d.removed id).get? other = d.get? other) ∧
      (d.removed id).ids = d.ids.erase id) ∧
    (∀ operation : Operation α, ¬ operation.IsMutation → (∀ items, operation ≠ .replaced items) →
      (operation.apply d).items = d.items) ∧
    (∀ operation : Operation α, operation.IsFailure → d.freshness ≠ .loading →
      (operation.apply d).freshness = d.freshness) ∧
    (∀ before mutation after, operations = before ++ mutation :: after → mutation.IsMutation →
      (∀ operation ∈ after, ¬ operation.IsFetch) → d.needsFetch = true) := by
  intro d
  have kept : d.Distinct ∧ d.rows = _ := rows_run distinct brought
  refine ⟨kept.1, kept.2, map_get?_ids kept.1, fun item => ⟨?_, ?_, ids_updated d item⟩,
    fun id => ⟨?_, ?_, ids_removed kept.1 id⟩, fun _ change fetched => items_apply change fetched d,
    fun _ failure settled => freshness_failure failure settled, ?_⟩
  · rw [get?_updated, if_pos rfl]
  · intro id other
    rw [get?_updated, if_neg other]
  · rw [get?_removed, if_pos rfl]
  · intro other distinctId
    rw [get?_removed, if_neg distinctId]
  · rintro before mutation after rfl change quiet
    have stale : d.needsFetch = true := by
      change (c.run (before ++ mutation :: after)).needsFetch = true
      rw [run_append]
      exact needsFetch_run (needsFetch_mutation change (c.run before)) quiet
    exact stale

end Runs

def plannedStub : Stub := { Stub.fresh with id := "7", name := "planned" }

/-- A failed delete, then a reload, and a stub that is renamed while another one is deleted. -/
def busyHour : List (Operation Stub) :=
  [.mutationFailed "delete stub" (.server 500 "boom"), .markLoading,
    .replaced [{ plannedStub with id := "3" }, plannedStub],
    .updated { plannedStub with name := "renamed" }, .removed "3", .fetchFailed "no answer"]

theorem ordered_map_after_busyHour :
    let c : Cache Stub := ⟨[plannedStub], .fresh, none⟩
    let d := c.run busyHour
    (c.Distinct ∧ ∀ operation ∈ busyHour, operation.Distinct) ∧
      d.Distinct ∧ d.rows = busyHour.foldl Operation.onRows c.rows ∧ d.needsFetch = true ∧
      (d.updated plannedStub).get? "7" = some plannedStub ∧ (d.removed "7").get? "7" = none := by
  intro c d
  have distinct : c.Distinct := by decide
  have brought : ∀ operation ∈ busyHour, operation.Distinct := by
    simp [busyHour, Operation.Distinct, plannedStub, Keyed.key]
  obtain ⟨kept, rows, -, put, dropped, -, -, stale⟩ :=
    ordered_map_after_run c busyHour distinct brought
  have quiet : ∀ operation ∈ [.removed "3", .fetchFailed "no answer"],
      ¬ (operation : Operation Stub).IsFetch := by
    simp [Operation.IsFetch]
  refine ⟨⟨distinct, brought⟩, kept, rows, ?_, (put plannedStub).1, (dropped "7").1⟩
  exact stale (busyHour.take 3) (.updated { plannedStub with name := "renamed" }) _ rfl trivial
    quiet

end Cache

end StubConsole
