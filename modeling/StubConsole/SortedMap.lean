/-!
# SortedMap — tables keyed by text, in key order

Headers, query parameters and the members of a record that the console does not model are
tables from names to values.  A table lists each name once, in ascending order, so two tables
with the same entries are equal and print alike.

* `SortedMap α` — the entries with the proof that their keys ascend;
* `insert`, `erase`, `get?`, `filter`, `map` — the operations;
* `ofList` — of two entries for one name the later one counts.
-/

namespace StubConsole

/-- Keys ascend strictly, hence each occurs once. -/
def KeysAscend {α : Type} (entries : List (String × α)) : Prop :=
  entries.Pairwise fun a b => a.1 < b.1

instance {α : Type} (entries : List (String × α)) : Decidable (KeysAscend entries) :=
  inferInstanceAs (Decidable (List.Pairwise _ _))

structure SortedMap (α : Type) where
  entries : List (String × α)
  ascending : KeysAscend entries

namespace SortedMap

variable {α β : Type}

theorem ext_entries {m n : SortedMap α} (h : m.entries = n.entries) : m = n := by
  cases m; cases n; cases h; rfl

instance [DecidableEq α] : DecidableEq (SortedMap α) := fun m n =>
  if h : m.entries = n.entries then isTrue (ext_entries h)
  else isFalse fun e => h (e ▸ rfl)

instance [Repr α] : Repr (SortedMap α) where
  reprPrec m n := reprPrec m.entries n

def empty : SortedMap α := ⟨[], List.Pairwise.nil⟩

instance : Inhabited (SortedMap α) := ⟨empty⟩

instance : EmptyCollection (SortedMap α) := ⟨empty⟩

def isEmpty (m : SortedMap α) : Bool := m.entries.isEmpty

def keys (m : SortedMap α) : List String := m.entries.map (·.1)

def get? (m : SortedMap α) (key : String) : Option α := m.entries.lookup key

def contains (m : SortedMap α) (key : String) : Bool := (m.get? key).isSome

/-! ## Insertion -/

/-- Puts an entry at its place; an entry of the same key gives way. -/
def insertEntry (key : String) (value : α) : List (String × α) → List (String × α)
  | [] => [(key, value)]
  | (k, v) :: rest =>
      if key < k then (key, value) :: (k, v) :: rest
      else if key = k then (key, value) :: rest
      else (k, v) :: insertEntry key value rest

theorem mem_insertEntry {key : String} {value : α} {entries : List (String × α)}
    {e : String × α} (h : e ∈ insertEntry key value entries) :
    e = (key, value) ∨ e ∈ entries := by
  induction entries with
  | nil =>
      simp only [insertEntry, List.mem_singleton] at h
      exact Or.inl h
  | cons head rest ih =>
      rcases head with ⟨k, v⟩
      unfold insertEntry at h
      split at h
      · simpa using h
      · split at h
        · rcases List.mem_cons.1 h with h | h
          · exact Or.inl h
          · exact Or.inr (List.mem_cons_of_mem _ h)
        · rcases List.mem_cons.1 h with h | h
          · exact Or.inr (h ▸ List.mem_cons_self)
          · rcases ih h with h | h
            · exact Or.inl h
            · exact Or.inr (List.mem_cons_of_mem _ h)

theorem lt_of_not_lt_of_ne {a b : String} (h : ¬ a < b) (hne : a ≠ b) : b < a := by
  by_cases hba : b < a
  · exact hba
  · exact absurd (String.le_antisymm (String.not_lt.1 hba) (String.not_lt.1 h)) hne

theorem keysAscend_insertEntry (key : String) (value : α) {entries : List (String × α)}
    (h : KeysAscend entries) : KeysAscend (insertEntry key value entries) := by
  induction entries with
  | nil => exact List.pairwise_singleton _ _
  | cons head rest ih =>
      rcases head with ⟨k, v⟩
      rcases List.pairwise_cons.1 h with ⟨hhead, hrest⟩
      unfold insertEntry
      split
      next hlt =>
        refine List.pairwise_cons.2 ⟨?_, h⟩
        intro e he
        rcases List.mem_cons.1 he with he | he
        · exact he ▸ hlt
        · exact String.lt_trans hlt (hhead e he)
      next hlt =>
        split
        next heq =>
          subst heq
          exact List.pairwise_cons.2 ⟨hhead, hrest⟩
        next hne =>
          refine List.pairwise_cons.2 ⟨?_, ih hrest⟩
          intro e he
          rcases mem_insertEntry he with he | he
          · exact he ▸ lt_of_not_lt_of_ne hlt hne
          · exact hhead e he

def insert (m : SortedMap α) (key : String) (value : α) : SortedMap α :=
  ⟨insertEntry key value m.entries, keysAscend_insertEntry key value m.ascending⟩

/-- All pairs put in, in their order. -/
def insertMany (m : SortedMap α) (pairs : List (String × α)) : SortedMap α :=
  pairs.foldl (fun m (k, v) => m.insert k v) m

def ofList (pairs : List (String × α)) : SortedMap α :=
  insertMany empty pairs

/-! ## Selection and change of values -/

def filter (m : SortedMap α) (keep : String → α → Bool) : SortedMap α :=
  ⟨m.entries.filter fun e => keep e.1 e.2, m.ascending.filter _⟩

def erase (m : SortedMap α) (key : String) : SortedMap α :=
  m.filter fun k _ => k != key

theorem keysAscend_map (f : String × α → β) {entries : List (String × α)}
    (h : KeysAscend entries) : KeysAscend (entries.map fun e => (e.1, f e)) := by
  induction entries with
  | nil => exact List.Pairwise.nil
  | cons head rest ih =>
      rcases List.pairwise_cons.1 h with ⟨hhead, hrest⟩
      refine List.pairwise_cons.2 ⟨?_, ih hrest⟩
      intro e he
      rcases List.mem_map.1 he with ⟨e', he', rfl⟩
      exact hhead e' he'

def map (f : α → β) (m : SortedMap α) : SortedMap β :=
  ⟨m.entries.map fun e => (e.1, f e.2), keysAscend_map (fun e => f e.2) m.ascending⟩

end SortedMap

end StubConsole
