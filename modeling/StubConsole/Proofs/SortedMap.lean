import StubConsole.SortedMap

/-!
# SortedMap — laws of tables

A table is determined by the pairs it is built from; here is what survives of them.

* `SortedMap.mem_ofList` — a table holds nothing but the pairs put in;
* `SortedMap.ofList_entries` — a table built from its own entries is the same table;
* `SortedMap.filter_ofList` — of the pairs of one key the last one is in the table;
* `SortedMap.eq_of_filter` — tables that agree under every key are the same;
* `SortedMap.mem_insertMany_of_forall_ne`, `SortedMap.exists_mem_insertMany`,
  `SortedMap.insertMany_filter` — what becomes of the entries of a table when others are put in.
-/

namespace StubConsole

namespace SortedMap

variable {α β : Type}

@[simp] theorem entries_empty : (∅ : SortedMap α).entries = [] := rfl

@[simp] theorem entries_map (f : α → β) (m : SortedMap α) :
    (m.map f).entries = m.entries.map fun e => (e.1, f e.2) := rfl

theorem isEmpty_iff {m : SortedMap α} : m.isEmpty = true ↔ m = ∅ := by
  constructor
  · intro h
    exact ext_entries (List.isEmpty_iff.1 h)
  · intro h
    rw [h]
    rfl

/-! ## What a table holds -/

theorem mem_insertMany {e : String × α} :
    ∀ {pairs : List (String × α)} {m : SortedMap α},
      e ∈ (m.insertMany pairs).entries → e ∈ m.entries ∨ e ∈ pairs := by
  intro pairs
  induction pairs with
  | nil =>
      intro m h
      exact Or.inl h
  | cons pair rest ih =>
      intro m h
      have hrest : e ∈ (m.insert pair.1 pair.2).entries ∨ e ∈ rest := ih h
      rcases hrest with hm | hr
      · rcases mem_insertEntry hm with hnew | hold
        · exact Or.inr (hnew ▸ List.mem_cons_self)
        · exact Or.inl hold
      · exact Or.inr (List.mem_cons_of_mem _ hr)

theorem mem_ofList {e : String × α} {pairs : List (String × α)}
    (h : e ∈ (ofList pairs).entries) : e ∈ pairs := by
  rcases mem_insertMany h with hempty | hpair
  · cases hempty
  · exact hpair

/-! ## Pairs in order -/

/-- A key above all others goes to the end. -/
theorem insertEntry_of_forall_lt {key : String} {value : α} {entries : List (String × α)}
    (h : ∀ e ∈ entries, e.1 < key) :
    insertEntry key value entries = entries ++ [(key, value)] := by
  induction entries with
  | nil => rfl
  | cons head rest ih =>
      rcases head with ⟨k, v⟩
      have hlt : k < key := h (k, v) List.mem_cons_self
      have hnot : ¬ key < k := String.lt_asymm hlt
      have hne : key ≠ k := by
        intro heq
        exact String.lt_irrefl k (heq ▸ hlt)
      have hrest := ih fun e he => h e (List.mem_cons_of_mem _ he)
      simp [insertEntry, hnot, hne, hrest]

theorem entries_insertMany :
    ∀ {pairs : List (String × α)} {m : SortedMap α},
      KeysAscend (m.entries ++ pairs) → (m.insertMany pairs).entries = m.entries ++ pairs := by
  intro pairs
  induction pairs with
  | nil =>
      intro m _
      simp [insertMany]
  | cons pair rest ih =>
      intro m h
      rcases pair with ⟨key, value⟩
      -- each pair goes behind all that are in the table, by the order of the list
      have hbelow : ∀ e ∈ m.entries, e.1 < key := by
        intro e he
        exact (List.pairwise_append.1 h).2.2 e he (key, value) List.mem_cons_self
      have hentries : (m.insert key value).entries = m.entries ++ [(key, value)] :=
        insertEntry_of_forall_lt hbelow
      have hascend : KeysAscend ((m.insert key value).entries ++ rest) := by
        rw [hentries, List.append_assoc]
        exact h
      calc
        (m.insertMany ((key, value) :: rest)).entries
            = ((m.insert key value).insertMany rest).entries := rfl
        _ = (m.insert key value).entries ++ rest := ih hascend
        _ = m.entries ++ (key, value) :: rest := by
              rw [hentries, List.append_assoc]
              rfl

theorem ofList_of_ascending {pairs : List (String × α)} (h : KeysAscend pairs) :
    (ofList pairs).entries = pairs :=
  entries_insertMany (m := empty) h

@[simp] theorem ofList_entries (m : SortedMap α) : ofList m.entries = m :=
  ext_entries (ofList_of_ascending m.ascending)

/-! ## Entries under one key -/

section Keys

variable {key other : String} {value : α} {entries : List (String × α)}

theorem filter_insertEntry_of_ne (hne : other ≠ key) :
    (insertEntry key value entries).filter (fun e => e.1 == other)
      = entries.filter fun e => e.1 == other := by
  have hkey : (key == other) = false := by simpa using Ne.symm hne
  induction entries with
  | nil => simp [insertEntry, hkey]
  | cons head rest ih =>
      rcases head with ⟨k, v⟩
      unfold insertEntry
      split
      · simp [hkey]
      · split
        next heq =>
          subst heq
          simp [hkey]
        next =>
          simp only [List.filter_cons]
          rw [ih]

/-- In a table the new entry is the only one of its key. -/
theorem filter_insertEntry_self (h : KeysAscend entries) :
    (insertEntry key value entries).filter (fun e => e.1 == key) = [(key, value)] := by
  induction entries with
  | nil => simp [insertEntry]
  | cons head rest ih =>
      rcases head with ⟨k, v⟩
      rcases List.pairwise_cons.1 h with ⟨hhead, hrest⟩
      -- whatever stands behind a key that is not smaller has a greater key
      have hbehind : ∀ k', k' = key ∨ key < k' → (∀ e ∈ rest, k' < e.1) →
          rest.filter (fun e => e.1 == key) = [] := by
        intro k' hk' hlt
        refine List.filter_eq_nil_iff.2 ?_
        intro e he heq
        have hgreater : key < e.1 := by
          rcases hk' with rfl | hk'
          · exact hlt e he
          · exact String.lt_trans hk' (hlt e he)
        rw [eq_of_beq heq] at hgreater
        exact String.lt_irrefl key hgreater
      unfold insertEntry
      split
      next hlt =>
        have hne : k ≠ key := fun heq => String.lt_irrefl key (heq ▸ hlt)
        simp [hne, hbehind k (Or.inr hlt) hhead]
      next =>
        split
        next heq =>
          subst heq
          simp [hbehind key (Or.inl rfl) hhead]
        next hne =>
          have hother : k ≠ key := Ne.symm hne
          simp only [List.filter_cons, beq_iff_eq, if_neg hother]
          exact ih hrest

/-- An entry that is there already changes nothing. -/
theorem insertEntry_of_mem (h : KeysAscend entries) (hmem : (key, value) ∈ entries) :
    insertEntry key value entries = entries := by
  induction entries with
  | nil => cases hmem
  | cons head rest ih =>
      rcases head with ⟨k, v⟩
      rcases List.pairwise_cons.1 h with ⟨hhead, hrest⟩
      rcases List.mem_cons.1 hmem with heq | hmem
      · cases heq
        simp only [insertEntry, String.lt_irrefl, if_false, if_true]
      · have hlt : k < key := hhead _ hmem
        have hnot : ¬ key < k := String.lt_asymm hlt
        have hne : key ≠ k := by
          intro heq
          exact String.lt_irrefl k (heq ▸ hlt)
        simp [insertEntry, hnot, hne, ih hrest hmem]

theorem filter_insertMany (pairs : List (String × α)) (m : SortedMap α) :
    (m.insertMany pairs).entries.filter (fun e => e.1 == key)
      = match (pairs.filter fun e => e.1 == key).getLast? with
        | some e => [e]
        | none => m.entries.filter fun e => e.1 == key := by
  induction pairs generalizing m with
  | nil => rfl
  | cons pair rest ih =>
      rcases pair with ⟨k, v⟩
      have hrest : ((m.insertMany ((k, v) :: rest)).entries.filter fun e => e.1 == key)
          = _ := ih (m.insert k v)
      rw [hrest]
      by_cases hk : k = key
      · subst hk
        have hfirst : ((m.insert k v).entries.filter fun e => e.1 == k) = [(k, v)] :=
          filter_insertEntry_self m.ascending
        rw [hfirst]
        simp only [List.filter_cons, beq_self_eq_true, if_true, List.getLast?_cons]
        cases (rest.filter fun e => e.1 == k).getLast? <;> rfl
      · have hother : ((m.insert k v).entries.filter fun e => e.1 == key)
            = m.entries.filter fun e => e.1 == key :=
          filter_insertEntry_of_ne (Ne.symm hk)
        simp only [List.filter_cons, beq_iff_eq, if_neg hk, hother]

/-- Of the pairs of one key the last one counts. -/
theorem filter_ofList (pairs : List (String × α)) :
    (ofList pairs).entries.filter (fun e => e.1 == key)
      = (pairs.filter fun e => e.1 == key).getLast?.toList := by
  rw [ofList, filter_insertMany pairs empty]
  cases (pairs.filter fun e => e.1 == key).getLast? <;> rfl

end Keys

/-! ## Equal tables -/

/-- Entries in order are determined by what stands under each key. -/
theorem entries_eq_of_filter {a b : List (String × α)} (ha : KeysAscend a) (hb : KeysAscend b)
    (h : ∀ key, a.filter (fun e => e.1 == key) = b.filter fun e => e.1 == key) : a = b := by
  have hnodup {entries : List (String × α)} (hentries : KeysAscend entries) : entries.Nodup := by
    refine List.Pairwise.imp ?_ hentries
    rintro e _ hlt rfl
    exact String.lt_irrefl e.1 hlt
  have hmem {entries : List (String × α)} {e : String × α} :
      e ∈ entries ↔ e ∈ entries.filter fun e' => e'.1 == e.1 := by simp
  have hperm : a.Perm b := by
    refine (List.perm_ext_iff_of_nodup (hnodup ha) (hnodup hb)).2 ?_
    intro e
    rw [hmem, h, ← hmem]
  refine hperm.eq_of_pairwise ?_ ha hb
  intro e e' _ _ hlt hgt
  exact absurd hgt (String.lt_asymm hlt)

theorem eq_of_filter {m n : SortedMap α}
    (h : ∀ key, m.entries.filter (fun e => e.1 == key) = n.entries.filter fun e => e.1 == key) :
    m = n :=
  ext_entries (entries_eq_of_filter m.ascending n.ascending h)

/-- Values may be changed before the table is built or after it. -/
theorem entries_ofList_map (f : String → α → β) (pairs : List (String × α)) :
    (ofList (pairs.map fun e => (e.1, f e.1 e.2))).entries
      = (ofList pairs).entries.map fun e => (e.1, f e.1 e.2) := by
  have hfilter (key : String) (entries : List (String × α)) :
      (entries.map fun e => (e.1, f e.1 e.2)).filter (fun e => e.1 == key)
        = (entries.filter fun e => e.1 == key).map fun e => (e.1, f e.1 e.2) :=
    List.filter_map
  refine entries_eq_of_filter (ofList _).ascending
    (keysAscend_map (fun e => f e.1 e.2) (ofList pairs).ascending) ?_
  intro key
  rw [filter_ofList, hfilter, hfilter, filter_ofList, List.getLast?_map]
  cases (pairs.filter fun e => e.1 == key).getLast? <;> rfl

/-- Keys may be left out before the table is built or after it. -/
theorem entries_ofList_filter (keep : String → Bool) (pairs : List (String × α)) :
    (ofList (pairs.filter fun e => keep e.1)).entries
      = (ofList pairs).entries.filter fun e => keep e.1 := by
  have hfilter (key : String) (entries : List (String × α)) :
      (entries.filter fun e => keep e.1).filter (fun e => e.1 == key)
        = if keep key = true then entries.filter fun e => e.1 == key else [] := by
    rw [List.filter_filter]
    split
    next hkeep =>
      refine List.filter_congr ?_
      intro e _
      by_cases he : e.1 = key <;> simp [he, hkeep]
    next hkeep =>
      refine List.filter_eq_nil_iff.2 ?_
      intro e _ he
      simp only [Bool.and_eq_true, beq_iff_eq] at he
      exact hkeep (he.1 ▸ he.2)
  refine entries_eq_of_filter (ofList _).ascending ((ofList pairs).ascending.filter _) ?_
  intro key
  rw [filter_ofList, hfilter, hfilter, filter_ofList]
  split <;> rfl

/-- Under one key a table holds one entry at most. -/
theorem filter_key (m : SortedMap α) (key : String) :
    m.entries.filter (fun e => e.1 == key) = [] ∨
      ∃ e, m.entries.filter (fun e => e.1 == key) = [e] := by
  have hlast := @filter_ofList _ key m.entries
  rw [ofList_entries] at hlast
  rw [hlast]
  cases (m.entries.filter fun e => e.1 == key).getLast? with
  | none => exact .inl rfl
  | some e => exact .inr ⟨e, rfl⟩

/-- Under one key there is one value. -/
theorem eq_of_mem_of_key {m : SortedMap α} {e e' : String × α} (he : e ∈ m.entries)
    (he' : e' ∈ m.entries) (hkey : e'.1 = e.1) : e' = e := by
  have hmem : e ∈ m.entries.filter fun entry => entry.1 == e.1 := by simp [he]
  have hmem' : e' ∈ m.entries.filter fun entry => entry.1 == e.1 := by simp [he', hkey]
  rcases m.filter_key e.1 with hnone | ⟨one, hone⟩
  · rw [hnone] at hmem
    cases hmem
  · rw [hone, List.mem_singleton] at hmem hmem'
    rw [hmem, hmem']

/-- An entry stays unless another one is put in under its key. -/
theorem mem_insertMany_of_forall_ne {m : SortedMap α} {e : String × α}
    {pairs : List (String × α)} (h : e ∈ m.entries) (hne : ∀ pair ∈ pairs, pair.1 ≠ e.1) :
    e ∈ (m.insertMany pairs).entries := by
  have hnone : (pairs.filter fun pair => pair.1 == e.1) = [] := by
    simpa [List.filter_eq_nil_iff] using fun key value => hne (key, value)
  have hfilter := @filter_insertMany _ e.1 pairs m
  simp only [hnone, List.getLast?_nil] at hfilter
  have hmem : e ∈ m.entries.filter fun entry => entry.1 == e.1 := by simp [h]
  rw [← hfilter] at hmem
  exact (List.mem_filter.1 hmem).1

/-- Under the key of a pair that is put in, one of these pairs is in the table. -/
theorem exists_mem_insertMany (m : SortedMap α) {pairs : List (String × α)} {pair : String × α}
    (h : pair ∈ pairs) :
    ∃ value, (pair.1, value) ∈ pairs ∧ (pair.1, value) ∈ (m.insertMany pairs).entries := by
  have hmem : pair ∈ pairs.filter fun p => p.1 == pair.1 := by simp [h]
  have hfilter := @filter_insertMany _ pair.1 pairs m
  cases hlast : (pairs.filter fun p => p.1 == pair.1).getLast? with
  | none =>
      rw [List.getLast?_eq_none_iff.1 hlast] at hmem
      cases hmem
  | some last =>
      simp only [hlast] at hfilter
      rcases last with ⟨key, value⟩
      rcases List.mem_filter.1 (List.mem_of_getLast? hlast) with ⟨hpair, hkey⟩
      obtain rfl : key = pair.1 := eq_of_beq hkey
      have hone : (pair.1, value) ∈ (m.insertMany pairs).entries.filter fun entry =>
          entry.1 == pair.1 := by
        rw [hfilter]
        exact List.mem_singleton_self _
      exact ⟨value, hpair, (List.mem_filter.1 hone).1⟩

/-- What is taken out of a table can be put in again. -/
theorem insertMany_filter (m : SortedMap α) (keep : String → α → Bool) :
    (m.filter fun key value => !keep key value).insertMany (m.filter keep).entries = m := by
  refine eq_of_filter ?_
  intro key
  have hkey (p : String × α → Bool) : (m.entries.filter p).filter (fun e => e.1 == key)
      = (m.entries.filter fun e => e.1 == key).filter p := by
    simp only [List.filter_filter, Bool.and_comm]
  rw [filter_insertMany]
  simp only [filter, hkey]
  rcases m.filter_key key with hnone | ⟨e, hone⟩
  · rw [hnone]
    rfl
  · -- the one entry is on one side or the other
    rw [hone]
    cases hkeep : keep e.1 e.2 <;> simp [hkeep]

end SortedMap

end StubConsole
