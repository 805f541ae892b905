import StubConsole.Json.Reader
import StubConsole.Proofs.SortedMap

/-!
# Value — laws of documents as values

* `Json.byParts` — induction over the parts of a document;
* `Json.sorted_sorted` — a value is its own value;
* `Json.isWhole` — a document without fractions;
* `Json.Within` — a document that is nested no deeper than a budget of levels, with numbers of
  64 bits.
-/

namespace StubConsole

namespace Json

/-! ## Induction -/

theorem byParts {P : Json → Prop} (null : P .null) (bool : ∀ b, P (.bool b))
    (num : ∀ n, P (.num n)) (str : ∀ s, P (.str s))
    (arr : ∀ items, (∀ item ∈ items, P item) → P (.arr items))
    (obj : ∀ members, (∀ m ∈ members, P m.2) → P (.obj members)) : ∀ doc, P doc
  | .null => null
  | .bool b => bool b
  | .num n => num n
  | .str s => str s
  | .arr items => arr items fun item _ => byParts null bool num str arr obj item
  | .obj members => obj members fun m _ => byParts null bool num str arr obj m.2
termination_by doc => sizeOf doc
decreasing_by
  · have hitem := List.sizeOf_lt_of_mem ‹item ∈ items›
    simp only [Json.arr.sizeOf_spec]
    omega
  · have hmember := List.sizeOf_lt_of_mem ‹m ∈ members›
    have hvalue : sizeOf m = 1 + sizeOf m.1 + sizeOf m.2 := rfl
    simp only [Json.obj.sizeOf_spec]
    omega

/-! ## Values -/

theorem sortedItems_eq_map (items : List Json) : sortedItems items = items.map sorted := by
  induction items with
  | nil => rfl
  | cons item rest ih => simp [sortedItems, ih]

theorem sortedMembers_eq_map (members : List (String × Json)) :
    sortedMembers members = members.map fun m => (m.1, m.2.sorted) := by
  induction members with
  | nil => rfl
  | cons m rest ih => simp [sortedMembers, ih]

theorem sorted_arr (items : List Json) : (Json.arr items).sorted = .arr (items.map sorted) := by
  rw [sorted, sortedItems_eq_map]

theorem sorted_obj (members : List (String × Json)) :
    (Json.obj members).sorted
      = .obj (SortedMap.ofList (members.map fun m => (m.1, m.2.sorted))).entries := by
  rw [sorted, sortedMembers_eq_map]

/-- Each member of a value comes from a member of the document. -/
theorem exists_of_mem_sorted {members : List (String × Json)} {e : String × Json}
    (h : e ∈ (SortedMap.ofList (members.map fun m => (m.1, m.2.sorted))).entries) :
    ∃ m ∈ members, e = (m.1, m.2.sorted) := by
  rcases List.mem_map.1 (SortedMap.mem_ofList h) with ⟨m, hm, heq⟩
  exact ⟨m, hm, heq.symm⟩

/-- Entries whose values are values already make a value as they are. -/
theorem sorted_entries {m : SortedMap Json} (h : ∀ e ∈ m.entries, e.2.sorted = e.2) :
    (Json.obj m.entries).sorted = .obj m.entries := by
  have hsame : (m.entries.map fun e => (e.1, e.2.sorted)) = m.entries := by
    refine (List.map_congr_left ?_).trans (List.map_id _)
    intro e he
    simp [h e he]
  calc
    (Json.obj m.entries).sorted
        = .obj (SortedMap.ofList (m.entries.map fun e => (e.1, e.2.sorted))).entries :=
          sorted_obj m.entries
    _ = .obj (SortedMap.ofList m.entries).entries := by rw [hsame]
    _ = .obj m.entries := by rw [SortedMap.ofList_entries]

theorem sorted_sorted (doc : Json) : doc.sorted.sorted = doc.sorted := by
  induction doc using byParts with
  | null => rfl
  | bool b => rfl
  | num n => rfl
  | str s => rfl
  | arr items ih =>
      have hitems : (items.map sorted).map sorted = items.map sorted := by
        rw [List.map_map]
        exact List.map_congr_left ih
      calc
        (Json.arr items).sorted.sorted = .arr ((items.map sorted).map sorted) := by
          rw [sorted_arr, sorted_arr]
        _ = .arr (items.map sorted) := by rw [hitems]
        _ = (Json.arr items).sorted := (sorted_arr items).symm
  | obj members ih =>
      rw [sorted_obj]
      refine sorted_entries ?_
      intro e he
      rcases exists_of_mem_sorted he with ⟨m, hm, rfl⟩
      exact ih m hm

theorem sorted_eq_null {doc : Json} : doc.sorted = .null ↔ doc = .null := by
  cases doc <;> simp [sorted]

/-! ## Fractions -/

mutual

/-- No number of the document is a fraction. -/
def isWhole : Json → Bool
  | .null => true
  | .bool _ => true
  | .num (.whole _) => true
  | .num (.float _) => false
  | .str _ => true
  | .arr items => areWhole items
  | .obj members => haveWhole members

def areWhole : List Json → Bool
  | [] => true
  | item :: rest => item.isWhole && areWhole rest

def haveWhole : List (String × Json) → Bool
  | [] => true
  | (_, value) :: rest => value.isWhole && haveWhole rest

end

theorem isWhole_arr (items : List Json) :
    (Json.arr items).isWhole = true ↔ ∀ item ∈ items, item.isWhole = true := by
  rw [isWhole]
  induction items with
  | nil => simp [areWhole]
  | cons item rest ih => simp [areWhole, ih]

theorem isWhole_obj (members : List (String × Json)) :
    (Json.obj members).isWhole = true ↔ ∀ m ∈ members, m.2.isWhole = true := by
  rw [isWhole]
  induction members with
  | nil => simp [haveWhole]
  | cons m rest ih =>
      rcases m with ⟨key, value⟩
      simp [haveWhole, ih]

/-! ## Nesting -/

/-- A whole number that 64 bits hold, with or without sign. -/
def Number.InWord : Number → Prop
  | .whole n => -0x8000000000000000 ≤ n ∧ n ≤ (maxWord : Int)
  | .float _ => True

/-- At most `depth` levels of arrays and objects, and numbers of 64 bits only. -/
inductive Within : Nat → Json → Prop where
  | null {depth : Nat} : Within depth .null
  | bool {depth : Nat} (b : Bool) : Within depth (.bool b)
  | num {depth : Nat} {n : Number} : n.InWord → Within depth (.num n)
  | str {depth : Nat} (s : String) : Within depth (.str s)
  | arr {depth : Nat} {items : List Json} :
      (∀ item ∈ items, Within depth item) → Within (depth + 1) (.arr items)
  | obj {depth : Nat} {members : List (String × Json)} :
      (∀ m ∈ members, Within depth m.2) → Within (depth + 1) (.obj members)

namespace Within

theorem mono {depth budget : Nat} {doc : Json} (h : Within depth doc) (hle : depth ≤ budget) :
    Within budget doc := by
  induction h generalizing budget with
  | null => exact .null
  | bool b => exact .bool b
  | num hn => exact .num hn
  | str s => exact .str s
  | arr _ ih =>
      rcases Nat.exists_eq_add_of_le' (show 1 ≤ budget by omega) with ⟨budget, rfl⟩
      exact .arr fun item hitem => ih item hitem (by omega)
  | obj _ ih =>
      rcases Nat.exists_eq_add_of_le' (show 1 ≤ budget by omega) with ⟨budget, rfl⟩
      exact .obj fun m hm => ih m hm (by omega)

theorem sorted {depth : Nat} {doc : Json} (h : Within depth doc) : Within depth doc.sorted := by
  induction h with
  | null => exact .null
  | bool b => exact .bool b
  | num hn => exact .num hn
  | str s => exact .str s
  | arr _ ih =>
      rw [sorted_arr]
      refine .arr ?_
      intro item hitem
      rcases List.mem_map.1 hitem with ⟨i, hi, rfl⟩
      exact ih i hi
  | obj _ ih =>
      rw [sorted_obj]
      refine .obj ?_
      intro e he
      rcases exists_of_mem_sorted he with ⟨m, hm, rfl⟩
      exact ih m hm

theorem of_obj {depth : Nat} {members : List (String × Json)} (h : Within depth (.obj members)) :
    ∀ m ∈ members, Within (depth - 1) m.2 := by
  cases h with
  | obj hmembers => exact hmembers

end Within

end Json

end StubConsole
