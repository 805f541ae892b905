import StubConsole.Json.Record
import StubConsole.Proofs.Json.ReadBack

/-!
# Slots — the members of a record as it is written

A record is written as named members in a fixed order, of which each is there or not, with the
unmodelled members behind them.

* `Members.ofSlots` — the members for a list of slots;
* `Members.Unmodelled` — unmodelled members: foreign names, and values that are read as they are;
* `Members.Hold` — reading by name finds what was written under it;
* `Json.Readable` — a document that the reader gets back in full.
-/

namespace StubConsole

/-! ## Documents that are read back -/

namespace Json

/-- What the reader needs in order to get a document back. -/
structure Readable (shape : Shape) (depth : Nat) (doc : Json) : Prop where
  within : Within depth doc
  whole : doc.isWhole = true
  covered : shape.Covers doc

namespace Readable

variable {shape : Shape} {depth : Nat}

theorem any {doc : Json} (hwithin : Within depth doc) (hwhole : doc.isWhole = true) :
    Readable .any depth doc :=
  ⟨hwithin, hwhole, .any doc⟩

theorem mono {budget : Nat} {doc : Json} (h : Readable shape depth doc) (hle : depth ≤ budget) :
    Readable shape budget doc :=
  ⟨h.within.mono hle, h.whole, h.covered⟩

theorem str (s : String) : Readable .any depth (.str s) := any (.str s) rfl

theorem bool (b : Bool) : Readable .any depth (.bool b) := any (.bool b) rfl

theorem ofInt {n : Int} (hn : (Number.whole n).InWord) : Readable .any depth (.ofInt n) :=
  any (.num hn) rfl

theorem ofNat {n : Nat} (hn : n ≤ maxWord) : Readable .any depth (.ofNat n) :=
  any (.num ⟨by omega, by omega⟩) rfl

theorem obj {members : List (String × Json)} (hkept : shape.isSkipped = false)
    (h : ∀ m ∈ members, Readable (shape.ofMember m.1) depth m.2) :
    Readable shape (depth + 1) (.obj members) where
  within := .obj fun m hm => (h m hm).within
  whole := (isWhole_obj members).2 fun m hm => (h m hm).whole
  covered := .members hkept fun m hm => (h m hm).covered

theorem items {shape : Shape} {items : List Json} (h : ∀ i ∈ items, Readable shape depth i) :
    Readable (.each shape) (depth + 1) (.arr items) where
  within := .arr fun i hi => (h i hi).within
  whole := (isWhole_arr items).2 fun i hi => (h i hi).whole
  covered := .items fun i hi => (h i hi).covered

/-- Where everything is kept, a document is readable if it is so for any other shape. -/
theorem toAny {doc : Json} (h : Readable shape depth doc) : Readable .any depth doc :=
  any h.within h.whole

end Readable

theorem read?_compact_of_readable {shape : Shape} {doc : Json}
    (h : Readable shape depthLimit doc) : read? shape doc.compact = some doc :=
  read?_compact h.within h.whole h.covered

theorem read?_pretty_of_readable {shape : Shape} {doc : Json}
    (h : Readable shape depthLimit doc) : read? shape doc.pretty = some doc :=
  read?_pretty h.within h.whole h.covered

end Json

namespace Members

/-! ## Slots -/

/-- The members of a list of slots: a slot without a value is left out. -/
def ofSlots (slots : List (String × Option Json)) : Members :=
  slots.flatMap fun slot => whenSome slot.1 slot.2

/-- The value of a text that is written unless it is empty. -/
def filled (text : String) : Option Json :=
  if text = "" then none else some (.str text)

/-- The value of a table that is written unless it is empty. -/
def someTable {α : Type} (write : α → Json) (table : SortedMap α) : Option Json :=
  if table.isEmpty then none else some (ofTable write table)

/-- The value of a list that is written unless it is empty. -/
def someItems {α : Type} (write : α → Json) (items : List α) : Option Json :=
  if items.isEmpty then none else some (.arr (items.map write))

theorem unlessEmpty_eq (name text : String) :
    unlessEmpty name text = whenSome name (filled text) := by
  by_cases h : text = "" <;> simp [unlessEmpty, filled, whenSome, h]

theorem unlessNoEntry_eq {α : Type} (name : String) (write : α → Json) (table : SortedMap α) :
    unlessNoEntry name write table = whenSome name (someTable write table) := by
  cases h : table.isEmpty <;> simp [unlessNoEntry, someTable, whenSome, h]

theorem unlessNoItem_eq {α : Type} (name : String) (write : α → Json) (items : List α) :
    unlessNoItem name write items = whenSome name (someItems write items) := by
  cases h : items.isEmpty <;> simp [unlessNoItem, someItems, whenSome, h]

theorem mem_ofSlots {slots : List (String × Option Json)} {m : String × Json} :
    m ∈ ofSlots slots ↔ (m.1, some m.2) ∈ slots := by
  simp only [ofSlots, List.mem_flatMap]
  constructor
  · rintro ⟨⟨name, value⟩, hslot, hm⟩
    cases value with
    | none => simp [whenSome] at hm
    | some value =>
        obtain rfl : m = (name, value) := by simpa [whenSome] using hm
        exact hslot
  · intro h
    exact ⟨_, h, by simp [whenSome]⟩

/-! ## Unmodelled members -/

/-- Members under names that the record does not model, each with a value that is read as it
is. -/
structure Unmodelled (names : List String) (extra : SortedMap Json) : Prop where
  foreign : ∀ e ∈ extra.entries, e.1 ∉ names
  values : ∀ e ∈ extra.entries, e.2.sorted = e.2

theorem unmodelled_empty (names : List String) : Unmodelled names ∅ :=
  ⟨fun _ h => (List.not_mem_nil h).elim, fun _ h => (List.not_mem_nil h).elim⟩

theorem exists_of_mem_others {members : Members} {names : List String} {e : String × Json}
    (h : e ∈ (members.others names).entries) :
    ∃ m ∈ members, m.1 ∉ names ∧ e = (m.1, m.2.sorted) := by
  rcases List.mem_map.1 (SortedMap.mem_ofList h) with ⟨m, hm, heq⟩
  rcases List.mem_filter.1 hm with ⟨hmem, hname⟩
  exact ⟨m, hmem, by simpa using hname, heq.symm⟩

theorem unmodelled_others (members : Members) (names : List String) :
    Unmodelled names (members.others names) where
  foreign := by
    intro e he
    rcases exists_of_mem_others he with ⟨m, -, hname, rfl⟩
    exact hname
  values := by
    intro e he
    rcases exists_of_mem_others he with ⟨m, -, -, rfl⟩
    exact Json.sorted_sorted m.2

theorem within_others {members : Members} {names : List String} {depth : Nat}
    (h : ∀ m ∈ members, Json.Within depth m.2) :
    ∀ e ∈ (members.others names).entries, Json.Within depth e.2 := by
  intro e he
  rcases exists_of_mem_others he with ⟨m, hm, -, rfl⟩
  exact (h m hm).sorted

theorem within_ofObject? {doc : Json} {members : Members} {depth : Nat}
    (h : ofObject? doc = some members) (hwithin : Json.Within (depth + 1) doc) :
    ∀ m ∈ members, Json.Within depth m.2 := by
  cases doc with
  | obj _ =>
      cases h
      exact hwithin.of_obj
  | _ => cases h

/-- Under a shape that keeps other members, these are kept as they are. -/
theorem readable_unmodelled {fields : List (String × Json.Shape)} {depth : Nat}
    {extra : SortedMap Json} (hextra : Unmodelled (fields.map (·.1)) extra)
    (hwithin : ∀ e ∈ extra.entries, Json.Within depth e.2)
    (hwhole : ∀ e ∈ extra.entries, e.2.isWhole = true) :
    ∀ e ∈ extra.entries,
      Json.Readable ((Json.Shape.record fields true).ofMember e.1) depth e.2 := by
  intro e he
  have hlookup : fields.lookup e.1 = none := by
    refine List.lookup_eq_none_iff.2 ?_
    intro field hfield
    have hne : e.1 ≠ field.1 := by
      intro heq
      exact hextra.foreign e he (List.mem_map.2 ⟨field, hfield, heq.symm⟩)
    simpa using hne
  simp only [Json.Shape.ofMember, hlookup]
  exact .any (hwithin e he) (hwhole e he)

/-! ## Reading by name -/

/-- Each slot is found under its name. -/
def Hold (members : Members) (slots : List (String × Option Json)) : Prop :=
  ∀ slot ∈ slots, members.unique? slot.1 = some slot.2

section Written

variable {slots : List (String × Option Json)} {extra : List (String × Json)} {name : String}

theorem filter_ofSlots (hnodup : (slots.map (·.1)).Nodup) {value : Option Json}
    (hslot : (name, value) ∈ slots) :
    (ofSlots slots).filter (fun m => m.1 == name) = whenSome name value := by
  induction slots with
  | nil => cases hslot
  | cons slot rest ih =>
      rcases List.nodup_cons.1 hnodup with ⟨hhead, hrest⟩
      have hsplit : ofSlots (slot :: rest) = whenSome slot.1 slot.2 ++ ofSlots rest := rfl
      rw [hsplit, List.filter_append]
      rcases List.mem_cons.1 hslot with rfl | hslot
      · -- the names are all different, so the rest has nothing under this one
        have hnone : (ofSlots rest).filter (fun m => m.1 == name) = [] := by
          refine List.filter_eq_nil_iff.2 ?_
          intro m hm hname
          refine hhead (List.mem_map.2 ⟨_, mem_ofSlots.1 hm, ?_⟩)
          simpa using hname
        rw [hnone, List.append_nil]
        cases value <;> simp [whenSome]
      · have hother : slot.1 ≠ name := by
          intro heq
          exact hhead (List.mem_map.2 ⟨_, hslot, heq.symm⟩)
        have hnone : (whenSome slot.1 slot.2).filter (fun m => m.1 == name) = [] := by
          cases slot.2 <;> simp [whenSome, hother]
        rw [hnone, List.nil_append, ih hrest hslot]

theorem hold_ofSlots (hnodup : (slots.map (·.1)).Nodup)
    (hforeign : ∀ e ∈ extra, e.1 ∉ slots.map (·.1)) : Hold (ofSlots slots ++ extra) slots := by
  intro slot hslot
  have hextra : extra.filter (fun m => m.1 == slot.1) = [] := by
    refine List.filter_eq_nil_iff.2 ?_
    intro e he hname
    refine hforeign e he (List.mem_map.2 ⟨slot, hslot, ?_⟩)
    exact (eq_of_beq hname).symm
  -- of all that was written only the slot itself has its name
  have hfilter : (ofSlots slots ++ extra).filter (fun m => m.1 == slot.1)
      = whenSome slot.1 slot.2 := by
    calc
      (ofSlots slots ++ extra).filter (fun m => m.1 == slot.1)
          = (ofSlots slots).filter (fun m => m.1 == slot.1)
            ++ extra.filter (fun m => m.1 == slot.1) := List.filter_append ..
      _ = whenSome slot.1 slot.2 ++ [] := by rw [filter_ofSlots hnodup hslot, hextra]
      _ = whenSome slot.1 slot.2 := List.append_nil _
  rw [unique?, hfilter]
  cases slot.2 <;> rfl

/-- The rule for a member sees what was written. -/
theorem Hold.field {members : Members} {α : Type} {rule : Option Json → Option α}
    {value : Option Json} {a : α} (h : Hold members slots) (name : String)
    (hrule : rule value = some a) (hslot : (name, value) ∈ slots) :
    members.field name rule = some a := by
  rw [Members.field, h _ hslot]
  exact hrule

theorem others_ofSlots {names : List String} {extra : SortedMap Json}
    (hnames : ∀ slot ∈ slots, slot.1 ∈ names) (hextra : Unmodelled names extra) :
    Members.others (ofSlots slots ++ extra.entries) names = extra := by
  have hslots : (ofSlots slots).filter (fun m => !names.contains m.1) = [] := by
    refine List.filter_eq_nil_iff.2 ?_
    intro m hm
    simpa using hnames _ (mem_ofSlots.1 hm)
  have hforeign : extra.entries.filter (fun m => !names.contains m.1) = extra.entries := by
    refine List.filter_eq_self.2 ?_
    intro e he
    simpa using hextra.foreign e he
  -- the values were put in order when they were read, so doing it again changes nothing
  have hvalues : extra.entries.map (fun m => (m.1, m.2.sorted)) = extra.entries := by
    refine (List.map_congr_left ?_).trans (List.map_id _)
    intro e he
    simp [hextra.values e he]
  calc
    Members.others (ofSlots slots ++ extra.entries) names
        = .ofList ((extra.entries.filter fun m => !names.contains m.1).map
            fun m => (m.1, m.2.sorted)) := by
          rw [others, List.filter_append, hslots, List.nil_append]
    _ = .ofList extra.entries := by rw [hforeign, hvalues]
    _ = extra := SortedMap.ofList_entries extra

theorem readable_ofSlots {shape : Json.Shape} {depth : Nat} (hkept : shape.isSkipped = false)
    (hslots : ∀ slot ∈ slots, ∀ doc, slot.2 = some doc →
      Json.Readable (shape.ofMember slot.1) depth doc)
    (hextra : ∀ e ∈ extra, Json.Readable (shape.ofMember e.1) depth e.2) :
    Json.Readable shape (depth + 1) (.obj (ofSlots slots ++ extra)) := by
  refine .obj hkept ?_
  intro m hm
  rcases List.mem_append.1 hm with hm | hm
  · exact hslots _ (mem_ofSlots.1 hm) m.2 rfl
  · exact hextra m hm

end Written

/-- A member that was read has a value among the members, or none. -/
theorem exists_of_field {α : Type} {members : Members} {name : String}
    {rule : Option Json → Option α} {a : α} (h : members.field name rule = some a) :
    ∃ value, rule value = some a ∧ ∀ doc, value = some doc → (name, doc) ∈ members := by
  rcases Option.bind_eq_some_iff.1 h with ⟨value, hunique, hrule⟩
  refine ⟨value, hrule, ?_⟩
  rintro doc rfl
  unfold unique? at hunique
  split at hunique
  · cases hunique
  · rename_i m hm
    -- exactly one member has the name
    have hfilter : m ∈ members.filter fun m => m.1 == name := by
      rw [hm]
      exact List.mem_singleton_self m
    rcases List.mem_filter.1 hfilter with ⟨hmem, hname⟩
    cases hunique
    rwa [← eq_of_beq hname]
  · cases hunique

end Members

end StubConsole
