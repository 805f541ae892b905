import StubConsole.Proofs.Record.Slots
import StubConsole.Proofs.Text.Cuts
import StubConsole.Stub.Codec

/-!
# Rules — what the rules for members read and accept

* Reading: each rule takes back what the record writes for the value.
* Accepting: what a rule delivers, and from which value it comes.
* Writing: the value of a slot is a document that is read back.
-/

namespace StubConsole

open Members

/-! ## Chains of readings -/

section Chain

variable {α β : Type} {x : Option α} {f : α → Option β} {b : β}

/-- A chain of readings succeeds if its first one does and the rest does with what that gave. -/
theorem bind_eq_some_of {a : α} (hx : x = some a) (hf : f a = some b) : (x >>= f) = some b :=
  Option.bind_eq_some_iff.2 ⟨a, hx, hf⟩

theorem bind_eq_some_iff : (x >>= f) = some b ↔ ∃ a, x = some a ∧ f a = some b :=
  Option.bind_eq_some_iff

end Chain

namespace Rule

/-! ## Reading what was written -/

section Reading

variable {α : Type} {read : Json → Option α} {write : α → Json}

theorem text_str (s : String) : text (some (.str s)) = some s := rfl

theorem ident_str (s : String) : ident (some (.str s)) = some s := rfl

theorem loose_str (s : String) : loose (some (.str s)) = some s := rfl

theorem orElse_some {doc : Json} {a : α} (absent : α) (h : read doc = some a) :
    orElse absent read (some doc) = some a := h

theorem orElse_bool (absent b : Bool) : orElse absent boolean (some (.bool b)) = some b := rfl

theorem required_some {doc : Json} {a : α} (h : read doc = some a) :
    required read (some doc) = some a := h

/-- An identifier is left out as long as it is empty. -/
theorem ident_filled (s : String) : ident (filled s) = some s := by
  by_cases h : s = "" <;> simp [filled, ident, h]

theorem looseOption_map_str (o : Option String) : looseOption (o.map .str) = some o := by
  cases o <;> rfl

theorem optional_map (o : Option α) (hread : ∀ a ∈ o, read (write a) = some a)
    (hnull : ∀ a ∈ o, write a ≠ .null) : optional read (o.map write) = some o := by
  cases o with
  | none => rfl
  | some a =>
      have hvalue : optional read (some (write a)) = (read (write a)).map some := by
        cases hw : write a with
        | null => exact absurd hw (hnull a rfl)
        | _ => rfl
      rw [Option.map_some, hvalue, hread a rfl]
      rfl

theorem optional_map_str (o : Option String) : optional string (o.map .str) = some o :=
  optional_map o (fun _ _ => rfl) (fun _ _ => by simp)

theorem optional_map_bool (o : Option Bool) : optional boolean (o.map .bool) = some o :=
  optional_map o (fun _ _ => rfl) (fun _ _ => by simp)

/-- The whole numbers of 32 bits. -/
def InInt32 (n : Int) : Prop := -2147483648 ≤ n ∧ n ≤ 2147483647

theorem optional_map_int32 {o : Option Int} (h : ∀ n ∈ o, InInt32 n) :
    optional int32 (o.map .ofInt) = some o := by
  refine optional_map o ?_ (fun _ _ => by simp [Json.ofInt])
  intro n hn
  rcases h n hn with ⟨hmin, hmax⟩
  simp [int32, intBetween, Json.ofInt, hmin, hmax]

theorem natUpTo_ofNat {max n : Nat} (h : n ≤ max) : natUpTo max (.ofNat n) = some n := by
  simp only [natUpTo, Json.ofNat]
  rw [if_pos]
  · simp
  · simp only [Bool.and_eq_true, decide_eq_true_eq]
    omega

theorem status_ofNat {n : Nat} (h : n ≤ 65535) :
    orElse 0 status (some (.ofNat n)) = some n :=
  natUpTo_ofNat h

theorem optional_map_count {o : Option Nat} (h : ∀ n ∈ o, n ≤ Json.maxWord) :
    optional count (o.map .ofNat) = some o :=
  optional_map o (fun n hn => natUpTo_ofNat (h n hn)) (fun _ _ => by simp [Json.ofNat])

/-- A value that any document may be: in key order, and not null. -/
structure IsValue (doc : Json) : Prop where
  sorted : doc.sorted = doc
  ne_null : doc ≠ .null

theorem optional_value {o : Option Json} (h : ∀ doc ∈ o, IsValue doc) :
    optional value o = some o := by
  have hread := @optional_map _ value id o
    (fun doc hdoc => congrArg some (h doc hdoc).sorted) (fun doc hdoc => (h doc hdoc).ne_null)
  rwa [Option.map_id] at hread

theorem list_arr (items : List α) (hread : ∀ a ∈ items, read (write a) = some a) :
    list read (.arr (items.map write)) = some items :=
  Text.mapM_map items hread

theorem list_someItems (items : List α) (hread : ∀ a ∈ items, read (write a) = some a) :
    orElse [] (list read) (someItems write items) = some items := by
  cases items with
  | nil => rfl
  | cons a rest => exact list_arr (a :: rest) hread

theorem table_ofTable (m : SortedMap α) (hread : ∀ e ∈ m.entries, read (write e.2) = some e.2) :
    table read (ofTable write m) = some m := by
  have hentries : (m.entries.map fun e => (e.1, write e.2)).mapM
      (fun e => (read e.2).map (e.1, ·)) = some m.entries := by
    refine @Text.mapM_map _ _ _ (fun e : String × α => (e.1, write e.2)) m.entries ?_
    intro e he
    simp [hread e he]
  calc
    table read (ofTable write m)
        = ((m.entries.map fun e => (e.1, write e.2)).mapM
            fun e => (read e.2).map (e.1, ·)).map .ofList := by
          simp only [table, ofTable, SortedMap.entries_map]
    _ = some (.ofList m.entries) := by rw [hentries, Option.map_some]
    _ = some m := by rw [SortedMap.ofList_entries]

theorem table_someTable (m : SortedMap α)
    (hread : ∀ e ∈ m.entries, read (write e.2) = some e.2) :
    orElse ∅ (table read) (someTable write m) = some m := by
  cases hempty : m.isEmpty with
  | true =>
      rw [someTable, if_pos hempty, SortedMap.isEmpty_iff.1 hempty]
      rfl
  | false =>
      simp only [someTable, hempty]
      exact table_ofTable m hread

theorem list_strings (items : List String) :
    list string (.arr (items.map .str)) = some items :=
  @list_arr _ string .str items fun _ _ => rfl

theorem list_someStrings (items : List String) :
    orElse [] (list string) (someItems .str items) = some items :=
  @list_someItems _ string .str items fun _ _ => rfl

theorem table_strings (m : SortedMap String) : table string (ofTable .str m) = some m :=
  @table_ofTable _ string .str m fun _ _ => rfl

theorem table_someStrings (m : SortedMap String) :
    orElse ∅ (table string) (someTable .str m) = some m :=
  @table_someTable _ string .str m fun _ _ => rfl

/-- A name that no other choice has stands for its choice. -/
theorem choice_name {choices : List α} {name : α → String} {a : α} (hmem : a ∈ choices)
    (hinj : ∀ b ∈ choices, name b = name a → b = a) :
    choice choices name (.str (name a)) = some a := by
  cases hfind : choices.find? fun c => name c == name a with
  | none =>
      have hnot := List.find?_eq_none.1 hfind a hmem
      simp at hnot
  | some b =>
      have hname := List.find?_some hfind
      have hb := hinj b (List.mem_of_find?_eq_some hfind) (eq_of_beq hname)
      exact hb ▸ hfind

end Reading

/-! ## What is accepted -/

section Accepting

variable {α : Type} {read : Json → Option α} {value : Option Json}

theorem optional_eq_some {o : Option α} (h : optional read value = some o) :
    ∀ a ∈ o, ∃ doc, value = some doc ∧ doc ≠ .null ∧ read doc = some a := by
  intro a ha
  unfold optional at h
  split at h
  · cases h
    cases ha
  · cases h
    cases ha
  · rename_i doc hnull
    rcases Option.map_eq_some_iff.1 h with ⟨b, hb, rfl⟩
    cases ha
    exact ⟨doc, rfl, fun heq => hnull (heq ▸ rfl), hb⟩

theorem natUpTo_le {max n : Nat} {doc : Json} (h : natUpTo max doc = some n) : n ≤ max := by
  unfold natUpTo at h
  split at h
  · rename_i k
    split at h
    · rename_i hk
      simp only [Bool.and_eq_true, decide_eq_true_eq] at hk
      cases h
      omega
    · cases h
  · cases h

theorem inInt32_of_int32 {n : Int} {doc : Json} (h : int32 doc = some n) : InInt32 n := by
  unfold int32 intBetween at h
  split at h
  · split at h
    · rename_i hk
      simp only [Bool.and_eq_true, decide_eq_true_eq] at hk
      cases h
      exact hk
    · cases h
  · cases h

theorem inInt32_of_optional {o : Option Int} (h : optional int32 value = some o) :
    ∀ n ∈ o, InInt32 n := by
  intro n hn
  rcases optional_eq_some h n hn with ⟨doc, -, -, hread⟩
  exact inInt32_of_int32 hread

theorem le_maxWord_of_optional {o : Option Nat} (h : optional count value = some o) :
    ∀ n ∈ o, n ≤ Json.maxWord := by
  intro n hn
  rcases optional_eq_some h n hn with ⟨doc, -, -, hread⟩
  exact natUpTo_le hread

theorem le_of_status {n : Nat} (h : orElse 0 status value = some n) : n ≤ 65535 := by
  cases value with
  | none =>
      cases h
      omega
  | some doc => exact natUpTo_le h

/-- A value that was kept is the value of some document. -/
theorem isValue_of_optional {o : Option Json} (h : optional Rule.value value = some o) :
    ∀ doc ∈ o, IsValue doc := by
  intro doc hdoc
  rcases optional_eq_some h doc hdoc with ⟨source, -, hnull, hread⟩
  cases hread
  exact ⟨Json.sorted_sorted source, fun heq => hnull (Json.sorted_eq_null.1 heq)⟩

theorem within_of_optional {o : Option Json} {depth : Nat} {members : Members} {name : String}
    (h : members.field name (optional Rule.value) = some o)
    (hwithin : ∀ m ∈ members, Json.Within depth m.2) : ∀ doc ∈ o, Json.Within depth doc := by
  intro doc hdoc
  rcases exists_of_field h with ⟨value, hrule, hmem⟩
  rcases optional_eq_some hrule doc hdoc with ⟨source, hsource, -, hread⟩
  cases hread
  exact (hwithin _ (hmem source hsource)).sorted

/-- A part of a record is read from a member, or it is the part that stands for none. -/
theorem orElse_field {members : Members} {name : String} {absent a : α} {P : α → Prop}
    (h : members.field name (orElse absent read) = some a) (habsent : P absent)
    (hread : ∀ doc, (name, doc) ∈ members → read doc = some a → P a) : P a := by
  rcases exists_of_field h with ⟨value, hrule, hmem⟩
  cases value with
  | none =>
      cases hrule
      exact habsent
  | some doc => exact hread doc (hmem doc rfl) hrule

end Accepting

/-! ## What is written -/

section Writing

variable {α : Type} {depth : Nat} {doc : Json}

theorem readable_filled (s : String) : ∀ doc, filled s = some doc →
    Json.Readable .any depth doc := by
  intro doc h
  unfold filled at h
  split at h
  · cases h
  · cases h
    exact .str s

theorem readable_map {shape : Json.Shape} {o : Option α} {write : α → Json}
    (hwrite : ∀ a ∈ o, Json.Readable shape depth (write a)) :
    ∀ doc, o.map write = some doc → Json.Readable shape depth doc := by
  intro doc h
  rcases Option.map_eq_some_iff.1 h with ⟨a, ha, rfl⟩
  exact hwrite a ha

theorem readable_map_str (o : Option String) : ∀ doc, o.map Json.str = some doc →
    Json.Readable .any depth doc :=
  readable_map fun s _ => .str s

theorem readable_map_bool (o : Option Bool) : ∀ doc, o.map Json.bool = some doc →
    Json.Readable .any depth doc :=
  readable_map fun b _ => .bool b

theorem readable_map_int32 {o : Option Int} (h : ∀ n ∈ o, InInt32 n) :
    ∀ doc, o.map Json.ofInt = some doc → Json.Readable .any depth doc := by
  refine readable_map fun n hn => .ofInt ?_
  rcases h n hn with ⟨hmin, hmax⟩
  refine ⟨by omega, ?_⟩
  have hword : (2147483647 : Int) ≤ (Json.maxWord : Int) := by decide
  omega

theorem readable_status {n : Nat} (h : n ≤ 65535) : Json.Readable .any depth (.ofNat n) := by
  have hword : (65535 : Nat) ≤ Json.maxWord := by decide
  exact .ofNat (Nat.le_trans h hword)

theorem readable_some {shape : Json.Shape} (h : Json.Readable shape depth doc) :
    ∀ d, some doc = some d → Json.Readable shape depth d := by
  rintro d ⟨⟩
  exact h

theorem readable_arr {items : List α} {write : α → Json}
    (hwrite : ∀ a ∈ items, Json.Readable .any depth (write a)) :
    Json.Readable .any (depth + 1) (.arr (items.map write)) := by
  have hitems : Json.Readable (.each .any) (depth + 1) (.arr (items.map write)) := by
    refine .items ?_
    intro item hitem
    rcases List.mem_map.1 hitem with ⟨a, ha, rfl⟩
    exact hwrite a ha
  exact hitems.toAny

theorem readable_someItems {items : List α} {write : α → Json}
    (hwrite : ∀ a ∈ items, Json.Readable .any depth (write a)) :
    ∀ doc, someItems write items = some doc → Json.Readable .any (depth + 1) doc := by
  intro doc h
  unfold someItems at h
  split at h
  · cases h
  · cases h
    exact readable_arr hwrite

theorem readable_ofTable {m : SortedMap α} {write : α → Json} {shape : Json.Shape}
    (hwrite : ∀ e ∈ m.entries, Json.Readable shape depth (write e.2)) :
    Json.Readable (.each shape) (depth + 1) (ofTable write m) := by
  refine .obj rfl ?_
  intro e he
  rw [SortedMap.entries_map] at he
  rcases List.mem_map.1 he with ⟨source, hsource, rfl⟩
  exact hwrite source hsource

/-- A table of values that are kept as they are. -/
theorem readable_anyTable {m : SortedMap α} {write : α → Json}
    (hwrite : ∀ e ∈ m.entries, Json.Readable .any depth (write e.2)) :
    Json.Readable .any (depth + 1) (ofTable write m) :=
  (readable_ofTable hwrite).toAny

theorem readable_someStrings (m : SortedMap String) : ∀ doc, someTable .str m = some doc →
    Json.Readable .any (depth + 1) doc := by
  intro doc h
  unfold someTable at h
  split at h
  · cases h
  · cases h
    exact readable_anyTable fun e _ => .str e.2

theorem readable_someTable {m : SortedMap α} {write : α → Json} {shape : Json.Shape}
    (hwrite : ∀ e ∈ m.entries, Json.Readable shape depth (write e.2)) :
    ∀ doc, someTable write m = some doc → Json.Readable (.each shape) (depth + 1) doc := by
  intro doc h
  unfold someTable at h
  split at h
  · cases h
  · cases h
    exact readable_ofTable hwrite

end Writing

end Rule

end StubConsole
