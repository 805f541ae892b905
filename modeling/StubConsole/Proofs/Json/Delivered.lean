import StubConsole.Proofs.Json.Value

/-!
# Delivered — what the reader delivers

Every document that the reader delivers is nested no deeper than its budget of levels, and its
whole numbers fit a word.  What is passed over may break both rules, but is not delivered.

* `Json.Shape.Solid` — a shape of which only unnamed members are passed over;
* `Json.readNumber_inWord` — the numbers;
* `Json.readValue_within` — the documents, by induction on the fuel;
* `Json.within_of_read?`, `Json.within_of_parse?` — the whole text.
-/

namespace StubConsole

namespace Json

/-! ## Shapes that skip unnamed members only -/

inductive Shape.Solid : Shape → Prop where
  | any : Solid .any
  | record {fields : List (String × Shape)} {keepsOthers : Bool} :
      (∀ field ∈ fields, Solid field.2) → Solid (.record fields keepsOthers)
  | each {item : Shape} : Solid item → Solid (.each item)

namespace Shape.Solid

variable {shape : Shape}

theorem isSkipped_eq_false (h : shape.Solid) : shape.isSkipped = false := by
  cases h <;> rfl

theorem ofItem (h : shape.Solid) (index : Nat) : (shape.ofItem index).Solid := by
  cases h with
  | any => exact .any
  | each hitem => exact hitem
  | @record fields keepsOthers hfields =>
      cases hget : fields[index]? with
      | none =>
          simp only [Shape.ofItem, hget]
          exact .any
      | some field =>
          simp only [Shape.ofItem, hget]
          exact hfields field (List.mem_of_getElem? hget)

/-- A member that is kept has a solid shape of its own. -/
theorem ofMember (h : shape.Solid) {key : String}
    (hkept : (shape.ofMember key).isSkipped = false) : (shape.ofMember key).Solid := by
  cases h with
  | any => exact .any
  | each hitem => exact hitem
  | @record fields keepsOthers hfields =>
      cases hlookup : fields.lookup key with
      | some field =>
          rcases List.lookup_eq_some_iff.1 hlookup with ⟨before, after, rfl, -⟩
          simp only [Shape.ofMember, hlookup]
          exact hfields (key, field) (by simp)
      | none =>
          simp only [Shape.ofMember, hlookup] at hkept ⊢
          -- a name that is not modelled is kept only by a record that keeps them all
          cases keepsOthers with
          | true => exact .any
          | false => exact absurd hkept (by decide)

/-- The shape of a record whose members are all kept as they are. -/
theorem ofNames (names : List String) (keepsOthers : Bool) :
    (Shape.record (names.map (·, .any)) keepsOthers).Solid := by
  refine .record ?_
  intro field hfield
  rcases List.mem_map.1 hfield with ⟨name, -, rfl⟩
  exact .any

end Shape.Solid

/-! ## Numbers -/

section Numbers

variable {m : Magnitude} {kept negative : Bool} {s rest : List Char} {n : Number}

theorem finish_inWord (h : m.finish kept s = .ok (n, rest)) : n.InWord := by
  unfold Magnitude.finish at h
  split at h
  · cases h
    exact trivial
  · cases kept with
    | true => cases h
    | false =>
        cases h
        exact ⟨by omega, by omega⟩

theorem readExponent_inWord (h : readExponent m kept s = .ok (n, rest)) : n.InWord := by
  unfold readExponent at h
  split at h
  split at h
  · cases h
  · split at h
    · cases h
    · split at h
      · exact finish_inWord h
      · split at h
        · cases h
        · cases h
          exact trivial

theorem readTail_inWord (h : readTail m kept s = .ok (n, rest)) : n.InWord := by
  unfold readTail at h
  split at h
  · split at h
    · exact readExponent_inWord h
    · exact finish_inWord h
  · exact finish_inWord h

theorem readFraction_inWord (h : readFraction m kept s = .ok (n, rest)) : n.InWord := by
  unfold readFraction at h
  split at h
  · cases h
  · split at h
    · cases h
    · exact readTail_inWord h

theorem wholeNumber_inWord {k : Nat} (hk : k ≤ maxWord) : (wholeNumber negative k).InWord := by
  unfold wholeNumber
  split
  · exact ⟨by omega, by omega⟩
  · split
    · exact trivial
    · rename_i hsmall
      simp only [Bool.or_eq_true, decide_eq_true_eq, not_or] at hsmall
      exact ⟨by omega, by omega⟩

/-- The significand never exceeds a word, whatever digits follow. -/
theorem takeDigits_le_maxWord {significand count : Nat} (hword : significand ≤ maxWord) :
    (takeDigits significand count s).1 ≤ maxWord := by
  induction s generalizing significand count with
  | nil => exact hword
  | cons c more ih =>
      unfold takeDigits
      by_cases hdigit : c.isDigit = true
      · rw [if_pos hdigit]
        by_cases hnext : 10 * significand + (c.toNat - '0'.toNat) ≤ maxWord
        · simp only [if_pos hnext]
          exact ih hnext
        · simp only [if_neg hnext]
          exact hword
      · rw [if_neg hdigit]
        exact hword

theorem readNumber_inWord (h : readNumber negative kept s = .ok (n, rest)) : n.InWord := by
  unfold readNumber at h
  split at h
  · cases h
  · split at h
    · cases h
    · dsimp only at h
      split at h
      · cases h
      · split at h
        · exact readFraction_inWord h
        · split at h
          · cases h
            exact wholeNumber_inWord (takeDigits_le_maxWord (by decide))
          · exact readTail_inWord h

end Numbers

/-! ## Documents -/

theorem readWord_value {value doc : Json} {word s rest : List Char}
    (h : readWord value word s = .ok (doc, rest)) : doc = value := by
  induction word generalizing s with
  | nil =>
      cases h
      rfl
  | cons w ws ih =>
      cases s with
      | nil => cases h
      | cons c s =>
          unfold readWord at h
          split at h
          · exact ih h
          · cases h

/-- The parts of a chain of steps that succeeded. -/
theorem exists_of_bind_eq_ok {ε α β : Type} {x : Except ε α} {f : α → Except ε β} {b : β}
    (h : (x >>= f) = .ok b) : ∃ a, x = .ok a ∧ f a = .ok b := by
  cases x with
  | error e => cases h
  | ok a => exact ⟨a, rfl, h⟩

/-- With so much fuel all five readers deliver documents within their budget. -/
structure DeliverWithin (fuel : Nat) : Prop where
  value : ∀ {shape : Shape} {depth : Nat} {s rest : List Char} {doc : Json}, shape.Solid →
    readValue shape depth fuel s = .ok (doc, rest) → Within depth doc
  items : ∀ {shape : Shape} {depth index : Nat} {s rest : List Char} {items : List Json},
    shape.Solid → readItems shape depth fuel index s = .ok (items, rest) →
      ∀ item ∈ items, Within depth item
  item : ∀ {shape : Shape} {depth index : Nat} {s rest : List Char} {items : List Json},
    shape.Solid → readItem shape depth fuel index s = .ok (items, rest) →
      ∀ item ∈ items, Within depth item
  members : ∀ {shape : Shape} {depth : Nat} {first : Bool} {s rest : List Char}
    {members : List (String × Json)}, shape.Solid →
    readMembers shape depth fuel first s = .ok (members, rest) → ∀ m ∈ members, Within depth m.2
  member : ∀ {shape : Shape} {depth : Nat} {s rest : List Char} {members : List (String × Json)},
    shape.Solid → readMember shape depth fuel s = .ok (members, rest) →
      ∀ m ∈ members, Within depth m.2

section Step

variable {fuel : Nat} {shape : Shape} {depth : Nat} {s rest : List Char}

theorem enter_solid {inner : Nat} (hsolid : shape.Solid) (h : enter shape depth s = .ok inner) :
    depth = inner + 1 := by
  unfold enter at h
  rw [hsolid.isSkipped_eq_false] at h
  cases depth with
  | zero => cases h
  | succ depth =>
      cases h
      rfl

theorem readValue_within_succ {doc : Json} (ih : DeliverWithin fuel) (hsolid : shape.Solid)
    (h : readValue shape depth (fuel + 1) s = .ok (doc, rest)) : Within depth doc := by
  unfold readValue at h
  split at h
  · cases h
  rename_i c more hskip
  -- one case for each character that opens a value
  by_cases hnull : c = 'n'
  · rw [if_pos hnull] at h
    exact readWord_value h ▸ .null
  rw [if_neg hnull] at h
  by_cases htrue : c = 't'
  · rw [if_pos htrue] at h
    exact readWord_value h ▸ .bool true
  rw [if_neg htrue] at h
  by_cases hfalse : c = 'f'
  · rw [if_pos hfalse] at h
    exact readWord_value h ▸ .bool false
  rw [if_neg hfalse] at h
  by_cases hminus : c = '-'
  · rw [if_pos hminus] at h
    rcases exists_of_bind_eq_ok h with ⟨⟨n, after⟩, hread, heq⟩
    cases heq
    exact .num (readNumber_inWord hread)
  rw [if_neg hminus] at h
  by_cases hdigit : c.isDigit = true
  · rw [if_pos hdigit] at h
    rcases exists_of_bind_eq_ok h with ⟨⟨n, after⟩, hread, heq⟩
    cases heq
    exact .num (readNumber_inWord hread)
  rw [if_neg hdigit] at h
  by_cases hquote : c = '"'
  · rw [if_pos hquote] at h
    rcases exists_of_bind_eq_ok h with ⟨⟨t, after⟩, -, heq⟩
    cases heq
    exact .str t
  rw [if_neg hquote] at h
  by_cases hbracket : c = '['
  · rw [if_pos hbracket] at h
    rcases exists_of_bind_eq_ok h with ⟨inner, henter, h⟩
    rcases exists_of_bind_eq_ok h with ⟨⟨items, after⟩, hread, heq⟩
    cases heq
    rw [enter_solid hsolid henter]
    exact .arr (ih.items hsolid hread)
  rw [if_neg hbracket] at h
  by_cases hbrace : c = '\x7b'
  · rw [if_pos hbrace] at h
    rcases exists_of_bind_eq_ok h with ⟨inner, henter, h⟩
    rcases exists_of_bind_eq_ok h with ⟨⟨members, after⟩, hread, heq⟩
    cases heq
    rw [enter_solid hsolid henter]
    exact .obj (ih.members hsolid hread)
  rw [if_neg hbrace] at h
  cases h

theorem readItems_within_succ {index : Nat} {items : List Json} (ih : DeliverWithin fuel)
    (hsolid : shape.Solid) (h : readItems shape depth (fuel + 1) index s = .ok (items, rest)) :
    ∀ item ∈ items, Within depth item := by
  -- the list ends, or a first item comes, or a comma with an item behind it
  unfold readItems at h
  split at h
  · cases h
  split at h
  · cases h
    simp
  split at h
  · exact ih.item hsolid h
  split at h
  · cases h
  split at h
  · cases h
  split at h
  · cases h
  exact ih.item hsolid h

theorem readItem_within_succ {index : Nat} {items : List Json} (ih : DeliverWithin fuel)
    (hsolid : shape.Solid) (h : readItem shape depth (fuel + 1) index s = .ok (items, rest)) :
    ∀ item ∈ items, Within depth item := by
  unfold readItem at h
  rcases exists_of_bind_eq_ok h with ⟨⟨item, after⟩, hitem, h⟩
  rcases exists_of_bind_eq_ok h with ⟨⟨more, last⟩, hmore, heq⟩
  cases heq
  intro i hi
  rcases List.mem_cons.1 hi with rfl | hi
  · exact ih.value (hsolid.ofItem index) hitem
  · exact ih.items hsolid hmore i hi

theorem readMembers_within_succ {first : Bool} {members : List (String × Json)}
    (ih : DeliverWithin fuel) (hsolid : shape.Solid)
    (h : readMembers shape depth (fuel + 1) first s = .ok (members, rest)) :
    ∀ m ∈ members, Within depth m.2 := by
  -- the same three ways as for a list, with a brace at the end
  unfold readMembers at h
  split at h
  · cases h
  split at h
  · cases h
    simp
  split at h
  · exact ih.member hsolid h
  split at h
  · cases h
  split at h
  · cases h
  split at h
  · cases h
  exact ih.member hsolid h

theorem readMember_within_succ {members : List (String × Json)} (ih : DeliverWithin fuel)
    (hsolid : shape.Solid) (h : readMember shape depth (fuel + 1) s = .ok (members, rest)) :
    ∀ m ∈ members, Within depth m.2 := by
  unfold readMember at h
  split at h
  · cases h
  split at h
  · cases h
  rcases exists_of_bind_eq_ok h with ⟨⟨key, after⟩, -, h⟩
  simp only at h
  split at h
  · cases h
  split at h
  · cases h
  rcases exists_of_bind_eq_ok h with ⟨⟨value, behind⟩, hvalue, h⟩
  rcases exists_of_bind_eq_ok h with ⟨⟨more, last⟩, hmore, heq⟩
  -- a member that is skipped was read, and is not among those delivered
  cases hkept : (shape.ofMember key).isSkipped with
  | true =>
      simp only [hkept, if_true] at heq
      cases heq
      exact ih.members hsolid hmore
  | false =>
      simp only [hkept] at heq
      cases heq
      intro m hm
      rcases List.mem_cons.1 hm with rfl | hm
      · exact ih.value (hsolid.ofMember hkept) hvalue
      · exact ih.members hsolid hmore m hm

end Step

theorem deliverWithin (fuel : Nat) : DeliverWithin fuel := by
  induction fuel with
  | zero =>
      -- without fuel no reader delivers anything
      constructor
      · intro shape depth s rest doc _ h
        simp [readValue, failAt] at h
      · intro shape depth index s rest items _ h
        simp [readItems, failAt] at h
      · intro shape depth index s rest items _ h
        simp [readItem, failAt] at h
      · intro shape depth first s rest members _ h
        simp [readMembers, failAt] at h
      · intro shape depth s rest members _ h
        simp [readMember, failAt] at h
  | succ fuel ih =>
      exact {
        value := readValue_within_succ ih
        items := readItems_within_succ ih
        item := readItem_within_succ ih
        members := readMembers_within_succ ih
        member := readMember_within_succ ih }

theorem readValue_within {shape : Shape} {depth fuel : Nat} {s rest : List Char} {doc : Json}
    (hsolid : shape.Solid) (h : readValue shape depth fuel s = .ok (doc, rest)) :
    Within depth doc :=
  (deliverWithin fuel).value hsolid h

theorem within_of_read? {shape : Shape} {text : String} {doc : Json} (hsolid : shape.Solid)
    (h : read? shape text = some doc) : Within depthLimit doc := by
  unfold read? at h
  cases hread : readChars shape text.toList with
  | error failure => simp [hread, Except.toOption] at h
  | ok result =>
      obtain rfl : result = doc := by simpa [hread, Except.toOption] using h
      -- behind the document only blanks may follow
      rcases exists_of_bind_eq_ok hread with ⟨⟨value, rest⟩, hvalue, hrest⟩
      simp only at hrest
      split at hrest
      · cases hrest
        exact readValue_within hsolid hvalue
      · cases hrest

theorem within_of_parse? {text : String} {doc : Json} (h : parse? text = some doc) :
    Within depthLimit doc := by
  rcases Option.map_eq_some_iff.1 h with ⟨full, hfull, rfl⟩
  have hread : read? .any text = some full := hfull
  exact (within_of_read? .any hread).sorted

theorem sorted_of_parse? {text : String} {doc : Json} (h : parse? text = some doc) :
    doc.sorted = doc := by
  rcases Option.map_eq_some_iff.1 h with ⟨full, -, rfl⟩
  exact sorted_sorted full

end Json

end StubConsole
