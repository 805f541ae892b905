import StubConsole.Proofs.Json.Scalars
import StubConsole.Proofs.Json.Spelling

/-!
# ReadBack — the reader undoes the printer

A document without fractions that is nested no deeper than the reader allows is read from either of
its written forms as it is, provided the reader is told to keep all of it.

* `Json.Shape.Covers` — the parts that a shape keeps are all there are;
* `Json.readValue_spell` — the reader on a spelling, by induction on the document;
* `Json.read?_compact`, `Json.read?_pretty` — the two written forms.
-/

namespace StubConsole

namespace Json

/-! ## Shapes that keep a document -/

/-- Nothing of the document is passed over. -/
inductive Shape.Covers : Shape → Json → Prop where
  | any (doc : Json) : Covers .any doc
  | members {shape : Shape} {members : List (String × Json)} :
      shape.isSkipped = false → (∀ m ∈ members, Covers (shape.ofMember m.1) m.2) →
        Covers shape (.obj members)
  | items {item : Shape} {items : List Json} :
      (∀ i ∈ items, Covers item i) → Covers (.each item) (.arr items)

namespace Shape.Covers

variable {shape : Shape} {doc : Json}

theorem isSkipped_eq_false (h : shape.Covers doc) : shape.isSkipped = false := by
  cases h with
  | any => rfl
  | members hkept => exact hkept
  | items => rfl

theorem ofMember {members : List (String × Json)} (h : shape.Covers (.obj members)) :
    ∀ m ∈ members, (shape.ofMember m.1).Covers m.2 := by
  cases h with
  | any => exact fun m _ => .any m.2
  | members _ hmembers => exact hmembers

theorem ofItem {items : List Json} (h : shape.Covers (.arr items)) :
    ∀ index, ∀ item ∈ items, (shape.ofItem index).Covers item := by
  cases h with
  | any => exact fun _ item _ => .any item
  | items hitems => exact fun _ => hitems

end Shape.Covers

/-! ## Blanks -/

theorem skipSpace_append {blank rest : List Char} (h : ∀ c ∈ blank, isSpace c = true) :
    skipSpace (blank ++ rest) = skipSpace rest :=
  List.dropWhile_append_of_pos h

theorem skipSpace_cons {c : Char} {rest : List Char} (h : isSpace c = false) :
    skipSpace (c :: rest) = c :: rest := by
  simp [skipSpace, List.dropWhile, h]

theorem endsNumber_append {blank rest : List Char} (h : ∀ c ∈ blank, isSpace c = true)
    (hrest : EndsNumber rest) : EndsNumber (blank ++ rest) := by
  cases blank with
  | nil => exact hrest
  | cons c more =>
      have hc : isSpace c = true := h c List.mem_cons_self
      simp only [isSpace, Bool.or_eq_true, decide_eq_true_eq] at hc
      rcases hc with ((rfl | rfl) | rfl) | rfl <;>
        exact endsNumber_cons (by decide) (by decide) (by decide) (by decide)

/-! ## Scalars -/

theorem readValue_append {blank s : List Char} {shape : Shape} {depth fuel : Nat}
    (h : ∀ c ∈ blank, isSpace c = true) :
    readValue shape depth (fuel + 1) (blank ++ s) = readValue shape depth (fuel + 1) s := by
  simp only [readValue, skipSpace_append h]

theorem isSpace_of_isDigit {c : Char} (h : c.isDigit = true) : isSpace c = false := by
  cases hspace : isSpace c with
  | false => rfl
  | true =>
      simp only [isSpace, Bool.or_eq_true, decide_eq_true_eq] at hspace
      rcases hspace with ((rfl | rfl) | rfl) | rfl <;> exact absurd h (by decide)

theorem ne_of_isDigit {c d : Char} (hc : c.isDigit = true) (hd : d.isDigit = false) : c ≠ d := by
  rintro rfl
  rw [hc] at hd
  cases hd

theorem readValue_whole {shape : Shape} {depth fuel : Nat} {n : Int} {rest : List Char}
    (hn : (Number.whole n).InWord) (hrest : EndsNumber rest) :
    readValue shape depth (fuel + 1) (Text.decimalInt n ++ rest)
      = .ok (.num (.whole n), rest) := by
  rcases hn with ⟨hleast, hgreatest⟩
  have hfits : n.natAbs ≤ maxWord := by
    simp only [maxWord] at hgreatest ⊢
    omega
  -- the reader takes the sign apart and reads the digits of the absolute value
  by_cases hneg : n < 0
  · have hvalue : wholeNumber true n.natAbs = .whole n := by
      have hzero : ¬ n.natAbs = 0 := by omega
      have hsmall : ¬ n.natAbs > 0x8000000000000000 := by omega
      have habs : -(n.natAbs : Int) = n := by omega
      simp only [wholeNumber, Bool.not_true, hzero, hsmall, decide_false, Bool.or_self, habs]
      rfl
    have hnumber : ∀ kept, readNumber true kept (Text.decimal n.natAbs ++ rest)
        = .ok (.whole n, rest) := by
      intro kept
      rw [readNumber_decimal hfits hrest, hvalue]
    rw [Text.decimalInt, if_pos hneg, List.cons_append, readValue, skipSpace_cons (by decide)]
    simp [hnumber, bind, Except.bind, pure, Except.pure]
  · have hvalue : wholeNumber false n.natAbs = .whole n := by
      have habs : (n.natAbs : Int) = n := by omega
      simp only [wholeNumber, Bool.not_false, if_true, habs]
    have hnumber : ∀ kept, readNumber false kept (Text.decimal n.natAbs ++ rest)
        = .ok (.whole n, rest) := by
      intro kept
      rw [readNumber_decimal hfits hrest, hvalue]
    rcases exists_decimal_eq_cons n.natAbs with ⟨c, cs, hdecimal, hc, -⟩
    rw [hdecimal, List.cons_append] at hnumber
    rw [Text.decimalInt, if_neg hneg, hdecimal, List.cons_append, readValue,
      skipSpace_cons (isSpace_of_isDigit hc)]
    have hnull : c ≠ 'n' := ne_of_isDigit hc (by decide)
    have htrue : c ≠ 't' := ne_of_isDigit hc (by decide)
    have hfalse : c ≠ 'f' := ne_of_isDigit hc (by decide)
    have hminus : c ≠ '-' := ne_of_isDigit hc (by decide)
    -- a digit opens none of the other values
    simp [hnull, htrue, hfalse, hminus, hc, hnumber, bind, Except.bind, pure, Except.pure]

theorem readText_quoted_append (s : String) (rest : List Char) :
    readText true [] (s.toList.flatMap escape ++ '"' :: rest).length
        (s.toList.flatMap escape ++ '"' :: rest)
      = .ok (s, rest) := by
  have hfuel : s.toList.length < (s.toList.flatMap escape ++ '"' :: rest).length := by
    have hescape := length_le_flatMap_escape s.toList
    simp only [List.length_append, List.length_cons]
    omega
  rw [readText_quoted hfuel]
  simp

theorem readValue_quoted {shape : Shape} {depth fuel : Nat} {s : String} {rest : List Char}
    (hkept : shape.isSkipped = false) :
    readValue shape depth (fuel + 1) (quoted s ++ rest) = .ok (.str s, rest) := by
  have htext := readText_quoted_append s rest
  rw [quoted, List.cons_append, List.cons_append, List.append_assoc, List.cons_append,
    List.nil_append, readValue, skipSpace_cons (by decide)]
  simp only [hkept, Bool.not_false, htext]
  simp [Char.isDigit, bind, Except.bind, pure, Except.pure]

/-! ## Items and members -/

/-- The reader gets a document back from its spelling at any level, whatever follows. -/
def ReadsBack (style : Style) (depth : Nat) (doc : Json) : Prop :=
  ∀ {shape : Shape} {level fuel : Nat} {rest : List Char}, shape.Covers doc → EndsNumber rest →
    4 * (doc.spell style level).length ≤ fuel →
      readValue shape depth fuel (doc.spell style level ++ rest) = .ok (doc, rest)

/-- A spelling opens with a character that is no blank and closes nothing. -/
theorem exists_spell_eq_cons {doc : Json} (hwhole : doc.isWhole = true) (style : Style)
    (level : Nat) :
    ∃ c cs, doc.spell style level = c :: cs ∧ isSpace c = false ∧ c ≠ ']' := by
  cases doc with
  | null => exact ⟨_, _, rfl, by decide, by decide⟩
  | bool b => cases b <;> exact ⟨_, _, rfl, by decide, by decide⟩
  | num n =>
      cases n with
      | float bits => simp [isWhole] at hwhole
      | whole n =>
          by_cases hneg : n < 0
          · refine ⟨'-', Text.decimal n.natAbs, ?_, by decide, by decide⟩
            simp [spell, Number.text, Text.decimalInt, hneg]
          · rcases exists_decimal_eq_cons n.natAbs with ⟨c, cs, hdecimal, hc, -⟩
            refine ⟨c, cs, ?_, isSpace_of_isDigit hc, ?_⟩
            · simp [spell, Number.text, Text.decimalInt, hneg, hdecimal]
            · exact ne_of_isDigit hc (by decide)
  | str s => exact ⟨'"', _, rfl, by decide, by decide⟩
  | arr items => exact ⟨'[', _, rfl, by decide, by decide⟩
  | obj members => exact ⟨'\x7b', _, rfl, by decide, by decide⟩

theorem endsNumber_spellMoreItems (style : Style) (level : Nat) (items : List Json)
    (rest : List Char) : EndsNumber (spellMoreItems style level items ++ ']' :: rest) := by
  cases items with
  | nil =>
      exact endsNumber_append (style.gap_blank level)
        (endsNumber_cons (by decide) (by decide) (by decide) (by decide))
  | cons item items => exact endsNumber_cons (by decide) (by decide) (by decide) (by decide)

theorem endsNumber_spellMoreMembers (style : Style) (level : Nat)
    (members : List (String × Json)) (rest : List Char) :
    EndsNumber (spellMoreMembers style level members ++ '\x7d' :: rest) := by
  cases members with
  | nil =>
      exact endsNumber_append (style.gap_blank level)
        (endsNumber_cons (by decide) (by decide) (by decide) (by decide))
  | cons m members => exact endsNumber_cons (by decide) (by decide) (by decide) (by decide)

section Parts

variable {style : Style} {depth : Nat} {shape : Shape}

theorem readItem_spell {item : Json} {items : List Json} {index fuel : Nat} (level : Nat)
    {s rest : List Char} (hitem : ReadsBack style depth item)
    (hcover : (shape.ofItem index).Covers item) (hends : EndsNumber s)
    (hfuel : 4 * (item.spell style level).length ≤ fuel)
    (hmore : readItems shape depth fuel (index + 1) s = .ok (items, rest)) :
    readItem shape depth (fuel + 1) index (item.spell style level ++ s)
      = .ok (item :: items, rest) := by
  rw [readItem, hitem hcover hends hfuel]
  simp [hmore, bind, Except.bind, pure, Except.pure]

/-- Behind an item each step of reading passes one comma, hence the fuel for a list that follows. -/
theorem readItems_spellMore {rest : List Char} {level : Nat} :
    ∀ {items : List Json} {index fuel : Nat},
      (∀ i ∈ items, i.isWhole = true) → (∀ i ∈ items, ReadsBack style depth i) →
      (∀ index, ∀ i ∈ items, (shape.ofItem index).Covers i) →
      4 * (spellMoreItems style level items).length + 1 ≤ fuel →
        readItems shape depth fuel (index + 1) (spellMoreItems style level items ++ ']' :: rest)
          = .ok (items, rest) := by
  intro items
  induction items with
  | nil =>
      intro index fuel _ _ _ hfuel
      rcases Nat.exists_eq_add_of_le' (show 1 ≤ fuel by omega) with ⟨fuel, rfl⟩
      rw [readItems, spellMoreItems, skipSpace_append (style.gap_blank level),
        skipSpace_cons (by decide)]
      simp
  | cons item items ih =>
      intro index fuel hwhole hreads hcover hfuel
      simp only [spellMoreItems, List.length_cons, List.length_append] at hfuel
      rcases Nat.exists_eq_add_of_le' (show 2 ≤ fuel by omega) with ⟨fuel, rfl⟩
      -- one step for the comma, one for the item, and the rest by induction
      have hmore : readItems shape depth fuel (index + 2)
          (spellMoreItems style level items ++ ']' :: rest) = .ok (items, rest) :=
        ih (fun i hi => hwhole i (List.mem_cons_of_mem _ hi))
          (fun i hi => hreads i (List.mem_cons_of_mem _ hi))
          (fun k i hi => hcover k i (List.mem_cons_of_mem _ hi)) (by omega)
      have hread := readItem_spell (level + 1)
        (hreads item List.mem_cons_self) (hcover (index + 1) item List.mem_cons_self)
        (endsNumber_spellMoreItems style level items rest) (by omega) hmore
      -- the reader looks at the first character to see that the list goes on
      obtain ⟨c, cs, hspell, hspace, hclose⟩ :=
        exists_spell_eq_cons (hwhole item List.mem_cons_self) style (level + 1)
      rw [hspell, List.cons_append] at hread
      rw [readItems, spellMoreItems, List.cons_append, List.cons_append, List.cons_append,
        skipSpace_cons (by decide), List.append_assoc, List.append_assoc, hspell]
      simp [skipSpace_append (style.gap_blank (level + 1)), skipSpace_cons hspace, hclose, hread]

theorem readItems_spell (rest : List Char) (level fuel : Nat) {items : List Json}
    (hwhole : ∀ i ∈ items, i.isWhole = true) (hreads : ∀ i ∈ items, ReadsBack style depth i)
    (hcover : ∀ index, ∀ i ∈ items, (shape.ofItem index).Covers i)
    (hfuel : 4 * (spellItems style level items).length + 3 ≤ fuel) :
    readItems shape depth fuel 0 (spellItems style level items ++ ']' :: rest)
      = .ok (items, rest) := by
  cases items with
  | nil =>
      rcases Nat.exists_eq_add_of_le' (show 1 ≤ fuel by omega) with ⟨fuel, rfl⟩
      rw [readItems, spellItems, List.nil_append, skipSpace_cons (by decide)]
      simp
  | cons item items =>
      obtain ⟨c, cs, hspell, hspace, hclose⟩ :=
        exists_spell_eq_cons (hwhole item List.mem_cons_self) style (level + 1)
      have hlength : 1 ≤ (item.spell style (level + 1)).length := by simp [hspell]
      simp only [spellItems, List.length_append] at hfuel
      rcases Nat.exists_eq_add_of_le' (show 2 ≤ fuel by omega) with ⟨fuel, rfl⟩
      -- the first item has no comma in front, so it is not a case of the lemma above
      have hmore : readItems shape depth fuel 1
          (spellMoreItems style level items ++ ']' :: rest) = .ok (items, rest) :=
        readItems_spellMore (fun i hi => hwhole i (List.mem_cons_of_mem _ hi))
          (fun i hi => hreads i (List.mem_cons_of_mem _ hi))
          (fun k i hi => hcover k i (List.mem_cons_of_mem _ hi)) (by omega)
      have hread := readItem_spell (level + 1)
        (hreads item List.mem_cons_self) (hcover 0 item List.mem_cons_self)
        (endsNumber_spellMoreItems style level items rest) (by omega) hmore
      rw [hspell, List.cons_append] at hread
      rw [readItems, spellItems, List.append_assoc, List.append_assoc,
        skipSpace_append (style.gap_blank (level + 1)), hspell, List.cons_append,
        skipSpace_cons hspace]
      simp [hclose, hread]

theorem readMember_spell {m : String × Json} {members : List (String × Json)} {fuel : Nat}
    (level : Nat) {s rest : List Char} (hkept : shape.isSkipped = false)
    (hvalue : ReadsBack style depth m.2)
    (hcover : (shape.ofMember m.1).Covers m.2) (hends : EndsNumber s)
    (hfuel : 4 * (m.2.spell style level).length ≤ fuel) (hpos : 0 < fuel)
    (hmore : readMembers shape depth fuel false s = .ok (members, rest)) :
    readMember shape depth (fuel + 1)
        (quoted m.1 ++ ':' :: (style.space ++ (m.2.spell style level ++ s)))
      = .ok (m :: members, rest) := by
  rcases Nat.exists_eq_add_of_le' (show 1 ≤ fuel by omega) with ⟨fuel, rfl⟩
  have hkey := readText_quoted_append m.1 (':' :: (style.space ++ (m.2.spell style level ++ s)))
  have hread := hvalue hcover hends hfuel
  -- the opening quote was taken by the caller, the closing one is taken with the key
  rw [quoted, List.cons_append, List.cons_append, List.append_assoc, List.cons_append,
    List.nil_append, readMember]
  simp only [hkept, Bool.not_false, hkey, bind, Except.bind, skipSpace_cons (c := ':') rfl,
    readValue_append style.space_blank, hread, hmore, pure, Except.pure, hcover.isSkipped_eq_false]
  simp

theorem readMembers_spellMore {rest : List Char} {level : Nat} (hkept : shape.isSkipped = false) :
    ∀ {members : List (String × Json)} {fuel : Nat},
      (∀ m ∈ members, ReadsBack style depth m.2) →
      (∀ m ∈ members, (shape.ofMember m.1).Covers m.2) →
      4 * (spellMoreMembers style level members).length + 1 ≤ fuel →
        readMembers shape depth fuel false
            (spellMoreMembers style level members ++ '\x7d' :: rest)
          = .ok (members, rest) := by
  intro members
  induction members with
  | nil =>
      intro fuel _ _ hfuel
      rcases Nat.exists_eq_add_of_le' (show 1 ≤ fuel by omega) with ⟨fuel, rfl⟩
      rw [readMembers, spellMoreMembers, skipSpace_append (style.gap_blank level),
        skipSpace_cons (by decide)]
      simp
  | cons m members ih =>
      intro fuel hreads hcover hfuel
      simp only [spellMoreMembers, List.length_cons, List.length_append] at hfuel
      rcases Nat.exists_eq_add_of_le' (show 2 ≤ fuel by omega) with ⟨fuel, rfl⟩
      -- one step for the comma, one for the key with its value, and the rest by induction
      have hmore : readMembers shape depth fuel false
          (spellMoreMembers style level members ++ '\x7d' :: rest) = .ok (members, rest) :=
        ih (fun e he => hreads e (List.mem_cons_of_mem _ he))
          (fun e he => hcover e (List.mem_cons_of_mem _ he)) (by omega)
      have hread := readMember_spell (level + 1) hkept (hreads m List.mem_cons_self)
        (hcover m List.mem_cons_self) (endsNumber_spellMoreMembers style level members rest)
        (by omega) (by omega) hmore
      rw [quoted] at hread
      rw [readMembers, spellMoreMembers, quoted]
      simp only [List.cons_append, List.append_assoc, List.nil_append] at hread ⊢
      rw [skipSpace_cons (by decide)]
      simp [skipSpace_append (style.gap_blank (level + 1)), skipSpace_cons (c := '"') rfl, hread]

theorem readMembers_spell (rest : List Char) (level fuel : Nat) {members : List (String × Json)}
    (hkept : shape.isSkipped = false) (hreads : ∀ m ∈ members, ReadsBack style depth m.2)
    (hcover : ∀ m ∈ members, (shape.ofMember m.1).Covers m.2)
    (hfuel : 4 * (spellMembers style level members).length + 3 ≤ fuel) :
    readMembers shape depth fuel true (spellMembers style level members ++ '\x7d' :: rest)
      = .ok (members, rest) := by
  cases members with
  | nil =>
      rcases Nat.exists_eq_add_of_le' (show 1 ≤ fuel by omega) with ⟨fuel, rfl⟩
      rw [readMembers, spellMembers, List.nil_append, skipSpace_cons (by decide)]
      simp
  | cons m members =>
      simp only [spellMembers, List.length_cons, List.length_append] at hfuel
      rcases Nat.exists_eq_add_of_le' (show 2 ≤ fuel by omega) with ⟨fuel, rfl⟩
      have hmore : readMembers shape depth fuel false
          (spellMoreMembers style level members ++ '\x7d' :: rest) = .ok (members, rest) :=
        readMembers_spellMore hkept (fun e he => hreads e (List.mem_cons_of_mem _ he))
          (fun e he => hcover e (List.mem_cons_of_mem _ he)) (by omega)
      have hread := readMember_spell (level + 1) hkept (hreads m List.mem_cons_self)
        (hcover m List.mem_cons_self) (endsNumber_spellMoreMembers style level members rest)
        (by omega) (by omega) hmore
      rw [quoted] at hread
      rw [readMembers, spellMembers, quoted]
      simp only [List.cons_append, List.append_assoc, List.nil_append] at hread ⊢
      rw [skipSpace_append (style.gap_blank (level + 1)), skipSpace_cons (by decide)]
      simp [hread]

end Parts

/-! ## Documents -/

/-- The induction is on the levels of the document, which the reader counts down. -/
theorem readValue_spell {depth : Nat} {doc : Json} (hwithin : Within depth doc)
    (hwhole : doc.isWhole = true) (style : Style) : ReadsBack style depth doc := by
  induction hwithin with
  | null =>
      intro shape level fuel rest _ _ hfuel
      rcases Nat.exists_eq_add_of_le' (show 1 ≤ fuel by simp [spell] at hfuel; omega) with
        ⟨fuel, rfl⟩
      simp [spell, readValue, skipSpace_cons (c := 'n') rfl, readWord]
  | bool b =>
      intro shape level fuel rest _ _ hfuel
      cases b <;>
        · rcases Nat.exists_eq_add_of_le' (show 1 ≤ fuel by simp [spell] at hfuel; omega) with
            ⟨fuel, rfl⟩
          simp [spell, readValue, skipSpace, isSpace, readWord]
  | num hn =>
      rename_i n
      intro shape level fuel rest _ hends hfuel
      cases n with
      | float bits => simp [isWhole] at hwhole
      | whole n =>
          rcases exists_spell_eq_cons hwhole style level with ⟨c, cs, hspell, -, -⟩
          rw [hspell] at hfuel
          rcases Nat.exists_eq_add_of_le' (show 1 ≤ fuel by simp at hfuel; omega) with ⟨fuel, rfl⟩
          exact readValue_whole hn hends
  | str s =>
      intro shape level fuel rest hcover _ hfuel
      obtain ⟨fuel, rfl⟩ : ∃ f, fuel = f + 1 :=
        ⟨fuel - 1, by simp [spell, quoted] at hfuel; omega⟩
      exact readValue_quoted hcover.isSkipped_eq_false
  | arr _ ih =>
      intro shape level fuel rest hcover _ hfuel
      -- a bracket takes one level, and the items have the levels that are left
      have hitems := (isWhole_arr _).1 hwhole
      simp only [spell, List.length_cons, List.length_append] at hfuel
      rcases Nat.exists_eq_add_of_le' (show 1 ≤ fuel by omega) with ⟨fuel, rfl⟩
      have hread := readItems_spell rest level fuel
        hitems (fun i hi => ih i hi (hitems i hi)) hcover.ofItem (by omega)
      rw [spell, List.cons_append, List.cons_append, List.append_assoc, List.cons_append,
        List.nil_append, readValue, skipSpace_cons (by decide)]
      simp [enter, hcover.isSkipped_eq_false, hread, bind, Except.bind, pure, Except.pure]
  | obj _ ih =>
      intro shape level fuel rest hcover _ hfuel
      -- as for a list, with the keys of the members under their own shapes
      have hmembers := (isWhole_obj _).1 hwhole
      simp only [spell, List.length_cons, List.length_append] at hfuel
      rcases Nat.exists_eq_add_of_le' (show 1 ≤ fuel by omega) with ⟨fuel, rfl⟩
      have hread := readMembers_spell rest level fuel
        hcover.isSkipped_eq_false (fun m hm => ih m hm (hmembers m hm))
        hcover.ofMember (by omega)
      rw [spell, List.cons_append, List.cons_append, List.append_assoc, List.cons_append,
        List.nil_append, readValue, skipSpace_cons (by decide)]
      simp [enter, hcover.isSkipped_eq_false, hread, bind, Except.bind, pure, Except.pure]

section Texts

variable {doc : Json} {shape : Shape}

theorem readChars_spell (hwithin : Within depthLimit doc) (hwhole : doc.isWhole = true)
    (hcover : shape.Covers doc) (style : Style) :
    readChars shape (doc.spell style 0) = .ok doc := by
  have hread : readValue shape depthLimit (4 * (doc.spell style 0).length + 4)
      (doc.spell style 0 ++ []) = .ok (doc, []) :=
    readValue_spell hwithin hwhole style hcover endsNumber_nil (by omega)
  rw [List.append_nil] at hread
  simp [readChars, hread, skipSpace, bind, Except.bind, pure, Except.pure]

theorem read?_compact (hwithin : Within depthLimit doc) (hwhole : doc.isWhole = true)
    (hcover : shape.Covers doc) : read? shape doc.compact = some doc := by
  have hread : readChars shape (doc.compactChars) = .ok doc := by
    rw [compactChars_eq_spell doc 0]
    exact readChars_spell hwithin hwhole hcover .compact
  calc
    read? shape doc.compact = (readChars shape doc.compactChars).toOption := by
      rw [read?, compact, String.toList_ofList]
    _ = some doc := by rw [hread]; rfl

theorem read?_pretty (hwithin : Within depthLimit doc) (hwhole : doc.isWhole = true)
    (hcover : shape.Covers doc) : read? shape doc.pretty = some doc := by
  have hread : readChars shape (doc.prettyChars 0) = .ok doc := by
    rw [prettyChars_eq_spell doc 0]
    exact readChars_spell hwithin hwhole hcover .pretty
  calc
    read? shape doc.pretty = (readChars shape (doc.prettyChars 0)).toOption := by
      rw [read?, pretty, String.toList_ofList]
    _ = some doc := by rw [hread]; rfl

end Texts

end Json

end StubConsole
