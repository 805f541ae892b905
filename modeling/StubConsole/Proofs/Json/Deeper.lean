import StubConsole.Proofs.Json.Delivered
import StubConsole.Proofs.Json.ReadBack

/-!
# Deeper — what is written deeper than the reader goes is not read

The budget of levels decides only whether a document is read, never what is read.  So a document
that is written with more levels than the budget allows cannot be taken for another one.

* `Json.Roomy` — with more levels every reader delivers the same;
* `Json.readValue_of_le` — the documents, by induction on the fuel;
* `Json.within_of_readChars_spell` — a written document that is read fits the budget.
-/

namespace StubConsole

namespace Json

/-! ## Reading with more levels -/

theorem bind_eq_ok_of {ε α β : Type} {x : Except ε α} {f : α → Except ε β} {a : α} {b : β}
    (hx : x = .ok a) (hf : f a = .ok b) : (x >>= f) = .ok b := by
  rw [hx]
  exact hf

/-- With so much fuel all five readers deliver with more levels what they deliver with fewer. -/
structure Roomy (fuel : Nat) : Prop where
  value : ∀ {shape : Shape} {depth budget : Nat} {s : List Char} {r : Json × List Char},
    depth ≤ budget → readValue shape depth fuel s = .ok r → readValue shape budget fuel s = .ok r
  items : ∀ {shape : Shape} {depth budget index : Nat} {s : List Char}
    {r : List Json × List Char}, depth ≤ budget →
    readItems shape depth fuel index s = .ok r → readItems shape budget fuel index s = .ok r
  item : ∀ {shape : Shape} {depth budget index : Nat} {s : List Char}
    {r : List Json × List Char}, depth ≤ budget →
    readItem shape depth fuel index s = .ok r → readItem shape budget fuel index s = .ok r
  members : ∀ {shape : Shape} {depth budget : Nat} {first : Bool} {s : List Char}
    {r : List (String × Json) × List Char}, depth ≤ budget →
    readMembers shape depth fuel first s = .ok r → readMembers shape budget fuel first s = .ok r
  member : ∀ {shape : Shape} {depth budget : Nat} {s : List Char}
    {r : List (String × Json) × List Char}, depth ≤ budget →
    readMember shape depth fuel s = .ok r → readMember shape budget fuel s = .ok r

section Step

variable {fuel : Nat} {shape : Shape} {depth budget : Nat} {s : List Char}

theorem exists_enter_of_le {inner : Nat} (hle : depth ≤ budget)
    (h : enter shape depth s = .ok inner) :
    ∃ more, enter shape budget s = .ok more ∧ inner ≤ more := by
  unfold enter at h ⊢
  cases hskipped : shape.isSkipped with
  | true =>
      rw [hskipped] at h
      cases h
      exact ⟨budget, rfl, hle⟩
  | false =>
      rw [hskipped] at h
      cases depth with
      | zero => cases h
      | succ depth =>
          cases h
          rcases Nat.exists_eq_add_of_le' (Nat.le_trans (Nat.succ_pos inner) hle) with
            ⟨more, rfl⟩
          exact ⟨more, rfl, Nat.le_of_succ_le_succ hle⟩

theorem readValue_of_le_succ {r : Json × List Char} (ih : Roomy fuel) (hle : depth ≤ budget)
    (h : readValue shape depth (fuel + 1) s = .ok r) :
    readValue shape budget (fuel + 1) s = .ok r := by
  unfold readValue at h ⊢
  split at h
  · cases h
  rename_i c more hskip
  -- only a bracket or a brace looks at the budget
  by_cases hbracket : c = '['
  · subst hbracket
    rcases exists_of_bind_eq_ok h with ⟨inner, henter, h⟩
    rcases exists_of_bind_eq_ok h with ⟨result, hread, h⟩
    rcases exists_enter_of_le hle henter with ⟨room, hroom, hinner⟩
    exact bind_eq_ok_of hroom (bind_eq_ok_of (ih.items hinner hread) h)
  by_cases hbrace : c = '\x7b'
  · subst hbrace
    rcases exists_of_bind_eq_ok h with ⟨inner, henter, h⟩
    rcases exists_of_bind_eq_ok h with ⟨result, hread, h⟩
    rcases exists_enter_of_le hle henter with ⟨room, hroom, hinner⟩
    exact bind_eq_ok_of hroom (bind_eq_ok_of (ih.members hinner hread) h)
  simp only [if_neg hbracket, if_neg hbrace] at h ⊢
  exact h

theorem readItems_of_le_succ {index : Nat} {r : List Json × List Char} (ih : Roomy fuel)
    (hle : depth ≤ budget) (h : readItems shape depth (fuel + 1) index s = .ok r) :
    readItems shape budget (fuel + 1) index s = .ok r := by
  unfold readItems at h ⊢
  split at h
  · cases h
  split at h
  next hend =>
    rw [if_pos hend]
    exact h
  next hend =>
    rw [if_neg hend]
    split at h
    next hfirst =>
      rw [if_pos hfirst]
      exact ih.item hle h
    next hfirst =>
      rw [if_neg hfirst]
      split at h
      · cases h
      next hcomma =>
        rw [if_neg hcomma]
        split at h
        · cases h
        next hskip =>
          split at h
          · cases h
          next htrailing =>
            rw [if_neg htrailing]
            exact ih.item hle h

theorem readItem_of_le_succ {index : Nat} {r : List Json × List Char} (ih : Roomy fuel)
    (hle : depth ≤ budget) (h : readItem shape depth (fuel + 1) index s = .ok r) :
    readItem shape budget (fuel + 1) index s = .ok r := by
  unfold readItem at h ⊢
  rcases exists_of_bind_eq_ok h with ⟨item, hitem, h⟩
  rcases exists_of_bind_eq_ok h with ⟨items, hitems, h⟩
  exact bind_eq_ok_of (ih.value hle hitem) (bind_eq_ok_of (ih.items hle hitems) h)

theorem readMembers_of_le_succ {first : Bool} {r : List (String × Json) × List Char}
    (ih : Roomy fuel) (hle : depth ≤ budget)
    (h : readMembers shape depth (fuel + 1) first s = .ok r) :
    readMembers shape budget (fuel + 1) first s = .ok r := by
  unfold readMembers at h ⊢
  split at h
  · cases h
  split at h
  next hend =>
    rw [if_pos hend]
    exact h
  next hend =>
    rw [if_neg hend]
    split at h
    next hfirst =>
      rw [if_pos hfirst]
      exact ih.member hle h
    next hfirst =>
      rw [if_neg hfirst]
      split at h
      · cases h
      next hcomma =>
        rw [if_neg hcomma]
        split at h
        · cases h
        next hskip =>
          split at h
          · cases h
          next htrailing =>
            rw [if_neg htrailing]
            exact ih.member hle h

theorem readMember_of_le_succ {r : List (String × Json) × List Char} (ih : Roomy fuel)
    (hle : depth ≤ budget) (h : readMember shape depth (fuel + 1) s = .ok r) :
    readMember shape budget (fuel + 1) s = .ok r := by
  unfold readMember at h ⊢
  split at h
  · cases h
  split at h
  · cases h
  next hquote =>
    rw [if_neg hquote]
    rcases exists_of_bind_eq_ok h with ⟨⟨key, after⟩, hkey, h⟩
    refine bind_eq_ok_of hkey ?_
    simp only at h ⊢
    split at h
    · cases h
    split at h
    · cases h
    next hcolon =>
      rw [if_neg hcolon]
      rcases exists_of_bind_eq_ok h with ⟨value, hvalue, h⟩
      rcases exists_of_bind_eq_ok h with ⟨members, hmembers, h⟩
      exact bind_eq_ok_of (ih.value hle hvalue) (bind_eq_ok_of (ih.members hle hmembers) h)

end Step

theorem roomy (fuel : Nat) : Roomy fuel := by
  induction fuel with
  | zero =>
      constructor
      · intro shape depth budget s r _ h
        simp [readValue, failAt] at h
      · intro shape depth budget index s r _ h
        simp [readItems, failAt] at h
      · intro shape depth budget index s r _ h
        simp [readItem, failAt] at h
      · intro shape depth budget first s r _ h
        simp [readMembers, failAt] at h
      · intro shape depth budget s r _ h
        simp [readMember, failAt] at h
  | succ fuel ih =>
      exact {
        value := readValue_of_le_succ ih
        items := readItems_of_le_succ ih
        item := readItem_of_le_succ ih
        members := readMembers_of_le_succ ih
        member := readMember_of_le_succ ih }

theorem readValue_of_le {shape : Shape} {depth budget fuel : Nat} {s : List Char}
    {r : Json × List Char} (hle : depth ≤ budget) (h : readValue shape depth fuel s = .ok r) :
    readValue shape budget fuel s = .ok r :=
  (roomy fuel).value hle h

/-! ## Documents written with too many levels -/

section Written

variable {doc : Json} {shape : Shape} {depth : Nat}

/-- The reader would deliver the document itself if it had the levels, so what it does deliver with
its own is the document, which therefore has no more levels than those. -/
theorem within_of_readChars_spell (hsolid : shape.Solid) (hwithin : Within depth doc)
    (hwhole : doc.isWhole = true) (hcover : shape.Covers doc) {style : Style} {result : Json}
    (h : readChars shape (doc.spell style 0) = .ok result) : Within depthLimit doc := by
  rcases exists_of_bind_eq_ok h with ⟨⟨delivered, rest⟩, hread, -⟩
  have hdeep : readValue shape (max depth depthLimit) (4 * (doc.spell style 0).length + 4)
      (doc.spell style 0 ++ []) = .ok (doc, []) :=
    readValue_spell (hwithin.mono (Nat.le_max_left ..)) hwhole style hcover endsNumber_nil
      (by omega)
  have hmore := readValue_of_le (Nat.le_max_right depth depthLimit) hread
  rw [List.append_nil, hmore] at hdeep
  obtain ⟨rfl, rfl⟩ : delivered = doc ∧ rest = [] := by simpa using hdeep
  exact readValue_within hsolid hread

theorem within_of_read?_pretty (hsolid : shape.Solid) (hwithin : Within depth doc)
    (hwhole : doc.isWhole = true) (hcover : shape.Covers doc) {result : Json}
    (h : read? shape doc.pretty = some result) : Within depthLimit doc := by
  rw [read?, pretty, String.toList_ofList, prettyChars_eq_spell doc 0] at h
  cases hread : readChars shape (doc.spell .pretty 0) with
  | error failure => simp [hread, Except.toOption] at h
  | ok delivered => exact within_of_readChars_spell hsolid hwithin hwhole hcover hread

end Written

end Json

end StubConsole
