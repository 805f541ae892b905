import StubConsole.Proofs.Json.Deeper
import StubConsole.Proofs.Session.SaveTarget

/-!
# Skipping — what is passed over does not disturb what is kept

A text that is a document as a whole can be read for any shape, and what is delivered is the whole
document without the members that the shape passes over.

* `Json.keep` — the parts of a document that a shape keeps;
* `Json.readText_skipped`, `Json.readNumber_skipped` — passing over is never stricter than reading;
* `Json.readValue_keep` — the documents, by induction on the fuel;
* `Json.read?_keep` — the whole text.
-/

namespace StubConsole

namespace Json

/-! ## What a shape keeps -/

mutual

/-- The document without the members that the shape passes over. -/
def keep (shape : Shape) : Json → Json
  | .arr items => .arr (keepItems shape 0 items)
  | .obj members => .obj (keepMembers shape members)
  | .null => .null
  | .bool b => .bool b
  | .num n => .num n
  | .str s => .str s

def keepItems (shape : Shape) : Nat → List Json → List Json
  | _, [] => []
  | index, item :: rest => item.keep (shape.ofItem index) :: keepItems shape (index + 1) rest

def keepMembers (shape : Shape) : List (String × Json) → List (String × Json)
  | [] => []
  | (key, value) :: rest =>
      if (shape.ofMember key).isSkipped then keepMembers shape rest
      else (key, value.keep (shape.ofMember key)) :: keepMembers shape rest

end

theorem keepItems_any {items : List Json} (h : ∀ item ∈ items, item.keep .any = item)
    (index : Nat) : keepItems .any index items = items := by
  induction items generalizing index with
  | nil => rfl
  | cons item rest ih =>
      have hitem : item.keep .any = item := h item List.mem_cons_self
      have hrest := ih (fun i hi => h i (List.mem_cons_of_mem _ hi)) (index + 1)
      simp only [keepItems, Shape.ofItem, hitem, hrest]

theorem keepMembers_any {members : List (String × Json)} (h : ∀ m ∈ members, m.2.keep .any = m.2) :
    keepMembers .any members = members := by
  induction members with
  | nil => rfl
  | cons m rest ih =>
      have hm : m.2.keep .any = m.2 := h m List.mem_cons_self
      have hrest := ih fun e he => h e (List.mem_cons_of_mem _ he)
      simp [keepMembers, Shape.ofMember, Shape.isSkipped, hm, hrest]

@[simp] theorem keep_any (doc : Json) : doc.keep .any = doc := by
  induction doc using byParts with
  | null | bool | num | str => rfl
  | arr items ih => simp only [keep, keepItems_any ih]
  | obj members ih => simp only [keep, keepMembers_any ih]

/-- Under a name that is not passed over nothing is lost. -/
theorem membersNamed_keep {shape : Shape} {key : String}
    (hkept : (shape.ofMember key).isSkipped = false) (doc : Json) :
    (doc.keep shape).membersNamed key
      = (doc.membersNamed key).map fun value => value.keep (shape.ofMember key) := by
  cases doc with
  | obj members =>
      simp only [keep, membersNamed]
      induction members with
      | nil => rfl
      | cons m rest ih =>
          rcases m with ⟨name, value⟩
          by_cases hname : name = key
          · subst hname
            simp [keepMembers, hkept, ih]
          · by_cases hskipped : (shape.ofMember name).isSkipped = true
            · simp [keepMembers, hskipped, hname, ih]
            · simp [keepMembers, hskipped, hname, ih]
  | _ => rfl

/-! ## Numbers -/

section Numbers

variable {m : Magnitude} {negative : Bool} {s : List Char} {r : Number × List Char}

theorem finish_skipped (h : m.finish true s = .ok r) : m.finish false s = .ok r := by
  unfold Magnitude.finish at h ⊢
  split at h
  next heq => exact h
  next heq => cases h

theorem readExponent_skipped (h : readExponent m true s = .ok r) :
    readExponent m false s = .ok r := by
  unfold readExponent at h ⊢
  split at h
  next down digits heq =>
    split at h
    · cases h
    next c more =>
      split at h
      · cases h
      next hdigit =>
        simp only [if_neg hdigit]
        split at h
        next e rest hread => exact finish_skipped h
        next after rest hread =>
          -- out of range is no fault in what is passed over
          split at h
          · cases h
          · simpa using h

theorem readTail_skipped (h : readTail m true s = .ok r) : readTail m false s = .ok r := by
  unfold readTail at h ⊢
  split at h
  next c rest =>
    split at h
    next he =>
      rw [if_pos he]
      exact readExponent_skipped h
    next he =>
      rw [if_neg he]
      exact finish_skipped h
  next => exact finish_skipped h

theorem readFraction_skipped (h : readFraction m true s = .ok r) :
    readFraction m false s = .ok r := by
  unfold readFraction at h ⊢
  split at h
  · cases h
  next c rest =>
    split at h
    · cases h
    next hdigit =>
      rw [if_neg hdigit]
      exact readTail_skipped h

theorem readNumber_skipped (h : readNumber negative true s = .ok r) :
    readNumber negative false s = .ok r := by
  unfold readNumber at h ⊢
  split at h
  · cases h
  next c rest =>
    split at h
    · cases h
    next hdigit =>
      rw [if_neg hdigit]
      dsimp only at h ⊢
      split at h
      · cases h
      next hzero =>
        rw [if_neg hzero]
        split at h
        next after hpoint => exact readFraction_skipped h
        next hpoint =>
          split at h
          next hwhole =>
            rw [if_pos hwhole]
            exact h
          next hwhole =>
            rw [if_neg hwhole]
            exact readTail_skipped h

end Numbers

/-! ## Texts -/

section Texts

variable {s rest : List Char} {c : Char}

theorem readHex_shorter {n : Nat} (h : readHex s = .ok (n, rest)) : rest.length < s.length := by
  unfold readHex at h
  split at h
  · cases h
  split at h
  · split at h
    · cases h
      simp only [List.length_cons]
      omega
    · cases h
  · cases h

theorem readUnicode_false_of_readHex {n : Nat} (h : readHex s = .ok (n, rest)) :
    readUnicode false s = .ok ('?', rest) := by
  unfold readUnicode
  exact bind_eq_ok_of h rfl

theorem readUnicode_false_shorter (h : readUnicode false s = .ok (c, rest)) :
    rest.length < s.length := by
  rcases exists_of_bind_eq_ok h with ⟨⟨n, after⟩, hhex, heq⟩
  cases heq
  exact readHex_shorter hhex

/-- The two halves of a surrogate pair are one escape when they are read, and two when they are
passed over. -/
theorem readUnicode_skipped (h : readUnicode true s = .ok (c, rest)) :
    readUnicode false s = .ok ('?', rest)
      ∨ ∃ middle, readUnicode false s = .ok ('?', '\\' :: 'u' :: middle)
        ∧ readUnicode false middle = .ok ('?', rest) := by
  rcases exists_of_bind_eq_ok h with ⟨⟨n, after⟩, hhex, h⟩
  have hfirst : readUnicode false s = .ok ('?', after) := readUnicode_false_of_readHex hhex
  simp only [Bool.not_true, Bool.false_eq_true, if_false] at h
  split at h
  · cases h
  split at h
  · cases h
    exact Or.inl hfirst
  -- a leading half: the other one follows in an escape of its own
  split at h
  · cases h
  next d more =>
    split at h
    · cases h
    next hslash =>
      obtain rfl : d = '\\' := by simpa using hslash
      split at h
      · cases h
      next u digits =>
        split at h
        · cases h
        next hu =>
          obtain rfl : u = 'u' := by simpa using hu
          rcases exists_of_bind_eq_ok h with ⟨⟨m, behind⟩, hsecond, h⟩
          simp only at h
          split at h
          · cases h
          · obtain rfl : behind = rest := (Prod.mk.inj (Except.ok.inj h)).2
            exact Or.inr ⟨digits, hfirst, readUnicode_false_of_readHex hsecond⟩

theorem readEscape_false_shorter (h : readEscape false s = .ok (c, rest)) :
    rest.length < s.length := by
  cases s with
  | nil => cases h
  | cons e more =>
      simp only [readEscape] at h
      by_cases hu : e = 'u'
      · rw [if_pos hu] at h
        exact Nat.lt_succ_of_lt (readUnicode_false_shorter h)
      rw [if_neg hu] at h
      -- every other escape is one character
      have hrest : rest = more := by
        repeat' split at h
        all_goals cases h <;> rfl
      rw [hrest]
      exact Nat.lt_succ_self _

theorem readEscape_skipped (h : readEscape true s = .ok (c, rest)) :
    (∃ d, readEscape false s = .ok (d, rest))
      ∨ ∃ d e middle, readEscape false s = .ok (d, '\\' :: middle)
        ∧ readEscape false middle = .ok (e, rest) := by
  cases s with
  | nil => cases h
  | cons u more =>
      simp only [readEscape] at h
      by_cases hu : u = 'u'
      · subst hu
        rw [if_pos rfl] at h
        have hpass {t after : List Char} (ht : readUnicode false t = .ok ('?', after)) :
            readEscape false ('u' :: t) = .ok ('?', after) := by
          simp only [readEscape, if_true]
          exact ht
        rcases readUnicode_skipped h with hone | ⟨middle, hfirst, hsecond⟩
        · exact Or.inl ⟨'?', hpass hone⟩
        · exact Or.inr ⟨'?', '?', 'u' :: middle, hpass hfirst, hpass hsecond⟩
      · refine Or.inl ⟨c, ?_⟩
        simp only [readEscape, if_neg hu] at h ⊢
        exact h

/-- A text that is read can be passed over, and ends at the same place. -/
theorem readText_skipped {kept : List Char} (given : List Char) {fuel steps : Nat} {t : String}
    (h : readText true kept fuel s = .ok (t, rest)) (henough : s.length ≤ steps) :
    ∃ u, readText false given steps s = .ok (u, rest) := by
  induction fuel generalizing kept given steps s with
  | zero => cases s <;> cases h
  | succ fuel ih =>
      cases s with
      | nil => cases h
      | cons d more =>
          rcases Nat.exists_eq_add_of_le' (Nat.le_trans (Nat.succ_pos more.length) henough)
            with ⟨steps, rfl⟩
          have hmore : more.length ≤ steps := Nat.le_of_succ_le_succ henough
          unfold readText at h ⊢
          by_cases hquote : d = '"'
          · rw [if_pos hquote] at h ⊢
            cases h
            exact ⟨_, rfl⟩
          rw [if_neg hquote] at h ⊢
          by_cases hslash : d = '\\'
          · rw [if_pos hslash] at h ⊢
            rcases exists_of_bind_eq_ok h with ⟨⟨e, after⟩, hescape, h⟩
            rcases readEscape_skipped hescape with ⟨f, hone⟩ | ⟨f, g, middle, hfirst, hsecond⟩
            · have hshorter := readEscape_false_shorter hone
              rcases ih (f :: given) h (by omega : after.length ≤ steps) with ⟨u, hu⟩
              exact ⟨u, bind_eq_ok_of hone hu⟩
            · -- what was one step is two, and each takes a character at least
              have hshorter := readEscape_false_shorter hfirst
              have hshortest := readEscape_false_shorter hsecond
              rcases Nat.exists_eq_add_of_le' (by omega : 1 ≤ steps) with ⟨steps, rfl⟩
              simp only [List.length_cons] at hshorter
              rcases ih (g :: f :: given) h (by omega : after.length ≤ steps) with
                ⟨u, hu⟩
              refine ⟨u, bind_eq_ok_of hfirst ?_⟩
              simp only [readText]
              rw [if_neg (by decide), if_true]
              exact bind_eq_ok_of hsecond hu
          rw [if_neg hslash] at h ⊢
          split at h
          · cases h
          next hcontrol =>
            rw [if_neg hcontrol]
            exact ih (d :: given) h hmore

/-- Read or passed over, a text that can be read ends at the same place. -/
theorem exists_readText {t : String} (kept : Bool)
    (h : readText true [] s.length s = .ok (t, rest)) :
    ∃ u, readText kept [] s.length s = .ok (u, rest) ∧ (kept = true → u = t) := by
  cases kept with
  | true => exact ⟨t, h, fun _ => rfl⟩
  | false =>
      rcases readText_skipped [] h (Nat.le_refl _) with ⟨u, hu⟩
      exact ⟨u, hu, fun hkept => nomatch hkept⟩

theorem exists_readNumber {negative : Bool} {n : Number} (kept : Bool)
    (h : readNumber negative true s = .ok (n, rest)) :
    ∃ k, readNumber negative kept s = .ok (k, rest) ∧ (kept = true → k = n) := by
  cases kept with
  | true => exact ⟨n, h, fun _ => rfl⟩
  | false => exact ⟨n, readNumber_skipped h, fun hkept => nomatch hkept⟩

end Texts

/-! ## Documents -/

/-- With so much fuel all five readers deliver the part that a shape keeps, if they deliver the
whole; only of a solid shape is it said what that part is. -/
structure Keeping (fuel : Nat) : Prop where
  value : ∀ (shape : Shape) {depth budget : Nat} {s rest : List Char} {full : Json},
    depth ≤ budget → readValue .any depth fuel s = .ok (full, rest) →
      ∃ doc, readValue shape budget fuel s = .ok (doc, rest)
        ∧ (shape.Solid → doc = full.keep shape)
  items : ∀ (shape : Shape) {depth budget index : Nat} {s rest : List Char} {full : List Json},
    depth ≤ budget → readItems .any depth fuel index s = .ok (full, rest) →
      ∃ items, readItems shape budget fuel index s = .ok (items, rest)
        ∧ (shape.Solid → items = keepItems shape index full)
  item : ∀ (shape : Shape) {depth budget index : Nat} {s rest : List Char} {full : List Json},
    depth ≤ budget → readItem .any depth fuel index s = .ok (full, rest) →
      ∃ items, readItem shape budget fuel index s = .ok (items, rest)
        ∧ (shape.Solid → items = keepItems shape index full)
  members : ∀ (shape : Shape) {depth budget : Nat} {first : Bool} {s rest : List Char}
    {full : List (String × Json)},
    depth ≤ budget → readMembers .any depth fuel first s = .ok (full, rest) →
      ∃ members, readMembers shape budget fuel first s = .ok (members, rest)
        ∧ (shape.Solid → members = keepMembers shape full)
  member : ∀ (shape : Shape) {depth budget : Nat} {s rest : List Char}
    {full : List (String × Json)},
    depth ≤ budget → readMember .any depth fuel s = .ok (full, rest) →
      ∃ members, readMember shape budget fuel s = .ok (members, rest)
        ∧ (shape.Solid → members = keepMembers shape full)

section Step

variable {fuel depth budget : Nat} {shape : Shape} {s rest : List Char}

/-- What is passed over needs no level, and all else as many as the whole. -/
theorem exists_enter (shape : Shape) {inner : Nat} (hle : depth ≤ budget)
    (h : enter .any depth s = .ok inner) :
    ∃ room, enter shape budget s = .ok room ∧ inner ≤ room := by
  obtain rfl : depth = inner + 1 := enter_solid .any h
  unfold enter
  cases shape.isSkipped with
  | true => exact ⟨budget, rfl, Nat.le_of_succ_le hle⟩
  | false =>
      rcases Nat.exists_eq_add_of_le' (Nat.le_trans (Nat.succ_pos inner) hle) with ⟨room, rfl⟩
      exact ⟨room, rfl, Nat.le_of_succ_le_succ hle⟩

theorem readValue_keep_succ {full : Json} (ih : Keeping fuel) (hle : depth ≤ budget)
    (h : readValue .any depth (fuel + 1) s = .ok (full, rest)) :
    ∃ doc, readValue shape budget (fuel + 1) s = .ok (doc, rest)
      ∧ (shape.Solid → doc = full.keep shape) := by
  have hkept : shape.Solid → (!shape.isSkipped) = true := by
    intro hsolid
    rw [hsolid.isSkipped_eq_false]
    rfl
  unfold readValue at h ⊢
  split at h
  · cases h
  rename_i c more hskip
  -- the words are read alike for all shapes
  by_cases hnull : c = 'n'
  · rw [if_pos hnull] at h ⊢
    obtain rfl := readWord_value h
    exact ⟨_, h, fun _ => rfl⟩
  rw [if_neg hnull] at h ⊢
  by_cases htrue : c = 't'
  · rw [if_pos htrue] at h ⊢
    obtain rfl := readWord_value h
    exact ⟨_, h, fun _ => rfl⟩
  rw [if_neg htrue] at h ⊢
  by_cases hfalse : c = 'f'
  · rw [if_pos hfalse] at h ⊢
    obtain rfl := readWord_value h
    exact ⟨_, h, fun _ => rfl⟩
  rw [if_neg hfalse] at h ⊢
  by_cases hminus : c = '-'
  · rw [if_pos hminus] at h ⊢
    rcases exists_of_bind_eq_ok h with ⟨⟨n, after⟩, hread, heq⟩
    cases heq
    rcases exists_readNumber (!shape.isSkipped) hread with ⟨k, hk, hsame⟩
    exact ⟨.num k, bind_eq_ok_of hk rfl, fun hsolid => congrArg Json.num (hsame (hkept hsolid))⟩
  rw [if_neg hminus] at h ⊢
  by_cases hdigit : c.isDigit = true
  · rw [if_pos hdigit] at h ⊢
    rcases exists_of_bind_eq_ok h with ⟨⟨n, after⟩, hread, heq⟩
    cases heq
    rcases exists_readNumber (!shape.isSkipped) hread with ⟨k, hk, hsame⟩
    exact ⟨.num k, bind_eq_ok_of hk rfl, fun hsolid => congrArg Json.num (hsame (hkept hsolid))⟩
  rw [if_neg hdigit] at h ⊢
  by_cases hquote : c = '"'
  · rw [if_pos hquote] at h ⊢
    rcases exists_of_bind_eq_ok h with ⟨⟨t, after⟩, hread, heq⟩
    cases heq
    rcases exists_readText (!shape.isSkipped) hread with ⟨u, hu, hsame⟩
    exact ⟨.str u, bind_eq_ok_of hu rfl, fun hsolid => congrArg Json.str (hsame (hkept hsolid))⟩
  rw [if_neg hquote] at h ⊢
  by_cases hbracket : c = '['
  · rw [if_pos hbracket] at h ⊢
    rcases exists_of_bind_eq_ok h with ⟨inner, henter, h⟩
    rcases exists_of_bind_eq_ok h with ⟨⟨items, after⟩, hread, heq⟩
    cases heq
    rcases exists_enter shape hle henter with ⟨room, hroom, hinner⟩
    rcases ih.items shape hinner hread with ⟨kept, hitems, hsame⟩
    exact ⟨.arr kept, bind_eq_ok_of hroom (bind_eq_ok_of hitems rfl),
      fun hsolid => congrArg Json.arr (hsame hsolid)⟩
  rw [if_neg hbracket] at h ⊢
  by_cases hbrace : c = '\x7b'
  · rw [if_pos hbrace] at h ⊢
    rcases exists_of_bind_eq_ok h with ⟨inner, henter, h⟩
    rcases exists_of_bind_eq_ok h with ⟨⟨members, after⟩, hread, heq⟩
    cases heq
    rcases exists_enter shape hle henter with ⟨room, hroom, hinner⟩
    rcases ih.members shape hinner hread with ⟨kept, hmembers, hsame⟩
    exact ⟨.obj kept, bind_eq_ok_of hroom (bind_eq_ok_of hmembers rfl),
      fun hsolid => congrArg Json.obj (hsame hsolid)⟩
  rw [if_neg hbrace] at h
  cases h

theorem readItems_keep_succ {index : Nat} {full : List Json} (ih : Keeping fuel)
    (hle : depth ≤ budget) (h : readItems .any depth (fuel + 1) index s = .ok (full, rest)) :
    ∃ items, readItems shape budget (fuel + 1) index s = .ok (items, rest)
      ∧ (shape.Solid → items = keepItems shape index full) := by
  unfold readItems at h ⊢
  split at h
  · cases h
  split at h
  next hend =>
    rw [if_pos hend]
    cases h
    exact ⟨[], rfl, fun _ => rfl⟩
  next hend =>
    rw [if_neg hend]
    split at h
    next hfirst =>
      rw [if_pos hfirst]
      subst hfirst
      exact ih.item shape hle h
    next hfirst =>
      rw [if_neg hfirst]
      split at h
      · cases h
      next hcomma =>
        rw [if_neg hcomma]
        split at h
        · cases h
        next hskip =>
          split at h
          · cases h
          next htrailing =>
            rw [if_neg htrailing]
            exact ih.item shape hle h

theorem readItem_keep_succ {index : Nat} {full : List Json} (ih : Keeping fuel)
    (hle : depth ≤ budget) (h : readItem .any depth (fuel + 1) index s = .ok (full, rest)) :
    ∃ items, readItem shape budget (fuel + 1) index s = .ok (items, rest)
      ∧ (shape.Solid → items = keepItems shape index full) := by
  unfold readItem at h ⊢
  rcases exists_of_bind_eq_ok h with ⟨⟨item, after⟩, hitem, h⟩
  rcases exists_of_bind_eq_ok h with ⟨⟨more, last⟩, hmore, heq⟩
  cases heq
  rcases ih.value (shape.ofItem index) hle hitem with ⟨doc, hdoc, hsame⟩
  rcases ih.items shape hle hmore with ⟨items, hitems, hrest⟩
  refine ⟨doc :: items, bind_eq_ok_of hdoc (bind_eq_ok_of hitems rfl), ?_⟩
  intro hsolid
  rw [hsame (hsolid.ofItem index), hrest hsolid]
  rfl

theorem readMembers_keep_succ {first : Bool} {full : List (String × Json)} (ih : Keeping fuel)
    (hle : depth ≤ budget) (h : readMembers .any depth (fuel + 1) first s = .ok (full, rest)) :
    ∃ members, readMembers shape budget (fuel + 1) first s = .ok (members, rest)
      ∧ (shape.Solid → members = keepMembers shape full) := by
  unfold readMembers at h ⊢
  split at h
  · cases h
  split at h
  next hend =>
    rw [if_pos hend]
    cases h
    exact ⟨[], rfl, fun _ => rfl⟩
  next hend =>
    rw [if_neg hend]
    split at h
    next hfirst =>
      rw [if_pos hfirst]
      exact ih.member shape hle h
    next hfirst =>
      rw [if_neg hfirst]
      split at h
      · cases h
      next hcomma =>
        rw [if_neg hcomma]
        split at h
        · cases h
        next hskip =>
          split at h
          · cases h
          next htrailing =>
            rw [if_neg htrailing]
            exact ih.member shape hle h

theorem readMember_keep_succ {full : List (String × Json)} (ih : Keeping fuel)
    (hle : depth ≤ budget) (h : readMember .any depth (fuel + 1) s = .ok (full, rest)) :
    ∃ members, readMember shape budget (fuel + 1) s = .ok (members, rest)
      ∧ (shape.Solid → members = keepMembers shape full) := by
  unfold readMember at h ⊢
  split at h
  · cases h
  split at h
  · cases h
  next hquote =>
    rw [if_neg hquote]
    rcases exists_of_bind_eq_ok h with ⟨⟨key, after⟩, hkey, h⟩
    rcases exists_readText (!shape.isSkipped) hkey with ⟨name, hname, hsamekey⟩
    simp only at h
    split at h
    · cases h
    next d behind hskip =>
      split at h
      · cases h
      next hcolon =>
        rcases exists_of_bind_eq_ok h with ⟨⟨value, last⟩, hvalue, h⟩
        rcases exists_of_bind_eq_ok h with ⟨⟨more, final⟩, hmore, heq⟩
        cases heq
        rcases ih.value (shape.ofMember name) hle hvalue with ⟨doc, hdoc, hsame⟩
        rcases ih.members shape hle hmore with ⟨members, hmembers, hrest⟩
        refine ⟨if (shape.ofMember name).isSkipped then members else (name, doc) :: members,
          bind_eq_ok_of hname ?_, ?_⟩
        · simp only [hskip, if_neg hcolon]
          exact bind_eq_ok_of hdoc (bind_eq_ok_of hmembers rfl)
        · intro hsolid
          -- where the shape is solid, the name is read as it is
          obtain rfl : name = key := hsamekey (by rw [hsolid.isSkipped_eq_false]; rfl)
          have hwhole : (Shape.any.ofMember name).isSkipped = false := rfl
          rw [hrest hsolid]
          cases hskipped : (shape.ofMember name).isSkipped with
          | true => simp [keepMembers, hskipped, hwhole]
          | false =>
              rw [hsame (hsolid.ofMember hskipped)]
              simp [keepMembers, hskipped, hwhole]

end Step

theorem keeping (fuel : Nat) : Keeping fuel := by
  induction fuel with
  | zero =>
      constructor
      · intro shape depth budget s rest full _ h
        simp [readValue, failAt] at h
      · intro shape depth budget index s rest full _ h
        simp [readItems, failAt] at h
      · intro shape depth budget index s rest full _ h
        simp [readItem, failAt] at h
      · intro shape depth budget first s rest full _ h
        simp [readMembers, failAt] at h
      · intro shape depth budget s rest full _ h
        simp [readMember, failAt] at h
  | succ fuel ih =>
      exact {
        value := fun _ => readValue_keep_succ ih
        items := fun _ => readItems_keep_succ ih
        item := fun _ => readItem_keep_succ ih
        members := fun _ => readMembers_keep_succ ih
        member := fun _ => readMember_keep_succ ih }

theorem readValue_keep {shape : Shape} {depth fuel : Nat} {s rest : List Char} {full : Json}
    (hsolid : shape.Solid) (h : readValue .any depth fuel s = .ok (full, rest)) :
    readValue shape depth fuel s = .ok (full.keep shape, rest) := by
  rcases (keeping fuel).value shape (Nat.le_refl depth) h with ⟨doc, hread, hsame⟩
  rwa [← hsame hsolid]

theorem read?_keep {shape : Shape} {text : String} {full : Json} (hsolid : shape.Solid)
    (h : read? .any text = some full) : read? shape text = some (full.keep shape) := by
  unfold read? at h ⊢
  cases hread : readChars .any text.toList with
  | error failure => simp [hread, Except.toOption] at h
  | ok result =>
      obtain rfl : result = full := by simpa [hread, Except.toOption] using h
      rcases exists_of_bind_eq_ok hread with ⟨⟨doc, rest⟩, hvalue, hrest⟩
      have hkept : readChars shape text.toList = .ok (result.keep shape) := by
        simp only at hrest
        split at hrest
        next hend =>
          cases hrest
          refine bind_eq_ok_of (readValue_keep hsolid hvalue) ?_
          simp only [hend]
          rfl
        next => cases hrest
      rw [hkept]
      rfl

end Json

end StubConsole
