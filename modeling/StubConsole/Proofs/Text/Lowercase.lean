import Mathlib.Data.List.Infix
import StubConsole.Proofs.Text.Cuts
import StubConsole.Text.Lowercase

/-!
# Lowercase — a part of a text in small letters

Small letters come one character at a time, but for the capital sigma: whether it becomes the final
one hangs on the letters around it.  So a part of a text may read differently alone.

* `Text.occursIn_iff` — what a search looks for;
* `Text.lowerBetween`, `Text.lowerFrom_append` — a part in small letters where it stands;
* `Text.SigmasKept`, `Text.lowerBetween_eq_iff` — when it reads there as it does alone;
* `Text.Settled` — a text whose sigmas come out the same wherever it stands;
* `Text.exists_not_infix_front`, `Text.settled_iff` — any other text is lost next to some letter.
-/

namespace StubConsole

namespace Text

/-! ## Search -/

section Search

variable {part s : List Char}

theorem dropPrefix?_append (start rest : List Char) :
    dropPrefix? (start ++ rest) start = some rest := by
  induction start with
  | nil => rw [List.nil_append, dropPrefix?]
  | cons c start ih => rw [List.cons_append, dropPrefix?, if_pos rfl, ih]

theorem startsWith_iff : startsWith s part = true ↔ part <+: s := by
  constructor
  · intro h
    rcases exists_of_startsWith h with ⟨rest, rfl⟩
    exact List.prefix_append part rest
  · rintro ⟨rest, rfl⟩
    rw [startsWith, dropPrefix?_append]
    rfl

theorem occursIn_iff : occursIn part s = true ↔ part <:+: s := by
  induction s with
  | nil => rw [occursIn, List.isEmpty_iff, List.infix_nil]
  | cons c s ih => rw [occursIn, Bool.or_eq_true, startsWith_iff, ih, List.infix_cons_iff]

/-- Whatever stands around a character of a text, place by place. -/
theorem forall_cut_iff {P : List Char → List Char → Prop} {c : Char} :
    (∀ x y, s = x ++ c :: y → P x y)
      ↔ ∀ i < s.length, s[i]? = some c → P (s.take i) (s.drop (i + 1)) := by
  constructor
  · intro h i hi hc
    refine h _ _ ?_
    rw [List.getElem?_eq_getElem hi, Option.some.injEq] at hc
    rw [← hc, List.getElem_cons_drop, List.take_append_drop]
  · rintro h x y rfl
    simpa using h x.length (by simp) (by simp)

end Search

/-! ## Parts where they stand -/

section Between

variable {before after s : List Char}

/-- The small letters of one character between two texts, the first of them with its last character
first. -/
def lowerAt (before : List Char) (c : Char) (after : List Char) : List Char :=
  if c.toNat = 0x3A3 then [lowerSigma before after]
  else if c.toNat = 0x130 then ['i', Char.ofNat 0x307]
  else [lowerChar c]

/-- The small letters of a text between two others. -/
def lowerBetween (before : List Char) : List Char → List Char → List Char
  | [], _ => []
  | c :: s, after => lowerAt before c (s ++ after) ++ lowerBetween (c :: before) s after

theorem lowerFrom_cons (before : List Char) (c : Char) (rest : List Char) :
    lowerFrom before (c :: rest) = lowerAt before c rest ++ lowerFrom (c :: before) rest := rfl

theorem lowerFrom_append (before s after : List Char) :
    lowerFrom before (s ++ after)
      = lowerBetween before s after ++ lowerFrom (s.reverse ++ before) after := by
  induction s generalizing before with
  | nil => rfl
  | cons c s ih =>
      rw [List.cons_append, lowerFrom_cons, ih, lowerBetween, List.reverse_cons,
        List.append_assoc, List.append_assoc, List.singleton_append]

theorem lowerBetween_nil (before s : List Char) :
    lowerBetween before s [] = lowerFrom before s := by
  have h := lowerFrom_append before s []
  rwa [List.append_nil, lowerFrom, List.append_nil, eq_comm] at h

theorem length_lowerAt (before before' : List Char) (c : Char) (after after' : List Char) :
    (lowerAt before c after).length = (lowerAt before' c after').length := by
  unfold lowerAt
  split
  · rfl
  · split <;> rfl

theorem length_lowerBetween (before before' s after after' : List Char) :
    (lowerBetween before s after).length = (lowerBetween before' s after').length := by
  induction s generalizing before before' with
  | nil => rfl
  | cons c s ih =>
      rw [lowerBetween, lowerBetween, List.length_append, List.length_append, length_lowerAt, ih]

/-- Only the capital sigma looks at what stands around it. -/
theorem lowerAt_eq_iff {before' after' : List Char} {c : Char} :
    lowerAt before c after = lowerAt before' c after'
      ↔ (c = 'Σ' → lowerSigma before after = lowerSigma before' after') := by
  have hsigma : c.toNat = 0x3A3 ↔ c = 'Σ' := by
    rw [← Char.toNat_inj]
    rfl
  unfold lowerAt
  simp only [hsigma]
  split
  next h => simp [h]
  next h => simp [h]

/-- The capital sigmas of a text become between two others what they become alone. -/
def SigmasKept (before s after : List Char) : Prop :=
  ∀ x y, s = x ++ 'Σ' :: y →
    lowerSigma (x.reverse ++ before) (y ++ after) = lowerSigma x.reverse y

instance (before s after : List Char) : Decidable (SigmasKept before s after) :=
  decidable_of_iff _ forall_cut_iff.symm

theorem lowerBetween_append_eq_iff (front before s after : List Char) :
    lowerBetween (front ++ before) s after = lowerFrom front s
      ↔ ∀ x y, s = x ++ 'Σ' :: y →
          lowerSigma (x.reverse ++ front ++ before) (y ++ after)
            = lowerSigma (x.reverse ++ front) y := by
  -- what was read so far is `front`, last character first
  induction s generalizing front with
  | nil => simp [lowerBetween, lowerFrom]
  | cons c s ih =>
      have hrest := ih (c :: front)
      rw [← lowerBetween_nil] at hrest ⊢
      simp only [lowerBetween, List.append_nil]
      constructor
      · intro h
        rcases List.append_inj h (length_lowerAt ..) with ⟨hfirst, hmore⟩
        intro x y hs
        cases x with
        | nil =>
            cases hs
            exact lowerAt_eq_iff.1 hfirst rfl
        | cons d x =>
            cases hs
            simpa using hrest.1 hmore x y rfl
      · intro h
        have hfirst : lowerAt (front ++ before) c (s ++ after) = lowerAt front c s := by
          rw [lowerAt_eq_iff]
          rintro rfl
          exact h [] s rfl
        have hmore :
            lowerBetween (c :: front ++ before) s after = lowerBetween (c :: front) s [] := by
          rw [hrest]
          intro x y hs
          simpa using h (c :: x) y (by rw [hs]; rfl)
        rw [hfirst]
        exact congrArg (_ ++ ·) hmore

/-- A text reads between two others as it does alone just if its capital sigmas do. -/
theorem lowerBetween_eq_iff :
    lowerBetween before s after = lowerFrom [] s ↔ SigmasKept before s after := by
  simpa [SigmasKept] using lowerBetween_append_eq_iff [] before s after

theorem infix_lowerFrom_of_sigmasKept (h : SigmasKept before.reverse s after) :
    lowerFrom [] s <:+: lowerFrom [] (before ++ s ++ after) := by
  rw [List.append_assoc, lowerFrom_append, lowerFrom_append, List.append_nil,
    lowerBetween_eq_iff.2 h]
  exact ⟨_, _, List.append_assoc ..⟩

end Between

/-! ## Letters around a sigma -/

section Letters

variable {s more : List Char}

/-- Nothing but what may hide in words. -/
def AllPassive (s : List Char) : Prop := ∀ c ∈ s, inRanges casePassive c = true

theorem meetsLetter_append_of_passive (h : AllPassive s) (more : List Char) :
    meetsLetter (s ++ more) = meetsLetter more := by
  unfold meetsLetter
  rw [List.dropWhile_append_of_pos h]

theorem meetsLetter_of_passive (h : AllPassive s) : meetsLetter s = false := by
  have hnil := meetsLetter_append_of_passive h []
  rwa [List.append_nil] at hnil

/-- What stands behind the nearest character that counts does not. -/
theorem meetsLetter_append_of_not_passive (h : ¬ AllPassive s) (more : List Char) :
    meetsLetter (s ++ more) = meetsLetter s := by
  unfold meetsLetter
  have hne : s.dropWhile (inRanges casePassive) ≠ [] := by
    rwa [ne_eq, List.dropWhile_eq_nil_iff]
  rw [List.dropWhile_append, if_neg (by simpa using hne)]
  cases hrest : s.dropWhile (inRanges casePassive) with
  | nil => exact absurd hrest hne
  | cons c rest => rfl

/-- The capital sigmas of a text become the same small letters wherever the text stands.  If nothing
before the first one counts, a letter is behind it; if nothing behind the last one counts, no letter
is before it. -/
def Settled (s : List Char) : Prop :=
  ∀ x y, s = x ++ 'Σ' :: y →
    (AllPassive x → meetsLetter y = true) ∧ (AllPassive y → meetsLetter x.reverse = false)

instance (s : List Char) : Decidable (AllPassive s) := List.decidableBAll _ s

instance (s : List Char) : Decidable (Settled s) := decidable_of_iff _ forall_cut_iff.symm

theorem allPassive_reverse (s : List Char) : AllPassive s.reverse ↔ AllPassive s := by
  simp [AllPassive]

theorem Settled.sigmasKept (h : Settled s) (before after : List Char) :
    SigmasKept before s after := by
  intro x y hs
  rcases h x y hs with ⟨hfront, hback⟩
  rw [← allPassive_reverse] at hfront
  unfold lowerSigma
  by_cases hx : AllPassive x.reverse
  · -- a letter follows, so it is no final sigma whatever stands before it
    have hy : ¬ AllPassive y := by
      intro hy
      rw [meetsLetter_of_passive hy] at hfront
      cases hfront hx
    rw [meetsLetter_append_of_not_passive hy, hfront hx]
    simp
  · rw [meetsLetter_append_of_not_passive hx]
    by_cases hy : AllPassive y
    · rw [hback hy]
      simp
    · rw [meetsLetter_append_of_not_passive hy]

/-- A small letter that may stand next to a text. -/
structure IsSmallLetter (d : Char) : Prop where
  counts : inRanges casePassive d = false
  letter : inRanges caseActive d = true
  small : d.toNat ≠ 0x3A3 ∧ d.toNat ≠ 0x130 ∧ lowerChar d = d

/-- One of two letters is not the given character. -/
theorem exists_smallLetter_ne (o : Option Char) : ∃ d, IsSmallLetter d ∧ o ≠ some d := by
  have ha : IsSmallLetter 'a' := ⟨by decide, by decide, by decide⟩
  have hb : IsSmallLetter 'b' := ⟨by decide, by decide, by decide⟩
  by_cases h : o = some 'a'
  · exact ⟨'b', hb, by rw [h]; decide⟩
  · exact ⟨'a', ha, h⟩

theorem IsSmallLetter.meetsLetter {d : Char} (hd : IsSmallLetter d) : meetsLetter [d] = true := by
  simp [Text.meetsLetter, hd.counts, hd.letter]

theorem IsSmallLetter.lowerAt {d : Char} (hd : IsSmallLetter d) (before after : List Char) :
    Text.lowerAt before d after = [d] := by
  rw [Text.lowerAt, if_neg hd.small.1, if_neg hd.small.2.1, hd.small.2.2]

/-! ### Texts that are not found again -/

section NotFound

variable {d : Char} {found kept : List Char}

theorem not_infix_cons (hlength : kept.length = found.length) (hne : kept ≠ found)
    (hhead : kept.head? ≠ some d) : ¬ kept <:+: d :: found := by
  rw [List.infix_cons_iff]
  rintro (⟨rest, hprefix⟩ | hfound)
  · cases kept with
    | nil => exact hne (List.length_eq_zero_iff.1 hlength.symm).symm
    | cons c kept => exact hhead (congrArg List.head? hprefix)
  · exact hne (hfound.eq_of_length hlength)

theorem not_infix_concat (hlength : kept.length = found.length) (hne : kept ≠ found)
    (hlast : kept.getLast? ≠ some d) : ¬ kept <:+: found ++ [d] := by
  rw [← List.reverse_infix, List.reverse_concat]
  refine not_infix_cons (by simpa using hlength) ?_ (by rwa [List.head?_reverse])
  rwa [ne_eq, List.reverse_inj]

end NotFound

/-- A sigma that may be changed from the front is changed by a letter there. -/
theorem exists_not_infix_front {x y : List Char} (hs : s = x ++ 'Σ' :: y) (hx : AllPassive x)
    (hy : meetsLetter y = false) : ∃ d, ¬ lowerFrom [] s <:+: lowerFrom [] (d :: s) := by
  rcases exists_smallLetter_ne (lowerFrom [] s).head? with ⟨d, hd, hhead⟩
  refine ⟨d, ?_⟩
  have hcut : lowerFrom [] (d :: s) = d :: lowerBetween [d] s [] := by
    rw [lowerBetween_nil, lowerFrom_cons, hd.lowerAt, List.singleton_append]
  have hlength : (lowerFrom [] s).length = (lowerBetween [d] s []).length := by
    rw [← lowerBetween_nil]
    exact length_lowerBetween ..
  rw [hcut]
  refine not_infix_cons hlength ?_ hhead
  rw [ne_comm, ne_eq, lowerBetween_eq_iff]
  intro h
  have hsigma := h x y hs
  rw [← allPassive_reverse] at hx
  rw [lowerSigma, lowerSigma, meetsLetter_append_of_passive hx, hd.meetsLetter, List.append_nil,
    meetsLetter_of_passive hx, hy] at hsigma
  revert hsigma
  decide

/-- A sigma that may be changed from behind is changed by a letter there. -/
theorem exists_not_infix_back {x y : List Char} (hs : s = x ++ 'Σ' :: y) (hy : AllPassive y)
    (hx : meetsLetter x.reverse = true) :
    ∃ d, ¬ lowerFrom [] s <:+: lowerFrom [] (s ++ [d]) := by
  rcases exists_smallLetter_ne (lowerFrom [] s).getLast? with ⟨d, hd, hlast⟩
  refine ⟨d, ?_⟩
  have hcut : lowerFrom [] (s ++ [d]) = lowerBetween [] s [d] ++ [d] := by
    rw [lowerFrom_append, lowerFrom_cons, hd.lowerAt]
    rfl
  have hlength : (lowerFrom [] s).length = (lowerBetween [] s [d]).length := by
    rw [← lowerBetween_nil]
    exact length_lowerBetween ..
  rw [hcut]
  refine not_infix_concat hlength ?_ hlast
  rw [ne_comm, ne_eq, lowerBetween_eq_iff]
  intro h
  have hsigma := h x y hs
  rw [lowerSigma, lowerSigma, List.append_nil, hx, meetsLetter_append_of_passive hy,
    hd.meetsLetter, meetsLetter_of_passive hy] at hsigma
  revert hsigma
  decide

/-- The texts that are found wherever they stand. -/
theorem settled_iff :
    Settled s ↔ ∀ before after, lowerFrom [] s <:+: lowerFrom [] (before ++ s ++ after) := by
  constructor
  · intro h before after
    exact infix_lowerFrom_of_sigmasKept (h.sigmasKept before.reverse after)
  · intro h x y hs
    constructor
    · intro hx
      rw [← Bool.not_eq_false]
      intro hy
      rcases exists_not_infix_front hs hx hy with ⟨d, hd⟩
      exact hd (by simpa using h [d] [])
    · intro hy
      rw [← Bool.not_eq_true]
      intro hx
      rcases exists_not_infix_back hs hy hx with ⟨d, hd⟩
      exact hd (by simpa using h [] [d])

end Letters

end Text

end StubConsole
