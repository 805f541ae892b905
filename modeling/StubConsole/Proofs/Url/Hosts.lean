import StubConsole.Proofs.Url.Numerals
import StubConsole.Proofs.Url.Segments

/-!
# Hosts — a host that was written is read as itself

What is written for the host of a server is a name in small ASCII letters, four bytes or eight
numbers.  Small letters have no smaller ones, and no character of a name stands for another one, so
reading the written form again changes nothing.

* `Host.isSmall`, `Host.isSmall_of_mem_asciiName` — the characters of a written name;
* `Host.asciiName_eq_self` — they are written as they are;
* `Host.Written` — the three forms of a host;
* `Host.written_of_read`, `Host.Written.read_eq` — every host is written so, and read as itself.
-/

namespace StubConsole

open Text

/-! ## Small letters -/

namespace Host

section Small

variable {c : Char} {s : List Char}

/-- A character of ASCII that is no capital letter. -/
def isSmall (c : Char) : Bool := decide (c.toNat < 0x80) && !c.isUpper

theorem isUpper_eq_false (h : c.toNat < 65 ∨ 90 < c.toNat) : c.isUpper = false := by
  rw [← Bool.not_eq_true]
  intro hupper
  have hbounds := Url.toNat_of_isUpper hupper
  omega

theorem isUpper_ofNat {n : Nat} (h : 90 < n) : (Char.ofNat n).isUpper = false := by
  by_cases hvalid : n.isValidChar
  · have hvalue : (Char.ofNat n).toNat = n := by
      rw [Char.ofNat, dif_pos hvalid]
      exact UInt32.toNat_ofNatLT
    exact isUpper_eq_false (by omega)
  · rw [Char.ofNat, dif_neg hvalid]
    rfl

theorem isUpper_toLower (c : Char) : c.toLower.isUpper = false := by
  by_cases hc : c.isUpper = true
  · have hbounds := Url.toNat_of_isUpper hc
    have hlower := Url.toNat_toLower_of_isUpper hc
    exact isUpper_eq_false (by omega)
  · have hfalse := Bool.eq_false_iff.2 hc
    rwa [Url.toLower_of_not_isUpper hfalse]

/-- The small form of a character is no capital letter of ASCII. -/
theorem isUpper_lowerChar (c : Char) : (lowerChar c).isUpper = false := by
  have htable : ∀ r ∈ lowerRanges, 90 < (r.1 : Int) + r.2.2.2 := by decide +kernel
  rw [lowerChar]
  split
  next => exact isUpper_toLower c
  next hlarge =>
    dsimp only
    split
    next r hfind =>
      have hmem := htable r (List.mem_of_find?_eq_some hfind)
      have hholds := List.find?_some hfind
      simp only [Bool.and_eq_true, decide_eq_true_eq] at hholds
      exact isUpper_ofNat (by omega)
    next => exact isUpper_eq_false (by omega)

theorem isUpper_of_mem_lowerFrom {before : List Char} (h : c ∈ lowerFrom before s) :
    c.isUpper = false := by
  induction s generalizing before with
  | nil => cases h
  | cons d s ih =>
      rw [lowerFrom, List.mem_append] at h
      rcases h with hfirst | hrest
      · split at hfirst
        · rw [List.mem_singleton.1 hfirst, lowerSigma]
          split <;> rfl
        split at hfirst
        · have hall : ['i', Char.ofNat 0x307].all (fun c => !c.isUpper) = true := by decide
          simpa using List.all_eq_true.1 hall c hfirst
        · rw [List.mem_singleton.1 hfirst]
          exact isUpper_lowerChar d
      · exact ih hrest

theorem lowerFrom_eq_self (before : List Char) (h : ∀ c ∈ s, isSmall c = true) :
    lowerFrom before s = s := by
  induction s generalizing before with
  | nil => rfl
  | cons c s ih =>
      rw [List.forall_mem_cons] at h
      have hsmall : c.toNat < 0x80 ∧ c.isUpper = false := by simpa [isSmall] using h.1
      have hlower : lowerChar c = c := by
        rw [lowerChar, if_pos hsmall.1]
        exact Url.toLower_of_not_isUpper hsmall.2
      rw [lowerFrom, if_neg (by omega), if_neg (by omega), hlower, ih _ h.2]
      rfl

end Small

end Host

/-! ## Labels of other scripts -/

namespace Punycode

theorem isSmall_digit : ∀ n < 36, Host.isSmall (digit n) = true := by decide

theorem threshold_le (k bias : Nat) : threshold k bias ≤ 26 := by
  rw [threshold]
  split
  · decide
  · split <;> omega

theorem isSmall_of_mem_digits {c : Char} {bias k q : Nat} (h : c ∈ digits bias k q) :
    Host.isSmall c = true := by
  fun_induction digits bias k q with
  | case1 k q t hlt =>
      have ht := threshold_le k bias
      rw [List.mem_singleton.1 h]
      exact isSmall_digit q (by omega)
  | case2 k q t hge ih =>
      rcases List.mem_cons.1 h with rfl | hrest
      · have ht := threshold_le k bias
        have hmod := Nat.mod_lt (q - t) (show 0 < 36 - t by omega)
        exact isSmall_digit _ (by omega)
      · exact ih hrest

theorem isSmall_of_mem_pass {c : Char} {n basic : Nat} {p : Progress} {codes : List Nat}
    (h : c ∈ (pass n basic p codes).2) : Host.isSmall c = true := by
  induction codes generalizing p with
  | nil => cases h
  | cons code codes ih =>
      rw [pass] at h
      split at h
      · exact ih h
      split at h
      · rcases List.mem_append.1 h with hdigit | hrest
        · exact isSmall_of_mem_digits hdigit
        · exact ih hrest
      · exact ih h

theorem isSmall_of_mem_passes {c : Char} {codes : List Nat} {basic fuel n : Nat} {p : Progress}
    (h : c ∈ passes codes basic fuel n p) : Host.isSmall c = true := by
  induction fuel generalizing n p with
  | zero => cases h
  | succ fuel ih =>
      rw [passes] at h
      split at h
      · cases h
      · rcases List.mem_append.1 h with hpass | hrest
        · exact isSmall_of_mem_pass hpass
        · exact ih hrest

theorem isSmall_of_mem_encode {c : Char} {label : List Char}
    (hlabel : ∀ c ∈ label, c.isUpper = false) (h : c ∈ encode label) : Host.isSmall c = true := by
  rw [encode, List.mem_append, List.mem_append] at h
  rcases h with (hascii | hdash) | hpasses
  · rcases List.mem_filter.1 hascii with ⟨hc, hlt⟩
    simp [Host.isSmall, hlabel c hc, of_decide_eq_true hlt]
  · split at hdash
    · rw [List.mem_singleton.1 hdash]
      rfl
    · cases hdash
  · exact isSmall_of_mem_passes hpasses

end Punycode

/-! ## Names -/

namespace Host

section Names

variable {c : Char} {name label : List Char}

theorem isSmall_of_mem_asciiLabel (hlabel : ∀ c ∈ label, c.isUpper = false)
    (h : c ∈ asciiLabel label) : isSmall c = true := by
  rw [asciiLabel] at h
  split at h
  next hascii =>
    have hlt := List.all_eq_true.1 hascii c h
    simp [isSmall, hlabel c h, of_decide_eq_true hlt]
  next =>
    rcases List.mem_append.1 h with hmark | hencoded
    · have hall : "xn--".toList.all isSmall = true := by decide
      exact List.all_eq_true.1 hall c hmark
    · exact Punycode.isSmall_of_mem_encode hlabel hencoded

theorem isSmall_of_mem_asciiName (h : c ∈ asciiName name) : isSmall c = true := by
  rcases mem_of_mem_joinWith h with hdot | ⟨part, hpart, hc⟩
  · rw [List.mem_singleton.1 hdot]
    rfl
  · rcases List.mem_map.1 hpart with ⟨label, hlabel, rfl⟩
    exact isSmall_of_mem_asciiLabel
      (fun d hd => isUpper_of_mem_lowerFrom (mem_of_mem_splitOn hlabel hd)) hc

theorem normalName_eq_self (h : ∀ c ∈ name, isSmall c = true) : normalName name = name := by
  have hlt : ∀ c ∈ name, c.toNat < 0x80 := fun c hc => by
    have hsmall := h c hc
    simp only [isSmall, Bool.and_eq_true, decide_eq_true_eq] at hsmall
    exact hsmall.1
  have hkept : name.filter (fun c => !inRanges ignored c) = name := by
    refine List.filter_eq_self.2 fun c hc => ?_
    have hsmall := hlt c hc
    rw [ignored, inRanges, if_pos (by omega)]
    rfl
  have hnarrow : name.map narrowForm = name := by
    refine (List.map_congr_left fun c hc => ?_).trans (List.map_id _)
    have hsmall := hlt c hc
    have hdot : (c.toNat = 0x3002 || c.toNat = 0xFF61) = false := by simp; omega
    have hwide : (0xFF01 ≤ c.toNat && c.toNat ≤ 0xFF5E) = false := by simp; omega
    simp [narrowForm, hdot, hwide]
  rw [normalName, hkept, hnarrow, lowerFrom_eq_self [] h]

/-- A name in small letters is written as it is. -/
theorem asciiName_eq_self (h : ∀ c ∈ name, isSmall c = true) : asciiName name = name := by
  have hlabels : (splitOn '.' name).map asciiLabel = splitOn '.' name := by
    refine (List.map_congr_left fun label hlabel => ?_).trans (List.map_id _)
    refine if_pos (List.all_eq_true.2 fun c hc => ?_)
    have hsmall := h c (mem_of_mem_splitOn hlabel hc)
    simp only [isSmall, Bool.and_eq_true] at hsmall
    exact hsmall.1
  rw [asciiName, normalName_eq_self h, hlabels, joinWith_splitOn]

/-- A name that may be written is looked at as it is. -/
theorem read_eq_of_small (hne : name ≠ [])
    (h : ∀ c ∈ name, isSmall c = true ∧ forbidden c = false) :
    read name = if endsInNumber name then
        (readIpv4? name).elim (.error .invalidIpv4) fun address => .ok (writeIpv4 address)
      else .ok name := by
  have hbracket : name.head? ≠ some '[' := fun hhead =>
    ne_of_test (h _ (List.mem_of_mem_head? hhead)).2 (by decide) rfl
  have hpercent : '%' ∉ name := fun hmem => ne_of_test (h _ hmem).2 (by decide) rfl
  have hallowed : name.any forbidden = false := List.any_eq_false.2 fun c hc => by simp [(h c hc).2]
  have hsmall := asciiName_eq_self fun c hc => (h c hc).1
  have hempty : name.isEmpty = false := by simpa using hne
  simp only [read, if_neg hbracket, Percent.decode_of_notMem hpercent, fromUTF8?_bytes,
    String.toList_ofList, hsmall, hallowed, hempty, Bool.false_eq_true, if_false]
  cases readIpv4? name <;> rfl

end Names

/-! ## Written hosts -/

section Written

variable {c : Char} {s host : List Char}

/-- What is written for the host of a server. -/
inductive Written : List Char → Prop
  | name {name : List Char} (ne_nil : name ≠ [])
      (small : ∀ c ∈ name, isSmall c = true ∧ forbidden c = false)
      (noNumber : endsInNumber name = false) : Written name
  | four {address : Nat} (lt : address < 2 ^ 32) : Written (writeIpv4 address)
  | eight {numbers : List Nat} (length_eq : numbers.length = 8)
      (lt : ∀ n ∈ numbers, n < 0x10000) : Written ('[' :: (writeIpv6 numbers ++ [']']))

theorem exists_of_readBracketed (h : readBracketed s = .ok host) :
    ∃ numbers : List Nat, numbers.length = 8 ∧ (∀ n ∈ numbers, n < 0x10000)
      ∧ host = '[' :: (writeIpv6 numbers ++ [']']) := by
  rw [readBracketed.eq_def] at h
  split at h
  next rest =>
    split at h
    · split at h
      next numbers hread =>
        rcases numbers_of_readIpv6? hread with ⟨hlength, hlt⟩
        exact ⟨numbers, hlength, hlt, (Except.ok.inj h).symm⟩
      next => cases h
    · cases h
  next => cases h

theorem written_of_read (h : read s = .ok host) : Written host := by
  rw [read] at h
  split at h
  · rcases exists_of_readBracketed h with ⟨numbers, hlength, hlt, rfl⟩
    exact .eight hlength hlt
  split at h
  · cases h
  next decoded _ =>
    dsimp only at h
    split at h
    · cases h
    next hallowed =>
      split at h
      · cases h
      next hempty =>
        split at h
        next =>
          split at h
          next address hread =>
            obtain rfl := Except.ok.inj h
            exact .four (lt_of_readIpv4? hread)
          next => cases h
        next hnumber =>
          obtain rfl := Except.ok.inj h
          refine .name (by simpa using hempty) (fun c hc => ⟨isSmall_of_mem_asciiName hc, ?_⟩)
            (Bool.eq_false_iff.2 hnumber)
          rw [Bool.not_eq_true, List.any_eq_false] at hallowed
          exact Bool.eq_false_iff.2 (hallowed c hc)

theorem readBracketed_writeIpv6 {numbers : List Nat} (hlength : numbers.length = 8)
    (hlt : ∀ n ∈ numbers, n < 0x10000) :
    readBracketed ('[' :: (writeIpv6 numbers ++ [']']))
      = .ok ('[' :: (writeIpv6 numbers ++ [']'])) := by
  rw [readBracketed, if_pos List.getLast?_concat, List.dropLast_concat,
    readIpv6?_writeIpv6 hlength hlt]
  rfl

theorem small_of_isDigit (h : c.isDigit = true) : isSmall c = true ∧ forbidden c = false := by
  have hall : ∀ n < 58, (Char.ofNat n).isDigit = true →
      isSmall (Char.ofNat n) = true ∧ forbidden (Char.ofNat n) = false := by decide
  have hbounds : 48 ≤ c.toNat ∧ c.toNat ≤ 57 := by
    simpa [Char.isDigit, UInt32.le_iff_toNat_le] using h
  exact of_toNat_lt
    (P := fun d => d.isDigit = true → isSmall d = true ∧ forbidden d = false) hall (by omega) h

/-- A host is read as it is written. -/
theorem Written.read_eq (h : Written host) : read host = .ok host := by
  cases h with
  | name hne hsmall hnumber => rw [read_eq_of_small hne hsmall, hnumber]; rfl
  | @four address hlt =>
      have hnumber := endsInNumber_writeIpv4 address
      have hne : writeIpv4 address ≠ [] := by
        intro hnil
        rw [hnil] at hnumber
        cases hnumber
      have hsmall : ∀ c ∈ writeIpv4 address, isSmall c = true ∧ forbidden c = false := by
        intro c hc
        rcases mem_writeIpv4 hc with rfl | hdigit
        · decide
        · exact small_of_isDigit hdigit
      rw [read_eq_of_small hne hsmall, hnumber, readIpv4?_writeIpv4 hlt]
      rfl
  | eight hlength hlt =>
      rw [read, if_pos (by rfl)]
      exact readBracketed_writeIpv6 hlength hlt

end Written

end Host

end StubConsole
