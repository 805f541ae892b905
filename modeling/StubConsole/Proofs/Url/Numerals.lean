import Mathlib.Algebra.Group.Nat.Defs
import Mathlib.Data.List.Induction
import StubConsole.Proofs.Url.Escapes
import StubConsole.Url.Host

/-!
# Numerals — hosts that are numbers

A host of four bytes is written with dots between the bytes, one of eight numbers with colons, and
its longest run of zeros is left out.  Either form is read as the numbers that it was written from.

* `Host.valueInBase_hexText` — a number of two bytes in hexadecimal digits;
* `Host.readIpv4?_writeIpv4`, `Host.endsInNumber_writeIpv4` — four bytes;
* `Host.exists_of_longestGap` — the zeros that are left out;
* `Host.readIpv6?_writeIpv6` — eight numbers;
* `Host.lt_of_readIpv4?`, `Host.numbers_of_readIpv6?` — what is read can be written.
-/

namespace StubConsole

open Text

namespace Host

/-! ## Digits -/

section Digits

variable {c : Char} {n : Nat}

theorem hexValue?_lt (h : Percent.hexValue? c = some n) : n < 16 := by
  have hhex : Percent.isHex c = true := by simp [Percent.isHex, h]
  have hvalue := Percent.of_isHex (p := fun c => (Percent.hexValue? c).all (· < 16)) (by decide) hhex
  simpa [h] using hvalue

theorem valueInBase_concat (base : Nat) (digits : List Char) (c : Char) :
    valueInBase base (digits ++ [c])
      = base * valueInBase base digits + (Percent.hexValue? c).getD 0 := by
  rw [valueInBase, List.foldl_append]
  rfl

theorem valueInBase_lt (digits : List Char) : valueInBase 16 digits < 16 ^ digits.length := by
  induction digits using List.reverseRecOn with
  | nil => decide
  | append_singleton digits c ih =>
      have hdigit : (Percent.hexValue? c).getD 0 < 16 := by
        cases hvalue : Percent.hexValue? c with
        | none => decide
        | some n => exact hexValue?_lt hvalue
      rw [valueInBase_concat, List.length_append, List.length_singleton, Nat.pow_succ]
      omega

theorem hexText_eq (n : Nat) :
    hexText n = if n < 16 then [Nat.digitChar n]
      else hexText (n / 16) ++ [Nat.digitChar (n % 16)] :=
  Nat.toDigits_eq_if (by decide)

theorem hexValue?_digitChar : ∀ n < 16, Percent.hexValue? (Nat.digitChar n) = some n := by
  decide

theorem valueInBase_hexText (n : Nat) : valueInBase 16 (hexText n) = n := by
  induction n using Nat.strongRecOn with
  | _ n ih =>
    rw [hexText_eq]
    split
    next hlt => simp [valueInBase, hexValue?_digitChar n hlt]
    next hge =>
      rw [valueInBase_concat, ih (n / 16) (by omega),
        hexValue?_digitChar (n % 16) (Nat.mod_lt n (by decide))]
      exact Nat.div_add_mod n 16

theorem isHex_of_mem_hexText (h : c ∈ hexText n) : Percent.isHex c = true := by
  have hdigit : ∀ m < 16, Percent.isHex (Nat.digitChar m) = true := fun m hm => by
    rw [Percent.isHex, hexValue?_digitChar m hm]
    rfl
  induction n using Nat.strongRecOn with
  | _ n ih =>
    rw [hexText_eq] at h
    split at h
    next hlt => exact List.mem_singleton.1 h ▸ hdigit n hlt
    next hge =>
      rcases List.mem_append.1 h with hfront | hlast
      · exact ih (n / 16) (by omega) hfront
      · exact List.mem_singleton.1 hlast ▸ hdigit _ (Nat.mod_lt n (by decide))

theorem hexText_ne_nil (n : Nat) : hexText n ≠ [] := Nat.toDigits_ne_nil

theorem length_hexText_le (h : n < 0x10000) : (hexText n).length ≤ 4 :=
  (Nat.length_toDigits_le_iff (by decide) (by decide)).2 h

theorem notMem_hexText {d : Char} (hd : Percent.isHex d = false) (n : Nat) : d ∉ hexText n := by
  intro hmem
  rw [isHex_of_mem_hexText hmem] at hd
  cases hd

end Digits

/-! ## Four bytes -/

section FourBytes

variable {address : Nat} {name : List Char}

/-- The bytes of an address, the highest one first. -/
def quad (address : Nat) : List Nat :=
  [0x1000000, 0x10000, 0x100, 1].map fun unit => address / unit % 256

theorem writeIpv4_eq (address : Nat) :
    writeIpv4 address = joinWith ['.'] ((quad address).map decimal) := rfl

theorem mem_writeIpv4 {c : Char} (h : c ∈ writeIpv4 address) : c = '.' ∨ c.isDigit = true := by
  rw [writeIpv4_eq] at h
  rcases mem_of_mem_joinWith h with hdot | ⟨part, hpart, hc⟩
  · exact .inl (List.mem_singleton.1 hdot)
  · rcases List.mem_map.1 hpart with ⟨n, -, rfl⟩
    exact .inr (isDigit_of_mem_decimal hc)

theorem dot_notMem_decimal (n : Nat) : '.' ∉ decimal n := fun hmem => by
  cases isDigit_of_mem_decimal hmem

theorem labels_writeIpv4 (address : Nat) :
    labels (writeIpv4 address) = (quad address).map decimal := by
  have hsplit : splitOn '.' (writeIpv4 address) = (quad address).map decimal := by
    rw [writeIpv4_eq]
    refine splitOn_joinWith (List.cons_ne_nil _ _) fun part hpart => ?_
    rcases List.mem_map.1 hpart with ⟨n, -, rfl⟩
    exact dot_notMem_decimal n
  have hlast : ((quad address).map decimal).getLast? ≠ some [] := by
    change some (decimal (address / 1 % 256)) ≠ some []
    simpa using decimal_ne_nil _
  simp only [labels, hsplit, hlast, decide_false, Bool.and_false, Bool.false_eq_true, if_false]

theorem ipv4Number?_decimal : ∀ n < 256, ipv4Number? (decimal n) = some n := by
  decide +kernel

theorem lt_of_mem_quad {n : Nat} (h : n ∈ quad address) : n < 256 := by
  rcases List.mem_map.1 h with ⟨unit, -, rfl⟩
  exact Nat.mod_lt _ (by decide)

/-- Four bytes are read as they are written. -/
theorem readIpv4?_writeIpv4 (h : address < 2 ^ 32) :
    readIpv4? (writeIpv4 address) = some address := by
  have hnumbers : ((quad address).map decimal).mapM ipv4Number? = some (quad address) :=
    mapM_map _ fun n hn => ipv4Number?_decimal n (lt_of_mem_quad hn)
  have hfront : (quad address).dropLast.any (· > 255) = false := by
    rw [List.any_eq_false]
    intro n hn
    have hlt := lt_of_mem_quad (List.dropLast_subset _ hn)
    simpa using Nat.le_of_lt_succ hlt
  have hvalue : (256 * (256 * (256 * 0 + address / 0x1000000 % 256) + address / 0x10000 % 256)
      + address / 0x100 % 256) * 256 + address / 1 % 256 = address := by
    omega
  have hlast : (quad address).getLast? = some (address / 1 % 256) := rfl
  have hlength : ¬ ((quad address).map decimal).length > 4 := Nat.lt_irrefl 4
  have hroom : ¬ address / 1 % 256 ≥ Nat.pow 256 (4 - (quad address).dropLast.length) :=
    Nat.not_le_of_lt (Nat.mod_lt _ (by decide))
  simp only [readIpv4?, labels_writeIpv4, if_neg hlength, hnumbers, bind, Option.bind_some, hlast,
    hfront, decide_eq_false hroom, Bool.or_false, Bool.false_eq_true, if_false]
  exact congrArg some hvalue

theorem endsInNumber_writeIpv4 (address : Nat) : endsInNumber (writeIpv4 address) = true := by
  have hlast : ((quad address).map decimal).getLast? = some (decimal (address / 1 % 256)) := rfl
  have hdigits : (decimal (address / 1 % 256)).all Char.isDigit = true :=
    List.all_eq_true.2 fun _ hc => isDigit_of_mem_decimal hc
  simp only [endsInNumber, labels_writeIpv4, hlast, hdigits, Bool.true_or, Bool.and_true]
  simpa using decimal_ne_nil _

theorem foldl_bytes_lt (bytes : List Nat) (h : ∀ n ∈ bytes, n < 256) :
    bytes.foldl (fun n byte => 256 * n + byte) 0 < 256 ^ bytes.length := by
  induction bytes using List.reverseRecOn with
  | nil => decide
  | append_singleton bytes byte ih =>
      have hbyte : byte < 256 := h byte (by simp)
      have hfront := ih fun n hn => h n (List.mem_append_left _ hn)
      rw [List.foldl_append, List.length_append, List.length_singleton, Nat.pow_succ]
      change 256 * _ + byte < _
      omega

/-- What is read has four bytes. -/
theorem lt_of_readIpv4? (h : readIpv4? name = some address) : address < 2 ^ 32 := by
  simp only [readIpv4?, Option.ite_none_left_eq_some, Option.bind_eq_bind, Option.bind_eq_some_iff,
    Bool.or_eq_true, decide_eq_true_eq, not_or, Bool.not_eq_true, List.any_eq_false] at h
  rcases h with ⟨hparts, numbers, hnumbers, last, hlast, ⟨hroom, hbytes⟩, haddress⟩
  have hlength : numbers.length = (labels name).length := by
    simpa using (congrArg List.length (map_eq_of_mapM hnumbers)).symm
  have hfront := foldl_bytes_lt numbers.dropLast fun n hn => by
    have hbyte := hbytes n hn
    omega
  have hcount : numbers.dropLast.length ≤ 3 := by
    rw [List.length_dropLast]
    omega
  generalize numbers.dropLast.foldl _ 0 = high at hfront haddress
  generalize numbers.dropLast.length = k at hroom hfront hcount haddress
  obtain rfl := Option.some.inj haddress
  have hlow : last < 256 ^ (4 - k) := Nat.lt_of_not_le hroom
  calc high * 256 ^ (4 - k) + last
      < high * 256 ^ (4 - k) + 256 ^ (4 - k) := Nat.add_lt_add_left hlow _
    _ = (high + 1) * 256 ^ (4 - k) := (Nat.succ_mul _ _).symm
    _ ≤ 256 ^ k * 256 ^ (4 - k) := Nat.mul_le_mul_right _ hfront
    _ = 256 ^ 4 := by rw [← Nat.pow_add, Nat.add_sub_cancel' (by omega)]
    _ = 2 ^ 32 := by decide

end FourBytes

/-! ## Eight numbers -/

section EightNumbers

variable {numbers : List Nat} {i n : Nat} {s : List Char}

/-- Numbers with colons between them. -/
def group (numbers : List Nat) : List Char := joinWith [':'] (numbers.map hexText)

theorem ipv6Group?_map (h : ∀ n ∈ numbers, n < 0x10000) :
    ipv6Group? (numbers.map hexText) = some numbers := by
  induction numbers with
  | nil => rfl
  | cons n numbers ih =>
      rw [List.forall_mem_cons] at h
      have hdot : '.' ∉ hexText n := notMem_hexText rfl n
      have hempty : (hexText n).isEmpty = false := by
        simpa using hexText_ne_nil n
      have hlong : ¬ (hexText n).length > 4 := Nat.not_lt_of_le (length_hexText_le h.1)
      have hhex : ((hexText n).all fun c => (Percent.hexValue? c).isSome) = true :=
        List.all_eq_true.2 fun c hc => isHex_of_mem_hexText hc
      simp [ipv6Group?, hdot, hempty, hlong, hhex, ih h.2, valueInBase_hexText]

/-- A group starts with a digit. -/
theorem exists_group_cons (n : Nat) (numbers : List Nat) :
    ∃ c s, group (n :: numbers) = c :: s ∧ c ≠ ':' := by
  rcases List.exists_cons_of_ne_nil (hexText_ne_nil n) with ⟨c, rest, hc⟩
  have hcolon : c ≠ ':' := by
    rintro rfl
    exact notMem_hexText (d := ':') rfl n (by simp [hc])
  cases numbers with
  | nil => exact ⟨c, rest, hc, hcolon⟩
  | cons m numbers =>
      refine ⟨c, rest ++ [':'] ++ group (m :: numbers), ?_, hcolon⟩
      rw [group, List.map_cons, List.map_cons, joinWith_cons_cons, hc]
      rfl

theorem groupOf_group (numbers : List Nat) : groupOf (group numbers) = numbers.map hexText := by
  cases numbers with
  | nil => rfl
  | cons n numbers =>
      have hcolon : ∀ part ∈ (n :: numbers).map hexText, ':' ∉ part := by
        intro part hpart
        rcases List.mem_map.1 hpart with ⟨m, -, rfl⟩
        exact notMem_hexText rfl m
      rcases exists_group_cons n numbers with ⟨c, s, hgroup, -⟩
      have hne : (group (n :: numbers)).isEmpty = false := by rw [hgroup]; rfl
      rw [groupOf, hne, if_neg (by simp)]
      exact splitOn_joinWith (by simp) hcolon

theorem ipv6Group?_group (h : ∀ n ∈ numbers, n < 0x10000) :
    ipv6Group? (groupOf (group numbers)) = some numbers := by
  rw [groupOf_group, ipv6Group?_map h]

theorem splitAtGap_part {part : List Char} (hpart : ':' ∉ part) (acc rest : List Char) :
    splitAtGap acc (part ++ rest) = splitAtGap (part.reverse ++ acc) rest := by
  induction part generalizing acc with
  | nil => rfl
  | cons c part ih =>
      rw [List.mem_cons, not_or] at hpart
      have hstep : splitAtGap acc (c :: (part ++ rest)) = splitAtGap (c :: acc) (part ++ rest) := by
        rw [splitAtGap]
        intro rest' heq
        exact absurd heq.symm hpart.1
      rw [List.cons_append, hstep, ih hpart.2, List.reverse_cons, List.append_assoc]
      rfl

/-- One colon is no gap. -/
theorem splitAtGap_group (numbers : List Nat) (acc rest : List Char) :
    splitAtGap acc (group numbers ++ rest) = splitAtGap ((group numbers).reverse ++ acc) rest := by
  induction numbers generalizing acc with
  | nil => rfl
  | cons n numbers ih =>
      have hcolon : ':' ∉ hexText n := notMem_hexText rfl n
      cases numbers with
      | nil => exact splitAtGap_part hcolon acc rest
      | cons m numbers =>
          have hgroup : group (n :: m :: numbers) = hexText n ++ ':' :: group (m :: numbers) := by
            rw [group, List.map_cons, List.map_cons, joinWith_cons_cons, List.append_assoc]
            rfl
          -- the next number starts with a digit
          have hstep : ∀ acc, splitAtGap acc (':' :: (group (m :: numbers) ++ rest))
              = splitAtGap (':' :: acc) (group (m :: numbers) ++ rest) := by
            intro acc
            rcases exists_group_cons m numbers with ⟨c, s, hnext, hc⟩
            rw [hnext, List.cons_append, splitAtGap]
            intro rest' _ heq
            exact absurd (List.cons.inj heq).1 hc
          rw [hgroup, List.append_assoc, splitAtGap_part hcolon, List.cons_append, hstep, ih]
          simp

theorem splitAtGap_of_group (numbers : List Nat) :
    splitAtGap [] (group numbers) = (group numbers, none) := by
  have hsplit := splitAtGap_group numbers [] []
  rw [List.append_nil, List.append_nil] at hsplit
  rw [hsplit, splitAtGap, List.reverse_reverse]

theorem splitAtGap_of_groups (front back : List Nat) :
    splitAtGap [] (group front ++ ':' :: ':' :: group back) = (group front, some (group back)) := by
  rw [splitAtGap_group, splitAtGap, List.append_nil, List.reverse_reverse]

/-! ### The gap -/

theorem mem_group {c : Char} (h : c ∈ group numbers) : c = ':' ∨ Percent.isHex c = true := by
  rcases mem_of_mem_joinWith h with hcolon | ⟨part, hpart, hc⟩
  · exact .inl (List.mem_singleton.1 hcolon)
  · rcases List.mem_map.1 hpart with ⟨n, -, rfl⟩
    exact .inr (isHex_of_mem_hexText hc)

theorem mem_writeIpv6 {c : Char} (h : c ∈ writeIpv6 numbers) :
    c = ':' ∨ Percent.isHex c = true := by
  rw [writeIpv6] at h
  split at h
  next => exact mem_group h
  next i n _ =>
    rcases List.mem_append.1 h with hfront | hback
    · rcases List.mem_append.1 hfront with hfront | hgap
      · exact mem_group hfront
      · exact .inl (by simpa using hgap)
    · exact mem_group hback

/-- A run of zeros that may be left out. -/
structure IsGap (numbers : List Nat) (start length : Nat) : Prop where
  two_le : 2 ≤ length
  zeros : zeroRun (numbers.drop start) = length

theorem isGap_of_longestGap (h : longestGap numbers = some (i, n)) : IsGap numbers i n := by
  have hfold : ∀ gap ∈ longestGap numbers, IsGap numbers gap.1 gap.2 := by
    refine List.foldlRecOn (motive := fun best : Option (Nat × Nat) =>
      ∀ gap ∈ best, IsGap numbers gap.1 gap.2) _ _ (fun _ hnone => nomatch hnone) ?_
    intro best hbest place _ gap hgap
    cases best with
    | none =>
        simp only [Option.mem_def, Option.ite_none_right_eq_some] at hgap
        obtain rfl := Option.some.inj hgap.2
        exact ⟨hgap.1, rfl⟩
    | some best =>
        have hold := hbest best rfl
        dsimp only at hgap
        split at hgap
        next hlonger =>
          obtain rfl := Option.some.inj hgap
          exact ⟨Nat.le_trans hold.two_le (Nat.le_of_lt hlonger), rfl⟩
        next => exact hbest gap hgap
  exact hfold (i, n) h

theorem IsGap.length_le (h : IsGap numbers i n) : i + n ≤ numbers.length := by
  have htwo := h.two_le
  have hrun : n ≤ (numbers.drop i).length := by
    rw [← h.zeros]
    exact (List.takeWhile_sublist _).length_le
  rw [List.length_drop] at hrun
  omega

/-- A gap stands for zeros. -/
theorem IsGap.numbers_eq (h : IsGap numbers i n) :
    numbers.take i ++ List.replicate n 0 ++ numbers.drop (i + n) = numbers := by
  have hzeros : (numbers.drop i).takeWhile (· == 0) = List.replicate n 0 := by
    rw [← h.zeros]
    exact List.eq_replicate_of_mem fun _ hm => by simpa using List.mem_takeWhile_imp hm
  have hrun : List.replicate n 0 = (numbers.drop i).take n := by
    have hprefix := List.prefix_iff_eq_take.1 (List.takeWhile_prefix (· == 0) (l := numbers.drop i))
    rwa [hzeros, List.length_replicate] at hprefix
  rw [hrun, List.append_assoc, ← List.drop_drop, List.take_append_drop, List.take_append_drop]

/-- Eight numbers are read as they are written. -/
theorem readIpv6?_writeIpv6 (hlength : numbers.length = 8) (h : ∀ n ∈ numbers, n < 0x10000) :
    readIpv6? (writeIpv6 numbers) = some numbers := by
  cases hgap : longestGap numbers with
  | none =>
      have hwrite : writeIpv6 numbers = group numbers := by
        rw [writeIpv6, hgap]
        rfl
      simp only [hwrite, readIpv6?, splitAtGap_of_group, ipv6Group?_group h, hlength, bind,
        Option.bind_some, if_true]
  | some gap =>
      rcases gap with ⟨i, n⟩
      have hrun := isGap_of_longestGap hgap
      have hwrite : writeIpv6 numbers
          = group (numbers.take i) ++ ':' :: ':' :: group (numbers.drop (i + n)) := by
        rw [writeIpv6, hgap]
        exact List.append_assoc _ _ _
      have hfront : ipv6Group? (groupOf (group (numbers.take i))) = some (numbers.take i) :=
        ipv6Group?_group fun m hm => h m (List.mem_of_mem_take hm)
      have hback : ipv6Group? (groupOf (group (numbers.drop (i + n))))
          = some (numbers.drop (i + n)) :=
        ipv6Group?_group fun m hm => h m (List.mem_of_mem_drop hm)
      have hdot : (group (numbers.take i)).contains '.' = false := by
        rw [List.contains_eq_mem, decide_eq_false_iff_not]
        intro hmem
        rcases mem_group hmem with heq | hhex
        · cases heq
        · cases hhex
      have hle := hrun.length_le
      have htwo := hrun.two_le
      have htake : (numbers.take i).length = i := by
        rw [List.length_take]
        omega
      have hdrop : (numbers.drop (i + n)).length = 8 - i - n := by
        rw [List.length_drop]
        omega
      have hroom : ¬ i + (8 - i - n) > 7 := by omega
      have hzeros : 8 - i - (8 - i - n) = n := by omega
      simp only [hwrite, readIpv6?, splitAtGap_of_groups, hdot, hfront, hback, bind,
        Option.bind_some, htake, hdrop, if_neg hroom, hzeros, hrun.numbers_eq, Bool.false_eq_true,
        if_false]

theorem lt_of_ipv6Tail? (h : ipv6Tail? s = some numbers) : ∀ n ∈ numbers, n < 0x10000 := by
  simp only [ipv6Tail?, Option.bind_eq_bind, Option.bind_eq_some_iff] at h
  rcases h with ⟨bytes, hbytes, hnumbers⟩
  have hbyte : ∀ byte ∈ bytes, byte ≤ 255 := by
    intro byte hbyte
    have hmem := List.mem_map_of_mem (f := some) hbyte
    rw [← map_eq_of_mapM hbytes] at hmem
    rcases List.mem_map.1 hmem with ⟨part, -, hread⟩
    split at hread
    · cases hread
    · simpa using (Option.filter_eq_some_iff.1 hread).2
  split at hnumbers
  next a b c d =>
    obtain rfl := Option.some.inj hnumbers
    simp only [List.forall_mem_cons, List.not_mem_nil, false_implies, implies_true, and_true]
      at hbyte ⊢
    omega
  next => cases hnumbers

theorem lt_of_ipv6Group? {parts : List (List Char)} (h : ipv6Group? parts = some numbers) :
    ∀ n ∈ numbers, n < 0x10000 := by
  induction parts generalizing numbers with
  | nil =>
      obtain rfl := Option.some.inj h
      exact fun _ hn => nomatch hn
  | cons part parts ih =>
      rw [ipv6Group?] at h
      split at h
      · exact lt_of_ipv6Tail? h
      split at h
      · cases h
      next hpart =>
        rcases Option.map_eq_some_iff.1 h with ⟨rest, hrest, rfl⟩
        rw [List.forall_mem_cons]
        refine ⟨?_, ih hrest⟩
        have hlength : part.length ≤ 4 := by
          simp only [Bool.or_eq_true, decide_eq_true_eq, not_or] at hpart
          exact Nat.le_of_not_lt hpart.1.2
        calc valueInBase 16 part < 16 ^ part.length := valueInBase_lt part
          _ ≤ 16 ^ 4 := Nat.pow_le_pow_right (by decide) hlength

/-- What is read are eight numbers of two bytes. -/
theorem numbers_of_readIpv6? (h : readIpv6? s = some numbers) :
    numbers.length = 8 ∧ ∀ n ∈ numbers, n < 0x10000 := by
  rw [readIpv6?] at h
  split at h
  next all hsplit =>
    simp only [Option.bind_eq_bind, Option.bind_eq_some_iff, Option.ite_none_right_eq_some] at h
    rcases h with ⟨read, hread, hlength, hsame⟩
    obtain rfl := Option.some.inj hsame
    exact ⟨hlength, lt_of_ipv6Group? hread⟩
  next front back hsplit =>
    simp only [Option.bind_eq_bind, Option.bind_eq_some_iff, Option.ite_none_left_eq_some] at h
    rcases h with ⟨-, high, hhigh, low, hlow, hroom, hsame⟩
    obtain rfl := Option.some.inj hsame
    refine ⟨by simp; omega, fun n hn => ?_⟩
    simp only [List.mem_append, List.mem_replicate] at hn
    rcases hn with (hn | ⟨-, rfl⟩) | hn
    · exact lt_of_ipv6Group? hhigh n hn
    · decide
    · exact lt_of_ipv6Group? hlow n hn

end EightNumbers

end Host

end StubConsole
