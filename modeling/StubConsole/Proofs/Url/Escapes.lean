import StubConsole.Proofs.Text.Cuts
import StubConsole.Url.Percent

/-!
# Escapes — what a text stands for in an address

A percent sign in front of two hexadecimal digits is an escape.  An escape is longer than the byte
that it stands for, and a text without escapes stands for its own bytes.

* `Percent.startsEscape`, `Percent.hasEscape` — escapes at the start of a text, and anywhere;
* `Percent.decode_induction` — texts by their escapes and their other characters;
* `Percent.length_decode_le`, `Percent.hasEscape_of_length` — bytes are lost to escapes only;
* `Percent.decode_encode_path` — encoding a part of a path keeps what it stands for.
-/

namespace StubConsole

open Text

namespace Percent

def isHex (c : Char) : Bool := (hexValue? c).isSome

/-- The text starts with an escape. -/
def startsEscape : List Char → Bool
  | c :: x :: y :: _ => c = '%' && isHex x && isHex y
  | _ => false

def hasEscape : List Char → Bool
  | [] => false
  | c :: s => startsEscape (c :: s) || hasEscape s

/-! ## Texts by their escapes -/

section Decode

variable {c x y : Char} {s t : List Char}

/-- A character that starts no escape stands for itself. -/
theorem decode_plain (h : startsEscape (c :: s) = false) :
    decode (c :: s) = String.utf8EncodeChar c ++ decode s := by
  rw [decode.eq_def]
  split
  next x y rest heq =>
    cases heq
    split
    next m n hm hn => simp [startsEscape, isHex, hm, hn] at h
    next => rfl
  next heq =>
    cases heq
    rfl
  next heq => cases heq

theorem decode_escape (hx : isHex x = true) (hy : isHex y = true) :
    ∃ b, ∀ s, decode ('%' :: x :: y :: s) = b :: decode s := by
  rcases Option.isSome_iff_exists.1 hx with ⟨m, hm⟩
  rcases Option.isSome_iff_exists.1 hy with ⟨n, hn⟩
  exact ⟨UInt8.ofNat (16 * m + n), fun s => by simp [decode, hm, hn]⟩

/-- A text is empty, starts with an escape, or starts with a character that stands for itself. -/
@[elab_as_elim]
theorem decode_induction {motive : List Char → Prop} (nil : motive [])
    (plain : ∀ c s, startsEscape (c :: s) = false → motive s → motive (c :: s))
    (escape : ∀ x y s, isHex x = true → isHex y = true → motive s → motive ('%' :: x :: y :: s))
    (s : List Char) : motive s := by
  induction s using decode.induct with
  | case1 x y rest m n hn hm ih =>
      exact escape x y rest (by simp [isHex, hm]) (by simp [isHex, hn]) ih
  | case2 x y rest hnone ih =>
      refine plain '%' _ ?_ ih
      cases hx : hexValue? x <;> cases hy : hexValue? y <;> simp [startsEscape, isHex, hx, hy]
      exact hnone _ _ hx hy
  | case3 c rest hne ih =>
      refine plain c rest ?_ ih
      match rest with
      | [] | [_] => rfl
      | x :: y :: rest =>
          have hc : c ≠ '%' := fun heq => hne x y rest heq rfl
          simp [startsEscape, hc]
  | case4 => exact nil

end Decode

/-! ## How many bytes a text stands for -/

section Length

variable {s t : List Char}

theorem length_decode_le (s : List Char) : (decode s).length ≤ byteLength s := by
  induction s using decode_induction with
  | nil => exact Nat.le_refl _
  | plain c s h ih =>
      rw [decode_plain h, List.length_append, String.length_utf8EncodeChar, byteLength_cons]
      omega
  | escape x y s hx hy ih =>
      rcases decode_escape hx hy with ⟨b, hb⟩
      have hpos := Char.utf8Size_pos '%'
      simp only [hb, List.length_cons, byteLength_cons]
      omega

/-- An escape loses bytes. -/
theorem hasEscape_of_length (h : byteLength s ≤ (decode s).length) : hasEscape s = false := by
  induction s using decode_induction with
  | nil => rfl
  | plain c s hplain ih =>
      rw [decode_plain hplain, List.length_append, String.length_utf8EncodeChar,
        byteLength_cons] at h
      rw [hasEscape, hplain, ih (by omega), Bool.or_false]
  | escape x y s hx hy ih =>
      rcases decode_escape hx hy with ⟨b, hb⟩
      have hle := length_decode_le s
      have hsign : '%'.utf8Size = 1 := rfl
      have hpos := Char.utf8Size_pos x
      simp only [hb, List.length_cons, byteLength_cons, hsign] at h
      omega

theorem decode_of_not_hasEscape (h : hasEscape s = false) : decode s = bytes s := by
  induction s with
  | nil => rfl
  | cons c s ih =>
      rw [hasEscape, Bool.or_eq_false_iff] at h
      rw [decode_plain h.1, ih h.2]
      rfl

end Length

/-! ## Texts put together -/

section Append

variable {c x : Char} {s t : List Char}

theorem startsEscape_of_first (h : ∀ x ∈ s.head?, isHex x = false) :
    startsEscape (c :: s) = false := by
  match s with
  | [] | [_] => rfl
  | x :: _ :: _ => simp [startsEscape, h x rfl]

theorem startsEscape_of_second (h : ∀ y ∈ s.head?, isHex y = false) :
    startsEscape (c :: x :: s) = false := by
  match s with
  | [] => rfl
  | y :: _ => simp [startsEscape, h y rfl]

/-- A text that does not go on with a digit completes no escape. -/
theorem startsEscape_append (ht : ∀ x ∈ t.head?, isHex x = false) :
    startsEscape (c :: (s ++ t)) = startsEscape (c :: s) := by
  match s with
  | [] => rw [List.nil_append, startsEscape_of_first ht]; rfl
  | [_] => rw [List.singleton_append, startsEscape_of_second ht]; rfl
  | _ :: _ :: _ => rfl

theorem decode_append (s : List Char) (ht : ∀ x ∈ t.head?, isHex x = false) :
    decode (s ++ t) = decode s ++ decode t := by
  induction s using decode_induction with
  | nil => rfl
  | plain c s h ih =>
      have h' : startsEscape (c :: (s ++ t)) = false := by rw [startsEscape_append ht, h]
      rw [List.cons_append, decode_plain h', ih, decode_plain h, List.append_assoc]
  | escape x y s hx hy ih =>
      rcases decode_escape hx hy with ⟨b, hb⟩
      simp only [List.cons_append, hb, ih]

end Append

/-! ## Encoding a part of a path -/

section Encode

variable {c : Char} {s : List Char}

theorem encode_cons (special : Char → Bool) (c : Char) (s : List Char) :
    encode special (c :: s) = (if special c then encodeChar c else [c]) ++ encode special s := rfl

@[simp] theorem encode_append (special : Char → Bool) (s t : List Char) :
    encode special (s ++ t) = encode special s ++ encode special t :=
  List.flatMap_append

theorem encode_cons_plain {special : Char → Bool} (h : special c = false) (s : List Char) :
    encode special (c :: s) = c :: encode special s := by
  simp [encode_cons, h]

theorem isHex_hexDigit (n : Nat) : isHex (hexDigit n) = true := by
  have hdigits : ∀ m < 16, isHex ((Nat.digitChar m).toUpper) = true := by decide
  exact hdigits (n % 16) (Nat.mod_lt n (by decide))

theorem hexValue?_hexDigit (n : Nat) : hexValue? (hexDigit n) = some (n % 16) := by
  have hdigits : ∀ m < 16, hexValue? ((Nat.digitChar m).toUpper) = some m := by decide
  exact hdigits (n % 16) (Nat.mod_lt n (by decide))

theorem decode_encodeByte (b : UInt8) (s : List Char) :
    decode (encodeByte b ++ s) = b :: decode s := by
  have hlt := b.toNat_lt
  have hvalue : 16 * (b.toNat / 16 % 16) + b.toNat % 16 = b.toNat := by omega
  simp [encodeByte, decode, hexValue?_hexDigit, hvalue]

theorem decode_encodeChar (c : Char) (s : List Char) :
    decode (encodeChar c ++ s) = String.utf8EncodeChar c ++ decode s := by
  unfold encodeChar
  induction String.utf8EncodeChar c with
  | nil => rfl
  | cons b bytes ih =>
      rw [List.flatMap_cons, List.append_assoc, decode_encodeByte, ih, List.cons_append]

theorem isHex_bounds (h : isHex c = true) : 48 ≤ c.toNat ∧ c.toNat ≤ 102 := by
  simp only [isHex, hexValue?, Char.isDigit, Char.le_def, UInt32.le_iff_toNat_le, Bool.and_eq_true,
    decide_eq_true_eq] at h
  split at h
  next hdigit =>
    change 48 ≤ c.toNat ∧ c.toNat ≤ 57 at hdigit
    omega
  split at h
  next hsmall =>
    change 97 ≤ c.toNat ∧ c.toNat ≤ 102 at hsmall
    omega
  split at h
  next hcapital =>
    change 65 ≤ c.toNat ∧ c.toNat ≤ 70 at hcapital
    omega
  next => cases h

def hexDigits : List Char :=
  ['0', '1', '2', '3', '4', '5', '6', '7', '8', '9', 'a', 'b', 'c', 'd', 'e', 'f', 'A', 'B', 'C',
    'D', 'E', 'F']

theorem mem_hexDigits (h : isHex c = true) : c ∈ hexDigits := by
  have hall : ∀ n < 103, isHex (Char.ofNat n) = true → Char.ofNat n ∈ hexDigits := by decide
  have hbounds := isHex_bounds h
  exact of_toNat_lt (P := fun d => isHex d = true → d ∈ hexDigits) hall (by omega) h

/-- What is checked for each digit holds of any. -/
theorem of_isHex {p : Char → Bool} (hall : hexDigits.all p = true) (h : isHex c = true) :
    p c = true :=
  List.all_eq_true.1 hall c (mem_hexDigits h)

/-- Hexadecimal digits are not encoded in paths. -/
theorem path_of_isHex (h : isHex c = true) : path c = false := by
  simpa using of_isHex (p := fun c => !path c) (by decide) h

theorem isHex_of_path (h : path c = true) : isHex c = false := by
  rw [← Bool.not_eq_true]
  intro hhex
  rw [path_of_isHex hhex] at h
  cases h

theorem exists_encodeChar (c : Char) : ∃ s, encodeChar c = '%' :: s := by
  rcases List.exists_cons_of_ne_nil (String.utf8EncodeChar_ne_nil (c := c)) with ⟨b, rest, h⟩
  exact ⟨_, by rw [encodeChar, h]; rfl⟩

/-- What is encoded is no digit of an escape, and neither is a percent sign. -/
theorem startsEscape_encode (c : Char) (s : List Char) :
    startsEscape (c :: encode path s) = startsEscape (c :: s) := by
  have hencoded : ∀ x s, path x = true → ∀ y ∈ (encode path (x :: s)).head?, isHex y = false := by
    intro x s hx y hy
    rcases exists_encodeChar x with ⟨t, ht⟩
    simp only [encode_cons, hx, if_true, ht, List.cons_append, List.head?_cons, Option.mem_def,
      Option.some.injEq] at hy
    exact hy ▸ rfl
  -- only the next two characters matter, and digits stay what they are
  cases s with
  | nil => rfl
  | cons x s =>
      by_cases hx : path x = true
      · rw [startsEscape_of_first (hencoded x s hx), startsEscape_of_first]
        simpa using isHex_of_path hx
      rw [encode_cons_plain (Bool.eq_false_iff.2 hx)]
      cases s with
      | nil => rfl
      | cons y s =>
          by_cases hy : path y = true
          · rw [startsEscape_of_second (hencoded y s hy), startsEscape_of_second]
            simpa using isHex_of_path hy
          · rw [encode_cons_plain (Bool.eq_false_iff.2 hy)]
            rfl

theorem decode_encode_path (s : List Char) : decode (encode path s) = decode s := by
  induction s using decode_induction with
  | nil => rfl
  | plain c s h ih =>
      rw [decode_plain h, encode_cons]
      split
      · rw [decode_encodeChar, ih]
      · have h' : startsEscape (c :: encode path s) = false := by rw [startsEscape_encode, h]
        rw [List.singleton_append, decode_plain h', ih]
  | escape x y s hx hy ih =>
      rcases decode_escape hx hy with ⟨b, hb⟩
      rw [encode_cons_plain (c := '%') rfl, encode_cons_plain (path_of_isHex hx),
        encode_cons_plain (path_of_isHex hy), hb, hb, ih]

theorem mem_encodeChar {d : Char} (h : d ∈ encodeChar c) : d = '%' ∨ isHex d = true := by
  rcases List.mem_flatMap.1 h with ⟨b, -, hb⟩
  simp only [encodeByte, List.mem_cons, List.not_mem_nil, or_false] at hb
  rcases hb with rfl | rfl | rfl
  · exact .inl rfl
  · exact .inr (isHex_hexDigit _)
  · exact .inr (isHex_hexDigit _)

/-- Characters of an encoded text belong to an escape, or are written as they are. -/
theorem mem_encode {special : Char → Bool} (h : c ∈ encode special s) :
    (c = '%' ∨ isHex c = true) ∨ c ∈ s ∧ special c = false := by
  rcases List.mem_flatMap.1 h with ⟨d, hd, hc⟩
  split at hc
  next => exact .inl (mem_encodeChar hc)
  next hplain =>
    obtain rfl := List.mem_singleton.1 hc
    exact .inr ⟨hd, Bool.eq_false_iff.2 hplain⟩

/-- Where the characters of escapes may stand, an encoded text has no other ones. -/
theorem special_of_mem_encode {special : Char → Bool}
    (hescape : ('%' :: hexDigits).all (fun c => !special c) = true) (h : c ∈ encode special s) :
    special c = false := by
  rw [List.all_cons, Bool.and_eq_true, Bool.not_eq_true'] at hescape
  rcases mem_encode h with (rfl | hhex) | ⟨-, hplain⟩
  · exact hescape.1
  · simpa using of_isHex hescape.2 hhex
  · exact hplain

theorem encode_ne_nil (special : Char → Bool) (h : s ≠ []) : encode special s ≠ [] := by
  rcases List.exists_cons_of_ne_nil h with ⟨c, rest, rfl⟩
  rcases exists_encodeChar c with ⟨t, ht⟩
  rw [encode_cons]
  split <;> simp [ht]

theorem slash_notMem_encode (h : '/' ∉ s) : '/' ∉ encode path s := by
  intro hmem
  rcases mem_encode hmem with (hpercent | hhex) | ⟨hs, -⟩
  · cases hpercent
  · cases hhex
  · exact h hs

theorem encode_eq_self {special : Char → Bool} (h : ∀ c ∈ s, special c = false) :
    encode special s = s := by
  induction s with
  | nil => rfl
  | cons c s ih =>
      rw [List.forall_mem_cons] at h
      rw [encode_cons_plain h.1, ih h.2]

theorem decode_cons_of_ne (h : c ≠ '%') (s : List Char) :
    decode (c :: s) = String.utf8EncodeChar c ++ decode s := by
  refine decode_plain ?_
  match s with
  | [] | [_] => rfl
  | _ :: _ :: _ => simp [startsEscape, h]

/-- A text without percent signs stands for its own bytes. -/
theorem decode_of_notMem (h : '%' ∉ s) : decode s = bytes s := by
  induction s with
  | nil => rfl
  | cons c s ih =>
      rw [List.mem_cons, not_or] at h
      rw [decode_cons_of_ne (Ne.symm h.1), ih h.2]
      rfl

/-- Names and values of a query are written with few characters. -/
theorem mem_formEncode (h : c ∈ formEncode s) : c = '+' ∨ c = '%' ∨ formPlain c = true := by
  rcases List.mem_flatMap.1 h with ⟨d, -, hc⟩
  split at hc
  · exact .inl (List.mem_singleton.1 hc)
  split at hc
  next hplain => exact .inr (.inr (List.mem_singleton.1 hc ▸ hplain))
  next =>
    rcases mem_encodeChar hc with hpercent | hhex
    · exact .inr (.inl hpercent)
    · exact .inr (.inr (of_isHex (by decide) hhex))

end Encode

/-! ## Controls and spaces -/

section Low

variable {c d : Char}

theorem ne_of_low (hd : d.toNat ≤ 0x20) (hc : 0x20 < c.toNat) : d ≠ c := by
  intro heq
  rw [heq] at hd
  omega

theorem isHex_of_low (hd : d.toNat ≤ 0x20) : isHex d = false := by
  rw [← Bool.not_eq_true]
  intro hhex
  have hbounds := isHex_bounds hhex
  omega

/-- Behind any text, a control or a space stands for itself. -/
theorem decode_concat_low (s : List Char) (hd : d.toNat ≤ 0x20) :
    decode (s ++ [d]) = decode s ++ [UInt8.ofNat d.toNat] := by
  have hplain : decode [d] = String.utf8EncodeChar d ++ decode [] := decode_plain rfl
  rw [decode_append s (by simpa using isHex_of_low hd), hplain,
    utf8EncodeChar_ascii (Nat.lt_of_le_of_lt hd (by decide))]
  rfl

end Low

end Percent

end StubConsole
