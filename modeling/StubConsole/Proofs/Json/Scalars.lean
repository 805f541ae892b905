import StubConsole.Json.Printer
import StubConsole.Json.Reader

/-!
# Scalars — numbers and texts read back

* `Json.EndsNumber` — what may follow a number;
* `Json.readNumber_decimal` — a written whole number is read as itself;
* `Json.readText_quoted` — a quoted text is read as itself.
-/

namespace StubConsole

namespace Json

/-! ## Digits -/

/-- The text does not go on with a number that ends here. -/
def EndsNumber (rest : List Char) : Prop :=
  ∀ c ∈ rest.head?, c.isDigit = false ∧ c ≠ '.' ∧ c ≠ 'e' ∧ c ≠ 'E'

theorem endsNumber_nil : EndsNumber [] := by
  intro c hc
  cases hc

theorem endsNumber_cons {c : Char} {rest : List Char} (hdigit : c.isDigit = false)
    (hpoint : c ≠ '.') (hlower : c ≠ 'e') (hupper : c ≠ 'E') : EndsNumber (c :: rest) := by
  intro d hd
  obtain rfl : c = d := by simpa using hd
  exact ⟨hdigit, hpoint, hlower, hupper⟩

theorem le_ofDigitChars (digits : List Char) (init : Nat) :
    init ≤ Nat.ofDigitChars 10 digits init := by
  induction digits generalizing init with
  | nil => simp [Nat.ofDigitChars_nil]
  | cons c rest ih =>
      rw [Nat.ofDigitChars_cons]
      have hrest := ih (10 * init + (c.toNat - '0'.toNat))
      omega

/-- Digits are taken as long as their number fits a word. -/
theorem takeDigits_append {rest : List Char} (hrest : EndsNumber rest) :
    ∀ {digits : List Char} {init count : Nat}, (∀ c ∈ digits, c.isDigit = true) →
      Nat.ofDigitChars 10 digits init ≤ maxWord →
        takeDigits init count (digits ++ rest)
          = (Nat.ofDigitChars 10 digits init, count + digits.length, rest) := by
  intro digits
  induction digits with
  | nil =>
      intro init count _ _
      cases rest with
      | nil => simp [takeDigits, Nat.ofDigitChars_nil]
      | cons c rest =>
          have hc : c.isDigit = false := (hrest c rfl).1
          simp [takeDigits, Nat.ofDigitChars_nil, hc]
  | cons c digits ih =>
      intro init count hdigits hfits
      have hc : c.isDigit = true := hdigits c List.mem_cons_self
      rw [Nat.ofDigitChars_cons] at hfits ⊢
      -- the number only grows, so it fits a word at each digit if it does at the last
      have hnext : 10 * init + (c.toNat - '0'.toNat) ≤ maxWord :=
        Nat.le_trans (le_ofDigitChars digits _) hfits
      have hrest : ∀ d ∈ digits, d.isDigit = true :=
        fun d hd => hdigits d (List.mem_cons_of_mem _ hd)
      have hmore := @ih _ (count + 1) hrest hfits
      rw [List.cons_append, takeDigits, if_pos hc]
      simp only [if_pos hnext]
      rw [hmore, List.length_cons, Nat.add_assoc, Nat.add_comm 1]

theorem spanDigits_of_endsNumber {rest : List Char} (h : EndsNumber rest) :
    spanDigits rest = ([], rest) := by
  cases rest with
  | nil => rfl
  | cons c rest =>
      have hc : c.isDigit = false := (h c rfl).1
      simp [spanDigits, List.takeWhile, List.dropWhile, hc]

/-! ## Numbers -/

/-- Only the number zero begins with the digit zero. -/
theorem exists_decimal_eq_cons (n : Nat) :
    ∃ c cs, Text.decimal n = c :: cs ∧ c.isDigit = true ∧ (c = '0' → cs = []) := by
  -- by the digits before the last one, down to a number of one digit
  have hhead : ∀ m, 0 < m → ∀ c ∈ (Text.decimal m).head?, c ≠ '0' := by
    intro m
    induction m using Nat.strongRecOn with
    | ind m ih =>
        intro hpos c hc
        by_cases hm : m < 10
        · obtain rfl : Nat.digitChar m = c := by
            simpa [Text.decimal, Nat.toDigits_of_lt_base hm] using hc
          simpa using Nat.pos_iff_ne_zero.1 hpos
        · have hstep : Text.decimal m = Text.decimal (m / 10) ++ [Nat.digitChar (m % 10)] :=
            Nat.toDigits_of_base_le (by decide) (by omega)
          refine ih (m / 10) (by omega) (by omega) c ?_
          rw [hstep] at hc
          cases hfront : Text.decimal (m / 10) with
          | nil => exact absurd hfront (Text.decimal_ne_nil _)
          | cons d ds =>
              rw [hfront] at hc
              exact hc
  cases hdigits : Text.decimal n with
  | nil => exact absurd hdigits (Text.decimal_ne_nil n)
  | cons c cs =>
      have hmem : c ∈ Text.decimal n := hdigits ▸ List.mem_cons_self
      refine ⟨c, cs, rfl, Text.isDigit_of_mem_decimal hmem, ?_⟩
      intro hzero
      by_cases hn : n = 0
      · subst hn
        have hdecimal : Text.decimal 0 = ['0'] := Nat.toDigits_zero 10
        rw [hdecimal] at hdigits
        exact (List.cons.inj hdigits).2.symm
      · exact absurd hzero (hhead n (Nat.pos_of_ne_zero hn) c (by rw [hdigits]; rfl))

theorem readNumber_decimal {negative kept : Bool} {n : Nat} {rest : List Char}
    (hfits : n ≤ maxWord) (hrest : EndsNumber rest) :
    readNumber negative kept (Text.decimal n ++ rest) = .ok (wholeNumber negative n, rest) := by
  have hvalue : Nat.ofDigitChars 10 (Text.decimal n) 0 = n :=
    Nat.ofDigitChars_toDigits (by decide) (by decide)
  have htake : takeDigits 0 0 (Text.decimal n ++ rest)
      = (n, (Text.decimal n).length, rest) := by
    have hdigits : ∀ c ∈ Text.decimal n, c.isDigit = true :=
      fun c hc => Text.isDigit_of_mem_decimal hc
    rw [takeDigits_append hrest hdigits (by rw [hvalue]; exact hfits), hvalue, Nat.zero_add]
  rcases exists_decimal_eq_cons n with ⟨c, cs, hdecimal, hc, hzero⟩
  -- no number is written with a zero in front, so the reader does not stop there
  have hlead : (decide (c = '0') && (cs ++ rest).head?.any Char.isDigit) = false := by
    by_cases h0 : c = '0'
    · rw [hzero h0]
      cases rest with
      | nil => simp
      | cons d more =>
          have hd : d.isDigit = false := (hrest d rfl).1
          simp [hd]
    · simp [h0]
  rw [hdecimal, List.cons_append] at htake ⊢
  simp only [readNumber, hc, hlead, htake, spanDigits_of_endsNumber hrest]
  cases rest with
  | nil => simp
  | cons d more =>
      rcases hrest d rfl with ⟨-, hpoint, hlower, hupper⟩
      simp [hpoint, hlower, hupper]

/-! ## Texts -/

theorem hexValue?_hexDigit (n : Nat) : hexValue? (hexDigit n) = some (n % 16) := by
  have hall : ∀ d, d < 16 → hexValue? (Nat.digitChar d) = some d := by decide
  exact hall (n % 16) (Nat.mod_lt _ (by decide))

/-- A control character is read back from its number. -/
theorem readEscape_control {c : Char} (rest : List Char) (hc : c.toNat < 0x20) :
    readEscape true
        ('u' :: '0' :: '0' :: hexDigit (c.toNat / 16) :: hexDigit c.toNat :: rest)
      = .ok (c, rest) := by
  have hhigh : hexValue? (hexDigit (c.toNat / 16)) = some (c.toNat / 16) := by
    rw [hexValue?_hexDigit, Nat.mod_eq_of_lt (by omega)]
  have hzero : hexValue? '0' = some 0 := by decide
  -- the reader asks for four bytes, and four characters have at least as many
  have hbytes : ¬ Text.byteLength
      ('0' :: '0' :: hexDigit (c.toNat / 16) :: hexDigit c.toNat :: rest) < 4 := by
    have h0 := Char.utf8Size_pos '0'
    have h1 := Char.utf8Size_pos (hexDigit (c.toNat / 16))
    have h2 := Char.utf8Size_pos (hexDigit c.toNat)
    simp only [Text.byteLength_cons]
    omega
  have hhex : readHex ('0' :: '0' :: hexDigit (c.toNat / 16) :: hexDigit c.toNat :: rest)
      = .ok (c.toNat, rest) := by
    have hnumber : 4096 * 0 + 256 * 0 + 16 * (c.toNat / 16) + c.toNat % 16 = c.toNat := by omega
    rw [readHex, if_neg hbytes]
    simp only [hhigh, hzero, hexValue?_hexDigit, hnumber]
  -- a control character is no half of a surrogate pair
  have htrailing : isTrailing c.toNat = false := by
    simp [isTrailing]
    omega
  have hleading : isLeading c.toNat = false := by
    simp [isLeading]
    omega
  simp only [readEscape, if_true, readUnicode, hhex]
  simp [htrailing, hleading, Char.ofNat_toNat, Except.bind, bind, pure, Except.pure]

/-- One step of reading takes the written form of one character. -/
theorem readText_escape (acc : List Char) (fuel : Nat) (c : Char) (rest : List Char) :
    readText true acc (fuel + 1) (escape c ++ rest) = readText true (c :: acc) fuel rest := by
  -- the characters with an escape of their own, in the order of the printer
  by_cases hquote : c = '"'
  · subst hquote
    rfl
  by_cases hslash : c = '\\'
  · subst hslash
    rfl
  by_cases hfeed : c = '\n'
  · subst hfeed
    rfl
  by_cases hreturn : c = '\r'
  · subst hreturn
    rfl
  by_cases htab : c = '\t'
  · subst htab
    rfl
  by_cases hback : c = '\x08'
  · subst hback
    rfl
  by_cases hform : c = '\x0c'
  · subst hform
    rfl
  simp only [escape, if_neg hquote, if_neg hslash, if_neg hfeed, if_neg hreturn, if_neg htab,
    if_neg hback, if_neg hform]
  -- what is left is written by its number or as it is
  by_cases hcontrol : c.toNat < 0x20
  · have hread := readEscape_control rest hcontrol
    simp only [if_pos hcontrol, List.cons_append, List.nil_append, readText]
    simp [hread, bind, Except.bind]
  · simp [readText, hquote, hslash, hcontrol]

theorem readText_quoted {s : List Char} {rest : List Char} :
    ∀ {acc : List Char} {fuel : Nat}, s.length < fuel →
      readText true acc fuel (s.flatMap escape ++ '"' :: rest)
        = .ok (String.ofList (acc.reverse ++ s), rest) := by
  induction s with
  | nil =>
      intro acc fuel hfuel
      rcases Nat.exists_eq_add_of_le' (show 1 ≤ fuel by simp at hfuel; omega) with ⟨fuel, rfl⟩
      simp [readText]
  | cons c s ih =>
      intro acc fuel hfuel
      rcases Nat.exists_eq_add_of_le' (show 1 ≤ fuel by simp at hfuel; omega) with ⟨fuel, rfl⟩
      have hrest : s.length < fuel := by simpa using hfuel
      -- what was read so far grows by the character, and the rest is read as before
      calc
        readText true acc (fuel + 1) ((c :: s).flatMap escape ++ '"' :: rest)
            = readText true acc (fuel + 1) (escape c ++ (s.flatMap escape ++ '"' :: rest)) := by
              rw [List.flatMap_cons, List.append_assoc]
        _ = readText true (c :: acc) fuel (s.flatMap escape ++ '"' :: rest) :=
              readText_escape ..
        _ = .ok (String.ofList ((c :: acc).reverse ++ s), rest) := ih hrest
        _ = .ok (String.ofList (acc.reverse ++ c :: s), rest) := by simp

theorem length_le_flatMap_escape (s : List Char) : s.length ≤ (s.flatMap escape).length := by
  induction s with
  | nil => simp
  | cons c s ih =>
      have hone : 1 ≤ (escape c).length := by
        unfold escape
        repeat' split
        all_goals simp
      simp only [List.flatMap_cons, List.length_append, List.length_cons]
      omega

end Json

end StubConsole
