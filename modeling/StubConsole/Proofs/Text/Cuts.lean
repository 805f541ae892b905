import Mathlib.Data.List.Basic
import Mathlib.Data.List.TakeWhile
import StubConsole.Text.Lines
import StubConsole.Text.Utf8

/-!
# Cuts — parts of a text

A cut is a part in which every character passes a test, next to one that fails it.  Separators cut a
text too, at the first or the last of them or at all.

* `Text.takeWhile_cut`, `Text.dropWhile_reverse_cut` — a cut is found, from either end;
* `Text.splitAt?_append` — the first separator;
* `Text.append_sep_inj` — the last separator, and the parts around it, are determined;
* `Text.splitOn_append_sep`, `Text.exists_splitOn_concat` — all separators;
* `Text.joinWith_splitOn`, `Text.splitOn_joinWith` — parts that are joined again;
* `Text.eq_of_sublist` — a part with as many bytes is the whole;
* `Text.fromUTF8?_bytes`, `Text.bytes_of_fromUTF8?` — texts and their bytes.
-/

namespace StubConsole

namespace Text

/-- Characters that a test tells apart. -/
theorem ne_of_test {p : Char → Bool} {c d : Char} (hc : p c = false) (hd : p d = true) : c ≠ d := by
  rintro rfl
  rw [hc] at hd
  cases hd

/-- What is checked for each of the first characters holds of any of them. -/
theorem of_toNat_lt {P : Char → Prop} {bound : Nat} {c : Char}
    (hall : ∀ n < bound, P (Char.ofNat n)) (hc : c.toNat < bound) : P c := by
  have hchar := hall c.toNat hc
  rwa [Char.ofNat_toNat] at hchar

/-! ## Cuts -/

section Cuts

variable {p : Char → Bool} {front rest : List Char}

theorem dropWhile_cut (hfront : ∀ c ∈ front, p c = true) (hrest : ∀ c ∈ rest.head?, p c = false) :
    (front ++ rest).dropWhile p = rest := by
  rw [List.dropWhile_append_of_pos hfront]
  cases rest with
  | nil => rfl
  | cons c rest => simp [hrest c rfl]

theorem takeWhile_cut (hfront : ∀ c ∈ front, p c = true) (hrest : ∀ c ∈ rest.head?, p c = false) :
    (front ++ rest).takeWhile p = front := by
  rw [List.takeWhile_append_of_pos hfront]
  cases rest with
  | nil => simp
  | cons c rest => simp [hrest c rfl]

theorem dropWhile_reverse_cut (hfront : ∀ c ∈ front.getLast?, p c = false)
    (hrest : ∀ c ∈ rest, p c = true) :
    ((front ++ rest).reverse.dropWhile p).reverse = front := by
  have hcut : (rest.reverse ++ front.reverse).dropWhile p = front.reverse :=
    dropWhile_cut (by simpa using hrest) (by simpa using hfront)
  rw [List.reverse_append, hcut, List.reverse_reverse]

theorem takeWhile_reverse_cut (hfront : ∀ c ∈ front.getLast?, p c = false)
    (hrest : ∀ c ∈ rest, p c = true) :
    ((front ++ rest).reverse.takeWhile p).reverse = rest := by
  have hcut : (rest.reverse ++ front.reverse).takeWhile p = rest.reverse :=
    takeWhile_cut (by simpa using hrest) (by simpa using hfront)
  rw [List.reverse_append, hcut, List.reverse_reverse]

/-- Every text has a cut from the front. -/
theorem exists_cut (p : Char → Bool) (s : List Char) :
    ∃ front rest, s = front ++ rest ∧ (∀ c ∈ front, p c = true) ∧
      ∀ c ∈ rest.head?, p c = false := by
  refine ⟨s.takeWhile p, s.dropWhile p, List.takeWhile_append_dropWhile.symm,
    fun c hc => List.mem_takeWhile_imp hc, ?_⟩
  intro c hc
  have hhead := List.head?_dropWhile_not p s
  rw [Option.mem_def] at hc
  rwa [hc] at hhead

/-- Every text has a cut from the end. -/
theorem exists_cut_reverse (p : Char → Bool) (s : List Char) :
    ∃ front rest, s = front ++ rest ∧ (∀ c ∈ front.getLast?, p c = false) ∧
      ∀ c ∈ rest, p c = true := by
  rcases exists_cut p s.reverse with ⟨rest, front, hs, hrest, hfront⟩
  refine ⟨front.reverse, rest.reverse, ?_, by simpa using hfront, by simpa using hrest⟩
  rw [← List.reverse_append, ← hs, List.reverse_reverse]

end Cuts

/-! ## The first and the last separator -/

section Separator

variable {sep : Char} {a b a' b' s : List Char}

theorem splitAt?_of_notMem (h : sep ∉ s) : splitAt? sep s = none := by
  induction s with
  | nil => rfl
  | cons c rest ih =>
      rw [List.mem_cons, not_or] at h
      simp [splitAt?, ih h.2, Ne.symm h.1]

theorem splitAt?_append (h : sep ∉ a) (b : List Char) :
    splitAt? sep (a ++ b) = (splitAt? sep b).map fun cut => (a ++ cut.1, cut.2) := by
  induction a with
  | nil => simp
  | cons c rest ih =>
      rw [List.mem_cons, not_or] at h
      simp [splitAt?, ih h.2, Ne.symm h.1, Function.comp_def]

theorem splitAt?_cut (h : sep ∉ a) (b : List Char) :
    splitAt? sep (a ++ sep :: b) = some (a, b) := by
  simp [splitAt?_append h, splitAt?]

theorem splitAt?_eq_some (h : splitAt? sep s = some (a, b)) : s = a ++ sep :: b ∧ sep ∉ a := by
  by_cases hmem : sep ∈ s
  · rcases List.eq_append_cons_of_mem hmem with ⟨front, rest, rfl, hfront⟩
    rw [splitAt?_cut hfront] at h
    cases h
    exact ⟨rfl, hfront⟩
  · rw [splitAt?_of_notMem hmem] at h
    cases h

theorem splitAt?_eq_none_iff : splitAt? sep s = none ↔ sep ∉ s := by
  refine ⟨fun h hmem => ?_, splitAt?_of_notMem⟩
  rcases List.eq_append_cons_of_mem hmem with ⟨front, rest, rfl, hfront⟩
  rw [splitAt?_cut hfront] at h
  cases h

theorem takeWhile_reverse_sep (a : List Char) (hb : sep ∉ b) :
    ((a ++ sep :: b).reverse.takeWhile (· ≠ sep)).reverse = b := by
  have hcut : a ++ sep :: b = (a ++ [sep]) ++ b := by simp
  rw [hcut]
  refine takeWhile_reverse_cut (by simp) fun c hc => ?_
  simpa using fun heq : c = sep => hb (heq ▸ hc)

/-- The parts around the last separator are determined. -/
theorem append_sep_inj (hb : sep ∉ b) (hb' : sep ∉ b') (h : a ++ sep :: b = a' ++ sep :: b') :
    a = a' ∧ b = b' := by
  have hrest : b = b' := by
    rw [← takeWhile_reverse_sep a hb, h, takeWhile_reverse_sep a' hb']
  subst hrest
  exact ⟨List.append_cancel_right h, rfl⟩

end Separator

/-! ## All separators -/

section Split

variable {sep : Char} {a b : List Char}

theorem splitOn_ne_nil (sep : Char) (s : List Char) : splitOn sep s ≠ [] := by
  unfold splitOn
  split
  next => simp
  next =>
    split
    · simp
    · split <;> simp

theorem splitOn_append_sep (sep : Char) (a b : List Char) :
    splitOn sep (a ++ sep :: b) = splitOn sep a ++ splitOn sep b := by
  induction a with
  | nil => simp [splitOn]
  | cons c rest ih =>
      simp only [List.cons_append, splitOn]
      split
      · rw [ih, List.cons_append]
      · rw [ih]
        cases h : splitOn sep rest with
        | nil => exact absurd h (splitOn_ne_nil sep rest)
        | cons part parts => rfl

theorem splitOn_of_notMem (h : sep ∉ a) : splitOn sep a = [a] := by
  induction a with
  | nil => rfl
  | cons c rest ih =>
      rw [List.mem_cons, not_or] at h
      simp [splitOn, ih h.2, Ne.symm h.1]

theorem length_splitOn (sep : Char) (s : List Char) :
    (splitOn sep s).length = s.count sep + 1 := by
  induction s with
  | nil => rfl
  | cons c rest ih =>
      unfold splitOn
      split
      next hc => simp [hc, ih]
      next hc =>
        rw [List.count_cons_of_ne hc]
        cases h : splitOn sep rest with
        | nil => exact absurd h (splitOn_ne_nil sep rest)
        | cons part parts => rw [← ih, h]; rfl

/-- The last part of a text, and how it grows with the text. -/
theorem exists_splitOn_concat (sep : Char) (s : List Char) :
    ∃ parts last, last <:+ s ∧ sep ∉ last
      ∧ ∀ more, sep ∉ more → splitOn sep (s ++ more) = parts ++ [last ++ more] := by
  by_cases hmem : sep ∈ s
  · rcases List.eq_append_cons_of_mem (List.mem_reverse.2 hmem) with ⟨last, front, hs, hlast⟩
    have hs : s = front.reverse ++ sep :: last.reverse := by
      rw [← List.reverse_reverse s, hs]
      simp
    refine ⟨splitOn sep front.reverse, last.reverse, ⟨front.reverse ++ [sep], by simp [hs]⟩,
      by simpa using hlast, fun more hmore => ?_⟩
    have hpart : splitOn sep (last.reverse ++ more) = [last.reverse ++ more] :=
      splitOn_of_notMem (by simp [hlast, hmore])
    rw [hs, List.append_assoc, List.cons_append, splitOn_append_sep, hpart]
  · refine ⟨[], s, List.suffix_rfl, hmem, fun more hmore => ?_⟩
    rw [splitOn_of_notMem (by simp [hmem, hmore])]
    rfl

theorem exists_mem_splitOn {c : Char} {s : List Char} (hc : c ≠ sep) (h : c ∈ s) :
    ∃ part ∈ splitOn sep s, c ∈ part := by
  induction s with
  | nil => cases h
  | cons first s ih =>
      rw [splitOn]
      rcases List.mem_cons.1 h with rfl | hrest
      · rw [if_neg hc]
        cases splitOn sep s with
        | nil => exact ⟨[c], by simp⟩
        | cons part parts => exact ⟨c :: part, by simp⟩
      · rcases ih hrest with ⟨part, hpart, hmem⟩
        split
        · exact ⟨part, List.mem_cons_of_mem _ hpart, hmem⟩
        · cases hsplit : splitOn sep s with
          | nil => exact absurd hsplit (splitOn_ne_nil sep s)
          | cons head parts =>
              rw [hsplit, List.mem_cons] at hpart
              rcases hpart with rfl | hpart
              · exact ⟨first :: part, by simp [hmem]⟩
              · exact ⟨part, by simp [hpart], hmem⟩

theorem joinWith_cons_cons (between first second : List Char) (parts : List (List Char)) :
    joinWith between (first :: second :: parts)
      = first ++ between ++ joinWith between (second :: parts) := rfl

theorem joinWith_append (between : List Char) {front rest : List (List Char)} (hfront : front ≠ [])
    (hrest : rest ≠ []) :
    joinWith between (front ++ rest)
      = joinWith between front ++ between ++ joinWith between rest := by
  induction front with
  | nil => exact absurd rfl hfront
  | cons part front ih =>
      cases front with
      | nil =>
          rcases List.exists_cons_of_ne_nil hrest with ⟨next, more, rfl⟩
          rfl
      | cons second front =>
          rw [List.cons_append, List.cons_append, joinWith_cons_cons, ← List.cons_append,
            ih (List.cons_ne_nil _ _), joinWith_cons_cons]
          simp

theorem mem_joinWith {c : Char} {parts : List (List Char)} {part : List Char} (between : List Char)
    (hpart : part ∈ parts) (hc : c ∈ part) : c ∈ joinWith between parts := by
  induction parts with
  | nil => cases hpart
  | cons first parts ih =>
      cases parts with
      | nil =>
          rw [List.mem_singleton.1 hpart] at hc
          exact hc
      | cons second parts =>
          rw [joinWith_cons_cons, List.mem_append, List.mem_append]
          rcases List.mem_cons.1 hpart with rfl | hrest
          · exact .inl (.inl hc)
          · exact .inr (ih hrest)

theorem mem_of_mem_joinWith {c : Char} {between : List Char} {parts : List (List Char)}
    (h : c ∈ joinWith between parts) : c ∈ between ∨ ∃ part ∈ parts, c ∈ part := by
  induction parts with
  | nil => cases h
  | cons first parts ih =>
      cases parts with
      | nil => exact .inr ⟨first, List.mem_cons_self, h⟩
      | cons second parts =>
          rw [joinWith_cons_cons, List.mem_append, List.mem_append] at h
          rcases h with (hfirst | hbetween) | hrest
          · exact .inr ⟨first, List.mem_cons_self, hfirst⟩
          · exact .inl hbetween
          · rcases ih hrest with hbetween | ⟨part, hpart, hc⟩
            · exact .inl hbetween
            · exact .inr ⟨part, List.mem_cons_of_mem _ hpart, hc⟩

/-- Parts that are cut and joined again. -/
theorem joinWith_splitOn (sep : Char) (s : List Char) : joinWith [sep] (splitOn sep s) = s := by
  induction s with
  | nil => rfl
  | cons c s ih =>
      rw [splitOn]
      cases hsplit : splitOn sep s with
      | nil => exact absurd hsplit (splitOn_ne_nil sep s)
      | cons part parts =>
          rw [hsplit] at ih
          split
          next hc => rw [joinWith_cons_cons, ih, hc, List.nil_append, List.singleton_append]
          next hc =>
            cases parts with
            | nil => exact congrArg (c :: ·) ih
            | cons second parts =>
                rw [joinWith_cons_cons] at ih
                rw [joinWith_cons_cons, List.cons_append, List.cons_append, ih]

/-- Parts without separators that are joined and cut again. -/
theorem splitOn_joinWith {parts : List (List Char)} (hne : parts ≠ [])
    (h : ∀ part ∈ parts, sep ∉ part) : splitOn sep (joinWith [sep] parts) = parts := by
  induction parts with
  | nil => exact absurd rfl hne
  | cons first parts ih =>
      rw [List.forall_mem_cons] at h
      cases parts with
      | nil => exact splitOn_of_notMem h.1
      | cons second parts =>
          rw [joinWith_cons_cons, List.append_assoc, List.singleton_append, splitOn_append_sep,
            splitOn_of_notMem h.1, ih (List.cons_ne_nil _ _) h.2]
          rfl

theorem mem_of_mem_splitOn {c : Char} {s part : List Char} (hpart : part ∈ splitOn sep s)
    (hc : c ∈ part) : c ∈ s := by
  rw [← joinWith_splitOn sep s]
  exact mem_joinWith [sep] hpart hc

/-- Parts that are written and read one by one. -/
theorem mapM_map {α β : Type} {read : β → Option α} {write : α → β} (items : List α)
    (hread : ∀ a ∈ items, read (write a) = some a) : (items.map write).mapM read = some items := by
  induction items with
  | nil => rfl
  | cons a rest ih =>
      have hrest := ih fun b hb => hread b (List.mem_cons_of_mem _ hb)
      simp [hread a List.mem_cons_self, hrest]

theorem map_eq_of_mapM {α β : Type} {read : β → Option α} {parts : List β} {items : List α}
    (h : parts.mapM read = some items) : parts.map read = items.map some := by
  induction parts generalizing items with
  | nil =>
      obtain rfl : [] = items := by simpa using h
      rfl
  | cons part parts ih =>
      simp only [List.mapM_cons, Option.bind_eq_bind, Option.bind_eq_some_iff, Option.pure_def,
        Option.some.injEq] at h
      rcases h with ⟨a, ha, rest, hrest, rfl⟩
      rw [List.map_cons, List.map_cons, ha, ih hrest]

end Split

/-! ## Parts at the start -/

theorem dropPrefix?_eq_some {s start rest : List Char} (h : dropPrefix? s start = some rest) :
    s = start ++ rest := by
  induction start generalizing s with
  | nil => simpa [dropPrefix?] using h
  | cons p start ih =>
      cases s with
      | nil => simp [dropPrefix?] at h
      | cons c s =>
          rw [dropPrefix?, Option.ite_none_right_eq_some] at h
          rw [h.1, List.cons_append, ← ih h.2]

theorem exists_of_startsWith {s start : List Char} (h : startsWith s start = true) :
    ∃ rest, s = start ++ rest := by
  rcases Option.isSome_iff_exists.1 h with ⟨rest, hrest⟩
  exact ⟨rest, dropPrefix?_eq_some hrest⟩

/-! ## Bytes -/

theorem byteLength_eq_zero_iff {s : List Char} : byteLength s = 0 ↔ s = [] := by
  cases s with
  | nil => simp
  | cons c s =>
      have hpos := Char.utf8Size_pos c
      simp only [byteLength_cons, reduceCtorEq, iff_false]
      omega

theorem byteLength_le_of_sublist {a s : List Char} (h : a.Sublist s) :
    byteLength a ≤ byteLength s := by
  induction h with
  | slnil => exact Nat.le_refl _
  | cons c h ih => rw [byteLength_cons]; omega
  | cons_cons c h ih => simpa using ih

/-- A part with as many bytes is the whole. -/
theorem eq_of_sublist {a s : List Char} (h : a.Sublist s) (hbytes : byteLength s ≤ byteLength a) :
    a = s := by
  induction h with
  | slnil => rfl
  | cons c h ih =>
      have hpos := Char.utf8Size_pos c
      have hle := byteLength_le_of_sublist h
      rw [byteLength_cons] at hbytes
      omega
  | cons_cons c h ih => rw [ih (by simpa using hbytes)]

theorem length_bytes (s : List Char) : (bytes s).length = byteLength s := by
  induction s with
  | nil => rfl
  | cons c s ih =>
      rw [byteLength_cons, ← ih, ← String.length_utf8EncodeChar]
      exact List.length_append

theorem utf8EncodeChar_ascii {c : Char} (h : c.toNat < 0x80) :
    String.utf8EncodeChar c = [UInt8.ofNat c.toNat] := by
  have hle : c.val.toNat ≤ 127 := Nat.le_of_lt_succ h
  rw [String.utf8EncodeChar]
  exact if_pos hle

/-- No byte of another character is an ASCII character. -/
theorem le_of_mem_utf8EncodeChar {b : UInt8} {d : Char} (hd : 0x80 ≤ d.toNat)
    (hb : b ∈ String.utf8EncodeChar d) : 0x80 ≤ b.toNat := by
  have hvalid : d.val.toNat < 0x110000 := by
    have hchar := d.valid
    unfold UInt32.isValidChar Nat.isValidChar at hchar
    omega
  have hlarge : ¬ d.val.toNat ≤ 127 := Nat.not_le_of_lt hd
  have hbyte : ∀ n, 0x80 ≤ n → n < 256 → 0x80 ≤ (UInt8.ofNat n).toNat := fun n hn hlt => by
    rwa [UInt8.toNat_ofNat_of_lt' hlt]
  simp only [String.utf8EncodeChar, if_neg hlarge] at hb
  split at hb
  all_goals try split at hb
  all_goals
    simp only [List.mem_cons, List.not_mem_nil, or_false] at hb
    rcases hb with rfl | hb
    · exact hbyte _ (by omega) (by omega)
  · exact hb ▸ hbyte _ (by omega) (by omega)
  · rcases hb with rfl | rfl
    all_goals exact hbyte _ (by omega) (by omega)
  · rcases hb with rfl | rfl | rfl
    all_goals exact hbyte _ (by omega) (by omega)

theorem mem_of_mem_bytes {c : Char} {s : List Char} (hc : c.toNat < 0x80)
    (h : UInt8.ofNat c.toNat ∈ bytes s) : c ∈ s := by
  rcases List.mem_flatMap.1 h with ⟨d, hd, hbyte⟩
  have hvalue : ∀ n < 0x80, (UInt8.ofNat n).toNat = n := fun n hn =>
    UInt8.toNat_ofNat_of_lt' (Nat.lt_trans hn (by decide))
  by_cases hascii : d.toNat < 0x80
  · rw [utf8EncodeChar_ascii hascii, List.mem_singleton] at hbyte
    have heq : c.toNat = d.toNat := by rw [← hvalue _ hc, hbyte, hvalue _ hascii]
    rwa [Char.toNat_inj.1 heq]
  · have hle := le_of_mem_utf8EncodeChar (Nat.le_of_not_lt hascii) hbyte
    rw [hvalue _ hc] at hle
    omega

/-- Different texts have different bytes. -/
theorem bytes_injective : Function.Injective bytes := by
  intro a b h
  have hencoded : a.utf8Encode = b.utf8Encode := congrArg List.toByteArray h
  have hdecoded : some a.toArray = some b.toArray := by
    rw [← List.utf8Decode?_utf8Encode, hencoded, List.utf8Decode?_utf8Encode]
  simpa using hdecoded

/-- The bytes of a text are read as the text. -/
theorem fromUTF8?_bytes (s : List Char) :
    String.fromUTF8? ⟨(bytes s).toArray⟩ = some (String.ofList s) := by
  have hbytes : (String.ofList s).toByteArray = ⟨(bytes s).toArray⟩ := by
    rw [String.toByteArray_ofList, List.utf8Encode]
    apply ByteArray.ext
    simp [bytes]
  rw [← hbytes, String.fromUTF8?, dif_pos (String.ofList s).isValidUTF8]
  rfl

theorem bytes_of_fromUTF8? {s : List UInt8} {text : String}
    (h : String.fromUTF8? ⟨s.toArray⟩ = some text) : bytes text.toList = s := by
  unfold String.fromUTF8? at h
  split at h
  next hvalid =>
    have hencoded := String.utf8Encode_toList (b := text)
    rw [← Option.some.inj h] at hencoded ⊢
    have hlist := congrArg (fun b : ByteArray => b.data.toList) hencoded
    simpa [List.utf8Encode, String.fromUTF8, bytes] using hlist
  next => cases h

end Text

end StubConsole
