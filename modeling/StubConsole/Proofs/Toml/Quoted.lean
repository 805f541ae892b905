import Mathlib.Data.List.Basic
import StubConsole.Proofs.Json.Scalars
import StubConsole.Proofs.Text.Cuts
import StubConsole.Toml.Printer
import StubConsole.Toml.Reader

/-!
# Quoted — texts in a configuration file are read back

A text is written in one of four forms, and what each of them cannot carry decides between them.
Behind the opening quotes a reader meets a character that stands for itself, or an escape, or the
closing quotes; over several lines up to two quotes of the text may stand right in front of these.

* `Toml.Plain`, `Toml.Escaped` — how a character is written between double quotes;
* `Toml.readBasic?_escapeAll`, `Toml.readMultiline?_escapeAll`, `Toml.readMultiline?_literal`,
  `Toml.readLiteral?_append` — the four forms;
* `Toml.CarriedBy` — what a text is like that is written in a form;
* `Toml.readText?_quoted` — any text, in the form that is chosen for it.
-/

namespace StubConsole

namespace Toml

/-! ## Characters between double quotes -/

/-- The character stands for itself. -/
structure Plain (lines : Bool) (quotes : Nat) (c : Char) : Prop where
  written : escape lines quotes c = [c]
  solid : c ≠ '\\'
  quote : c = '"' → lines = true ∧ quotes < 2
  line : c = '\n' → lines = true
  noReturn : c ≠ '\r'
  allowed : c ≠ '\n' → isRefused c = false

/-- A backslash and what stands behind it, which does not join lines. -/
structure Escaped (lines : Bool) (quotes : Nat) (c : Char) (body : List Char) : Prop where
  written : escape lines quotes c = '\\' :: body
  read (rest : List Char) : readEscape? (body ++ rest) = some (c, rest)
  notJoined (rest : List Char) : joinedLine? (body ++ rest) = none

theorem joinedLine?_cons {c : Char} (rest : List Char) (hspace : isSpace c = false)
    (hfeed : c ≠ '\n') (hreturn : c ≠ '\r') : joinedLine? (c :: rest) = none := by
  have hskip : skipSpace (c :: rest) = c :: rest := by simp [skipSpace, hspace]
  have hnone : newLine? (c :: rest) = none := by
    unfold newLine?
    split
    next h => exact absurd (List.cons.inj h).1 hfeed
    next h => exact absurd (List.cons.inj h).1 hreturn
    next => rfl
  rw [joinedLine?, hskip, hnone]

/-- Four hexadecimal digits name a control character. -/
theorem readEscape?_control {c : Char} (hc : c.toNat < 0x80) (rest : List Char) :
    readEscape? ('u' :: hexDigits c.toNat ++ rest) = some (c, rest) := by
  have hdigits : ∀ n < 0x80, (hexDigits n).length = 4 ∧
      ((hexDigits n).mapM Json.hexValue?).map (·.foldl (16 * · + ·) 0) = some n := by
    decide +kernel
  rcases hdigits c.toNat hc with ⟨hlength, hvalue⟩
  rcases Option.map_eq_some_iff.1 hvalue with ⟨values, hvalues, hfold⟩
  have htake : (hexDigits c.toNat ++ rest).take 4 = hexDigits c.toNat := by
    rw [← hlength, List.take_left]
  have hdrop : (hexDigits c.toNat ++ rest).drop 4 = rest := by
    rw [← hlength, List.drop_left]
  have hrun : hexRun? 4 (hexDigits c.toNat ++ rest) = some (c.toNat, rest) := by
    simp only [hexRun?, htake, hdrop, hlength, if_true, hvalues, Option.map_some, hfold]
  have hvalid : c.toNat.isValidChar := c.valid
  have hscalar : scalar? c.toNat = some c := by
    rw [scalar?, dif_pos hvalid]
    rfl
  simp [readEscape?, hrun, hscalar]

section Characters

variable {lines : Bool} {quotes : Nat} {c : Char}

theorem Escaped.ofLetter (letter : Char) (hwritten : escape lines quotes c = ['\\', letter])
    (hread : ∀ rest, readEscape? (letter :: rest) = some (c, rest))
    (hletter : isSpace letter = false ∧ letter ≠ '\n' ∧ letter ≠ '\r') :
    Escaped lines quotes c [letter] where
  written := hwritten
  read := hread
  notJoined rest := joinedLine?_cons rest hletter.1 hletter.2.1 hletter.2.2

theorem Escaped.ofControl (hwritten : escape lines quotes c = '\\' :: 'u' :: hexDigits c.toNat)
    (hc : c.toNat < 0x80) : Escaped lines quotes c ('u' :: hexDigits c.toNat) where
  written := hwritten
  read := readEscape?_control hc
  notJoined rest := joinedLine?_cons _ rfl (by decide) (by decide)

theorem plain_or_escaped (lines : Bool) (quotes : Nat) (c : Char) :
    Plain lines quotes c ∨ ∃ body, Escaped lines quotes c body := by
  -- in the order of the printer, since a later form is only chosen if no earlier one was
  by_cases hquote : c = '"'
  · subst hquote
    by_cases hraw : lines = true ∧ quotes < 2
    · exact .inl ⟨by simp [escape, hraw], by decide, fun _ => hraw, fun h => absurd h (by decide),
        by decide, fun _ => rfl⟩
    · have hnone : ¬ (lines && quotes < 2) = true := by simpa using hraw
      have hwritten : escape lines quotes '"' = ['\\', '"'] := by
        rw [escape, if_pos rfl, if_neg hnone]
      exact .inr ⟨_, .ofLetter '"' hwritten (fun _ => rfl) (by decide)⟩
  by_cases hslash : c = '\\'
  · subst hslash
    exact .inr ⟨_, .ofLetter '\\' (by simp [escape]) (fun _ => rfl) (by decide)⟩
  by_cases hfeed : c = '\n'
  · subst hfeed
    cases lines with
    | true =>
        exact .inl ⟨rfl, by decide, fun h => absurd h (by decide), fun _ => rfl, by decide,
          fun h => absurd rfl h⟩
    | false =>
        exact .inr ⟨_, .ofLetter 'n' (by simp [escape]) (fun _ => rfl) (by decide)⟩
  by_cases htab : c = '\t'
  · subst htab
    exact .inr ⟨_, .ofLetter 't' (by simp [escape]) (fun _ => rfl) (by decide)⟩
  by_cases hreturn : c = '\r'
  · subst hreturn
    exact .inr ⟨_, .ofLetter 'r' (by simp [escape]) (fun _ => rfl) (by decide)⟩
  by_cases hback : c = '\x08'
  · subst hback
    exact .inr ⟨_, .ofLetter 'b' (by simp [escape]) (fun _ => rfl) (by decide)⟩
  by_cases hform : c = '\x0c'
  · subst hform
    exact .inr ⟨_, .ofLetter 'f' (by simp [escape]) (fun _ => rfl) (by decide)⟩
  have hwritten : escape lines quotes c =
      if c.toNat < 0x20 || c.toNat = 0x7F then '\\' :: 'u' :: hexDigits c.toNat else [c] := by
    simp only [escape, hquote, hslash, hfeed, htab, hreturn, hback, hform, if_false]
  by_cases hcontrol : (c.toNat < 0x20 || c.toNat = 0x7F) = true
  · have hsmall : c.toNat < 0x80 := by
      simp only [Bool.or_eq_true, decide_eq_true_eq] at hcontrol
      omega
    exact .inr ⟨_, .ofControl (hwritten.trans (if_pos hcontrol)) hsmall⟩
  · refine .inl ⟨hwritten.trans (if_neg hcontrol), hslash, fun h => absurd h hquote,
      fun h => absurd h hfeed, hreturn, fun _ => ?_⟩
    simp only [Bool.or_eq_true, not_or, Bool.not_eq_true, decide_eq_false_iff_not] at hcontrol
    simp [isRefused, hcontrol]

end Characters

/-! ## One line between double quotes -/

/-- On one line no quote stands for itself, so it does not matter how many were written. -/
theorem escapeAll_cons (quotes : Nat) (c : Char) (s : List Char) :
    escapeAll false quotes (c :: s) = escape false 0 c ++ escapeAll false 0 s := by
  simp [escapeAll, escape]

theorem readBasic?_escape (fuel : Nat) (c : Char) (tail : List Char) :
    readBasic? (fuel + 1) (escape false 0 c ++ tail)
      = (readBasic? fuel tail).map fun r => (c :: r.1, r.2) := by
  rcases plain_or_escaped false 0 c with hplain | ⟨body, hescaped⟩
  · have hquote : c ≠ '"' := fun h => nomatch (hplain.quote h).1
    have hfeed : c ≠ '\n' := fun h => nomatch hplain.line h
    rw [hplain.written, List.singleton_append, readBasic?, if_neg hquote, if_neg hplain.solid,
      hplain.allowed hfeed]
    cases readBasic? fuel tail <;> rfl
  · rw [hescaped.written, List.cons_append, readBasic?, if_neg (by decide), if_pos rfl,
      hescaped.read]
    simp only [Option.bind_eq_bind, Option.bind_some]
    cases readBasic? fuel tail <;> rfl

theorem readBasic?_escapeAll {fuel : Nat} {s : List Char} (hfuel : s.length < fuel)
    (rest : List Char) :
    readBasic? fuel (escapeAll false 0 s ++ '"' :: rest) = some (s, rest) := by
  induction s generalizing fuel with
  | nil =>
      cases fuel with
      | zero => cases hfuel
      | succ fuel => rfl
  | cons c s ih =>
      cases fuel with
      | zero => cases hfuel
      | succ fuel =>
          rw [escapeAll_cons, List.append_assoc, readBasic?_escape,
            ih (Nat.lt_of_succ_lt_succ hfuel)]
          rfl

/-! ## Runs of quotes -/

section Runs

variable {mark : Char}

theorem quoteRun_cons (mark : Char) (s : List Char) :
    quoteRun mark (mark :: s) = quoteRun mark s + 1 := by
  simp [quoteRun]

theorem quoteRun_cons_of_ne {c : Char} (hne : c ≠ mark) (s : List Char) :
    quoteRun mark (c :: s) = 0 := by
  simp [quoteRun, hne]

theorem quoteRun_replicate (n : Nat) {rest : List Char} (hrest : ∀ c ∈ rest.head?, c ≠ mark) :
    quoteRun mark (List.replicate n mark ++ rest) = n := by
  have hcut : (List.replicate n mark ++ rest).takeWhile (· = mark) = List.replicate n mark :=
    Text.takeWhile_cut (by simp) (by simpa using hrest)
  rw [quoteRun, hcut, List.length_replicate]

/-- Three quotes close a text, and up to two in front of them belong to it. -/
theorem readMultiline?_closing {n : Nat} (hn : n ≤ 2) {rest : List Char}
    (hrest : ∀ c ∈ rest.head?, c ≠ mark) (fuel : Nat) :
    readMultiline? mark (fuel + 1) (List.replicate n mark ++ (List.replicate 3 mark ++ rest))
      = some (List.replicate n mark, rest) := by
  have hjoined : List.replicate n mark ++ (List.replicate 3 mark ++ rest)
      = mark :: (List.replicate (n + 2) mark ++ rest) := by
    rw [← List.append_assoc, List.replicate_append_replicate]
    rfl
  have hrun : quoteRun mark (mark :: (List.replicate (n + 2) mark ++ rest)) = n + 3 := by
    rw [quoteRun_cons, quoteRun_replicate _ hrest]
  have hopen : (mark = mark && quoteRun mark (mark :: (List.replicate (n + 2) mark ++ rest)) ≥ 3)
      = true := by
    simp [hrun]
  have hrange : ¬ (n + 3 < 3 || n + 3 > 5) = true := by
    simp only [Bool.or_eq_true, decide_eq_true_eq]
    omega
  have hdrop : (mark :: (List.replicate (n + 2) mark ++ rest)).drop (n + 3) = rest := by
    rw [List.drop_succ_cons, List.drop_left']
    exact List.length_replicate
  rw [hjoined, readMultiline?, if_pos hopen, closing?]
  simp only [hrun]
  rw [if_neg hrange, hdrop, Nat.add_sub_cancel]

/-- A character in front of which no closing quotes stand is read by itself. -/
theorem readMultiline?_cons {c : Char} {fuel : Nat} {tail : List Char}
    (hopen : c = mark → quoteRun mark (c :: tail) < 3) (hslash : c = '\\' → mark ≠ '"')
    (hreturn : c ≠ '\r') (hallowed : c ≠ '\n' → isRefused c = false) :
    readMultiline? mark (fuel + 1) (c :: tail)
      = (readMultiline? mark fuel tail).map fun r => (c :: r.1, r.2) := by
  have hclose : ¬ (c = mark && quoteRun mark (c :: tail) ≥ 3) = true := by
    simpa using hopen
  have hescape : ¬ (c = '\\' && mark = '"') = true := by
    simpa using hslash
  have hrefused : ¬ (isRefused c && c ≠ '\n') = true := by
    by_cases hfeed : c = '\n'
    · simp [hfeed]
    · simp [hallowed hfeed]
  rw [readMultiline?, if_neg hclose, if_neg hescape, if_neg hreturn, if_neg hrefused]
  cases readMultiline? mark fuel tail <;> rfl

end Runs

/-! ## Several lines between double quotes -/

theorem readMultiline?_escaped {lines : Bool} {quotes : Nat} {c : Char} {body : List Char}
    (h : Escaped lines quotes c body) (fuel : Nat) (tail : List Char) :
    readMultiline? '"' (fuel + 1) ('\\' :: (body ++ tail))
      = (readMultiline? '"' fuel tail).map fun r => (c :: r.1, r.2) := by
  have hclose : ¬ ('\\' = '"' && quoteRun '"' ('\\' :: (body ++ tail)) ≥ 3) = true := by simp
  have hescape : ('\\' = '\\' && '"' = '"') = true := by decide
  rw [readMultiline?, if_neg hclose, if_pos hescape, h.notJoined, h.read]
  simp only [Option.bind_eq_bind, Option.bind_some]
  cases readMultiline? '"' fuel tail <;> rfl

/-- The quotes at the front of a written text are all there is, or there are too few to close. -/
theorem quoteRun_escapeAll {quotes : Nat} (hquotes : quotes ≤ 2) (s : List Char) :
    (∃ n, s = List.replicate n '"' ∧ quotes + n ≤ 2) ∨
      ∀ tail, quotes + quoteRun '"' (escapeAll true quotes s ++ tail) ≤ 2 := by
  induction s generalizing quotes with
  | nil => exact .inl ⟨0, rfl, hquotes⟩
  | cons c s ih =>
      by_cases hraw : c = '"' ∧ quotes < 2
      · obtain ⟨rfl, hfew⟩ := hraw
        have hwritten : escapeAll true quotes ('"' :: s)
            = '"' :: escapeAll true (quotes + 1) s := by
          simp [escapeAll, escape, hfew]
        have hsucc : quotes + 1 ≤ 2 := hfew
        rcases ih hsucc with ⟨n, rfl, hn⟩ | hrun
        · exact .inl ⟨n + 1, rfl, by omega⟩
        · refine .inr fun tail => ?_
          have hstep := hrun tail
          rw [hwritten, List.cons_append, quoteRun_cons]
          omega
      · refine .inr fun tail => ?_
        -- another character, or a quote behind a backslash
        have hhead : ∃ d rest, escape true quotes c = d :: rest ∧ d ≠ '"' := by
          rcases plain_or_escaped true quotes c with hplain | ⟨body, hescaped⟩
          · exact ⟨c, [], hplain.written, fun h => hraw ⟨h, (hplain.quote h).2⟩⟩
          · exact ⟨'\\', body, hescaped.written, by decide⟩
        rcases hhead with ⟨d, rest, hwritten, hne⟩
        rw [escapeAll, hwritten, List.cons_append, List.cons_append, quoteRun_cons_of_ne hne]
        exact hquotes

theorem escapeAll_replicate {quotes n : Nat} (hfew : quotes + n ≤ 2) :
    escapeAll true quotes (List.replicate n '"') = List.replicate n '"' := by
  induction n generalizing quotes with
  | zero => rfl
  | succ n ih =>
      have hraw : quotes < 2 := by omega
      rw [List.replicate_succ, escapeAll]
      simp only [hraw, decide_true, Bool.and_self, if_true]
      rw [ih (by omega)]
      simp [escape, hraw]

theorem readMultiline?_escapeAll {quotes fuel : Nat} {s rest : List Char} (hquotes : quotes ≤ 2)
    (hfuel : s.length < fuel) (hrest : ∀ c ∈ rest.head?, c ≠ '"') :
    readMultiline? '"' fuel (escapeAll true quotes s ++ (List.replicate 3 '"' ++ rest))
      = some (s, rest) := by
  induction s generalizing quotes fuel with
  | nil =>
      cases fuel with
      | zero => cases hfuel
      | succ fuel => exact readMultiline?_closing (Nat.zero_le 2) hrest fuel
  | cons c s ih =>
      cases fuel with
      | zero => cases hfuel
      | succ fuel =>
          rcases quoteRun_escapeAll hquotes (c :: s) with ⟨n, hs, hn⟩ | hrun
          · rw [hs, escapeAll_replicate hn]
            exact readMultiline?_closing (by omega) hrest fuel
          · have hnext :
                (if (c = '"' && true && quotes < 2) = true then quotes + 1 else 0) ≤ 2 := by
              split
              next hraw =>
                simp only [Bool.and_eq_true, decide_eq_true_eq] at hraw
                omega
              next => exact Nat.zero_le 2
            have hlater := ih hnext (Nat.lt_of_succ_lt_succ hfuel)
            have hfew := hrun (List.replicate 3 '"' ++ rest)
            rw [escapeAll] at hfew ⊢
            rcases plain_or_escaped true quotes c with hplain | ⟨body, hescaped⟩
            · rw [hplain.written, List.append_assoc, List.singleton_append] at hfew ⊢
              rw [readMultiline?_cons (fun _ => by omega) (fun h => absurd h hplain.solid)
                hplain.noReturn hplain.allowed, hlater]
              rfl
            · rw [hescaped.written, List.append_assoc, List.cons_append,
                readMultiline?_escaped hescaped, hlater]
              rfl

/-! ## Several lines between single quotes -/

/-- The step of `longestRun`: the run so far, and the longest one. -/
def countRun (mark : Char) (run : Nat × Nat) (c : Char) : Nat × Nat :=
  if c = mark then (run.1 + 1, max run.2 (run.1 + 1)) else (0, run.2)

theorem longestRun_eq (mark : Char) (s : List Char) :
    longestRun mark s = (s.foldl (countRun mark) (0, 0)).2 := rfl

theorem foldl_countRun_le (mark : Char) (s : List Char) {r m r' m' : Nat} (hr : r ≤ r')
    (hm : m ≤ m') :
    (s.foldl (countRun mark) (r, m)).2 ≤ (s.foldl (countRun mark) (r', m')).2 := by
  induction s generalizing r m r' m' with
  | nil => exact hm
  | cons c s ih =>
      by_cases hc : c = mark
      · simp only [List.foldl_cons, countRun, hc, if_true]
        exact ih (by omega) (by omega)
      · simp only [List.foldl_cons, countRun, hc, if_false]
        exact ih (Nat.le_refl 0) hm

theorem le_foldl_countRun (mark : Char) (s : List Char) (r m : Nat) :
    m ≤ (s.foldl (countRun mark) (r, m)).2 := by
  induction s generalizing r m with
  | nil => exact Nat.le_refl m
  | cons c s ih =>
      by_cases hc : c = mark
      · simp only [List.foldl_cons, countRun, hc, if_true]
        exact Nat.le_trans (Nat.le_max_left _ _) (ih _ _)
      · simp only [List.foldl_cons, countRun, hc, if_false]
        exact ih _ _

theorem add_quoteRun_le (mark : Char) (s : List Char) {r m : Nat} (hr : r ≤ m) :
    r + quoteRun mark s ≤ (s.foldl (countRun mark) (r, m)).2 := by
  induction s generalizing r m with
  | nil => exact hr
  | cons c s ih =>
      by_cases hc : c = mark
      · subst hc
        have hstep := ih (Nat.le_max_right m (r + 1))
        simp only [List.foldl_cons, countRun, if_true, quoteRun_cons]
        omega
      · rw [quoteRun_cons_of_ne hc, List.foldl_cons, countRun, if_neg hc]
        exact Nat.le_trans hr (le_foldl_countRun mark s 0 m)

theorem quoteRun_le_longestRun (mark : Char) (s : List Char) :
    quoteRun mark s ≤ longestRun mark s := by
  have hle := add_quoteRun_le mark s (Nat.le_refl 0)
  rwa [Nat.zero_add] at hle

theorem longestRun_le_cons (mark c : Char) (s : List Char) :
    longestRun mark s ≤ longestRun mark (c :: s) := by
  rw [longestRun_eq, longestRun_eq, List.foldl_cons]
  exact foldl_countRun_le mark s (Nat.zero_le _) (Nat.zero_le _)

/-- The quotes at the front of a text are all there is, or what follows does not add to them. -/
theorem quoteRun_append (mark : Char) (s : List Char) :
    s = List.replicate (quoteRun mark s) mark ∨
      ∀ tail, quoteRun mark (s ++ tail) = quoteRun mark s := by
  induction s with
  | nil => exact .inl rfl
  | cons c s ih =>
      by_cases hc : c = mark
      · subst hc
        rcases ih with hall | hrun
        · refine .inl ?_
          rw [quoteRun_cons, List.replicate_succ, ← hall]
        · refine .inr fun tail => ?_
          rw [List.cons_append, quoteRun_cons, quoteRun_cons, hrun]
      · refine .inr fun tail => ?_
        rw [List.cons_append, quoteRun_cons_of_ne hc, quoteRun_cons_of_ne hc]

theorem isRefused_of_needsEscape {c : Char} (h : needsEscape c = false) (hfeed : c ≠ '\n') :
    isRefused c = false := by
  simpa [isRefused, needsEscape, hfeed] using h

theorem readMultiline?_literal {fuel : Nat} {s rest : List Char} (hfuel : s.length < fuel)
    (hruns : longestRun '\x27' s < 3) (hall : ∀ c ∈ s, needsEscape c = false)
    (hrest : ∀ c ∈ rest.head?, c ≠ '\x27') :
    readMultiline? '\x27' fuel (s ++ (List.replicate 3 '\x27' ++ rest)) = some (s, rest) := by
  induction s generalizing fuel with
  | nil =>
      cases fuel with
      | zero => cases hfuel
      | succ fuel => exact readMultiline?_closing (Nat.zero_le 2) hrest fuel
  | cons c s ih =>
      cases fuel with
      | zero => cases hfuel
      | succ fuel =>
          have hfew := Nat.lt_of_le_of_lt (quoteRun_le_longestRun '\x27' (c :: s)) hruns
          rcases quoteRun_append '\x27' (c :: s) with hquotes | hrun
          · rw [hquotes]
            exact readMultiline?_closing (Nat.le_of_lt_succ hfew) hrest fuel
          · rcases List.forall_mem_cons.1 hall with ⟨hc, hlater⟩
            have hreturn : c ≠ '\r' := by
              rintro rfl
              exact absurd hc (by decide)
            have hread := ih (Nat.lt_of_succ_lt_succ hfuel)
              (Nat.lt_of_le_of_lt (longestRun_le_cons _ c s) hruns) hlater
            have hopen : quoteRun '\x27' (c :: (s ++ (List.replicate 3 '\x27' ++ rest))) < 3 := by
              rw [← List.cons_append, hrun]
              exact hfew
            rw [List.cons_append, readMultiline?_cons (fun _ => hopen) (fun _ => by decide) hreturn
              (isRefused_of_needsEscape hc), hread]
            rfl

/-! ## One line between single quotes -/

theorem readLiteral?_append {s rest : List Char} (hquote : '\x27' ∉ s)
    (hall : ∀ c ∈ s, isRefused c = false) :
    readLiteral? (s ++ '\x27' :: rest) = some (s, rest) := by
  have hfront : ∀ c ∈ s, decide (c ≠ '\x27') = true := by
    intro c hc
    exact decide_eq_true fun h => hquote (h ▸ hc)
  have hend : ∀ c ∈ ('\x27' :: rest).head?, decide (c ≠ '\x27') = false := by simp
  have hnone : s.any isRefused = false := by
    simpa using hall
  simp only [readLiteral?, Text.takeWhile_cut hfront hend, Text.dropWhile_cut hfront hend, hnone]
  rfl

/-! ## The form of a text -/

theorem longestRun_pos_of_mem {mark : Char} {s : List Char} (h : mark ∈ s) :
    0 < longestRun mark s := by
  induction s with
  | nil => cases h
  | cons c s ih =>
      rcases List.mem_cons.1 h with rfl | hlater
      · have hrun := quoteRun_le_longestRun mark (mark :: s)
        rw [quoteRun_cons] at hrun
        exact Nat.lt_of_lt_of_le (Nat.succ_pos _) hrun
      · exact Nat.lt_of_lt_of_le (ih hlater) (longestRun_le_cons mark c s)

/-- What a text is like that is written in a form: escapes carry any text. -/
def CarriedBy (s : List Char) : Quoting → Prop
  | .basic | .basicLines => True
  | .literal => s ≠ [] ∧ '\x27' ∉ s ∧ '\n' ∉ s ∧ ∀ c ∈ s, needsEscape c = false
  | .literalLines => longestRun '\x27' s < 3 ∧ ∀ c ∈ s, needsEscape c = false

theorem carriedBy_quotingFor (s : List Char) : CarriedBy s (quotingFor s) := by
  dsimp only [quotingFor]
  by_cases hescape : s.any needsEscape = true
  · rw [if_pos hescape]
    split <;> trivial
  have hall : ∀ c ∈ s, needsEscape c = false := by simpa using hescape
  rw [if_neg hescape]
  by_cases hlines : s.contains '\n' = true
  · rw [if_pos hlines]
    split
    next hchosen =>
      rw [Bool.and_eq_true, decide_eq_true_eq] at hchosen
      exact ⟨hchosen.2, hall⟩
    next => trivial
  rw [if_neg hlines]
  split
  next => trivial
  next hmarked =>
    split
    next hsingles =>
      refine ⟨?_, fun h => ?_, by simpa using hlines, hall⟩
      · rintro rfl
        exact hmarked rfl
      · exact absurd hsingles (Nat.ne_of_gt (longestRun_pos_of_mem h))
    next =>
      split
      next => trivial
      next =>
        split
        next hfew => exact ⟨hfew, hall⟩
        next => trivial

/-! ## Any text -/

/-- Two more quotes would open a text over several lines. -/
theorem readText?_basic {tail : List Char} (h : ∀ rest, tail ≠ '"' :: '"' :: rest) :
    readText? ('"' :: tail) = readBasic? (tail.length + 1) tail := by
  unfold readText?
  split
  next heq => exact absurd (List.cons.inj heq).2 (h _)
  next heq => cases heq
  next heq => rw [(List.cons.inj heq).2]
  next heq => cases heq
  next hdouble _ => exact absurd rfl (hdouble tail)

theorem readText?_literal {tail : List Char} (h : ∀ rest, tail ≠ '\x27' :: '\x27' :: rest) :
    readText? ('\x27' :: tail) = readLiteral? tail := by
  unfold readText?
  split
  next heq => cases heq
  next heq => exact absurd (List.cons.inj heq).2 (h _)
  next heq => cases heq
  next heq => rw [(List.cons.inj heq).2]
  next _ hsingle => exact absurd rfl (hsingle tail)

/-- The line ending in front of a text over several lines does not count, and without one the text
does not begin with a line ending of its own. -/
theorem dropFirstNewLine_lineStart {s body : List Char}
    (h : '\n' ∉ s → ∀ c ∈ body.head?, c ≠ '\n' ∧ c ≠ '\r') :
    dropFirstNewLine (lineStart s ++ body) = body := by
  unfold lineStart
  split
  next => rfl
  next hlines =>
    have hhead := h (by simpa using hlines)
    have hnone : newLine? body = none := by
      unfold newLine?
      split
      next => exact absurd rfl (hhead _ rfl).1
      next => exact absurd rfl (hhead _ rfl).2
      next => rfl
    rw [List.nil_append, dropFirstNewLine, hnone]
    rfl

theorem length_le_escapeAll (lines : Bool) (quotes : Nat) (s : List Char) :
    s.length ≤ (escapeAll lines quotes s).length := by
  induction s generalizing quotes with
  | nil => exact Nat.le_refl 0
  | cons c s ih =>
      have hchar : 0 < (escape lines quotes c).length := by
        rcases plain_or_escaped lines quotes c with hplain | ⟨body, hescaped⟩
        · rw [hplain.written]
          exact Nat.one_pos
        · rw [hescaped.written]
          exact Nat.succ_pos _
      have hlater := ih (if (c = '"' && lines && quotes < 2) = true then quotes + 1 else 0)
      rw [escapeAll, List.length_append, List.length_cons]
      omega

/-- The first character that is written is a line feed just if it stands for itself. -/
theorem head?_escapeAll {s : List Char} (hlines : '\n' ∉ s) {rest : List Char}
    (hrest : ∀ c ∈ rest.head?, c ≠ '\n' ∧ c ≠ '\r') :
    ∀ c ∈ (escapeAll true 0 s ++ rest).head?, c ≠ '\n' ∧ c ≠ '\r' := by
  cases s with
  | nil => exact hrest
  | cons c s =>
      rcases plain_or_escaped true 0 c with hplain | ⟨body, hescaped⟩
      · rw [escapeAll, hplain.written]
        rintro d ⟨⟩
        exact ⟨fun h => hlines (h ▸ List.mem_cons_self), hplain.noReturn⟩
      · rw [escapeAll, hescaped.written]
        rintro d ⟨⟩
        decide

section Forms

variable {s rest : List Char}

theorem readText?_escapeAll (hrest : ∀ c ∈ rest.head?, c ≠ '"') :
    readText? ('"' :: (escapeAll false 0 s ++ '"' :: rest)) = some (s, rest) := by
  have hone : ∀ more, escapeAll false 0 s ++ '"' :: rest ≠ '"' :: '"' :: more := by
    intro more h
    cases s with
    | nil =>
        obtain rfl : rest = '"' :: more := List.tail_eq_of_cons_eq h
        exact hrest '"' rfl rfl
    | cons c s =>
        rw [escapeAll_cons] at h
        rcases plain_or_escaped false 0 c with hplain | ⟨body, hescaped⟩
        · rw [hplain.written] at h
          have hquote : c = '"' := List.head_eq_of_cons_eq h
          exact nomatch (hplain.quote hquote).1
        · rw [hescaped.written] at h
          exact absurd (List.head_eq_of_cons_eq h) (by decide)
  rw [readText?_basic hone]
  refine readBasic?_escapeAll ?_ rest
  have hlength := length_le_escapeAll false 0 s
  rw [List.length_append]
  omega

theorem readText?_between (hne : s ≠ []) (hquote : '\x27' ∉ s)
    (hall : ∀ c ∈ s, isRefused c = false) :
    readText? ('\x27' :: (s ++ '\x27' :: rest)) = some (s, rest) := by
  have hone : ∀ more, s ++ '\x27' :: rest ≠ '\x27' :: '\x27' :: more := by
    intro more h
    cases s with
    | nil => exact hne rfl
    | cons c s => exact hquote (List.head_eq_of_cons_eq h ▸ List.mem_cons_self)
  rw [readText?_literal hone]
  exact readLiteral?_append hquote hall

theorem readText?_escapedLines (hrest : ∀ c ∈ rest.head?, c ≠ '"') :
    readText? ('"' :: '"' :: '"' ::
        (lineStart s ++ (escapeAll true 0 s ++ (List.replicate 3 '"' ++ rest))))
      = some (s, rest) := by
  have hbody : dropFirstNewLine
      (lineStart s ++ (escapeAll true 0 s ++ (List.replicate 3 '"' ++ rest)))
        = escapeAll true 0 s ++ (List.replicate 3 '"' ++ rest) :=
    dropFirstNewLine_lineStart fun hlines => head?_escapeAll hlines (by rintro c ⟨⟩; decide)
  rw [readText?, hbody]
  refine readMultiline?_escapeAll (Nat.zero_le 2) ?_ hrest
  have hlength := length_le_escapeAll true 0 s
  simp only [List.length_append]
  omega

theorem readText?_literalLines (hruns : longestRun '\x27' s < 3)
    (hall : ∀ c ∈ s, needsEscape c = false) (hrest : ∀ c ∈ rest.head?, c ≠ '\x27') :
    readText? ('\x27' :: '\x27' :: '\x27' ::
        (lineStart s ++ (s ++ (List.replicate 3 '\x27' ++ rest))))
      = some (s, rest) := by
  have hbody : dropFirstNewLine (lineStart s ++ (s ++ (List.replicate 3 '\x27' ++ rest)))
      = s ++ (List.replicate 3 '\x27' ++ rest) := by
    refine dropFirstNewLine_lineStart fun hlines => ?_
    cases s with
    | nil => rintro c ⟨⟩; decide
    | cons c s =>
        rintro d ⟨⟩
        refine ⟨fun h => hlines (h ▸ List.mem_cons_self), fun h => ?_⟩
        exact absurd (hall _ List.mem_cons_self) (h ▸ by decide)
  rw [readText?, hbody]
  refine readMultiline?_literal ?_ hruns hall hrest
  simp only [List.length_append]
  omega

/-- A text is read back from its written form, whatever it holds; only another quote right behind
it would be taken for a part of it. -/
theorem readText?_quoted (s : List Char) (hrest : ∀ c ∈ rest.head?, c ≠ '"' ∧ c ≠ '\x27') :
    readText? (quoted s ++ rest) = some (s, rest) := by
  have hdouble : ∀ c ∈ rest.head?, c ≠ '"' := fun c hc => (hrest c hc).1
  have hsingle : ∀ c ∈ rest.head?, c ≠ '\x27' := fun c hc => (hrest c hc).2
  have hcarried := carriedBy_quotingFor s
  unfold quoted
  cases hform : quotingFor s with
  | basic => simpa using readText?_escapeAll (s := s) hdouble
  | literal =>
      rw [hform] at hcarried
      obtain ⟨hne, hquote, hlines, hall⟩ := hcarried
      have hallowed : ∀ c ∈ s, isRefused c = false := fun c hc =>
        isRefused_of_needsEscape (hall c hc) fun h => hlines (h ▸ hc)
      simpa using @readText?_between s rest hne hquote hallowed
  | basicLines => simpa using readText?_escapedLines (s := s) hdouble
  | literalLines =>
      rw [hform] at hcarried
      simpa using readText?_literalLines hcarried.1 hcarried.2 hsingle

end Forms

end Toml

end StubConsole
