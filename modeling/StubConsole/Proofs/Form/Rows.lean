import Mathlib.Data.List.Forall2
import StubConsole.Form.Rest
import StubConsole.Form.Soap
import StubConsole.Proofs.Session.Built
import StubConsole.Proofs.Session.Formatted
import StubConsole.Proofs.Text.Cuts

/-!
# Rows — what a field reads it reads again

A table is shown as rows and read from rows, and what stands in a row after it was read can be
written without another reader seeing it differently: no blank is at an end, no separator where
the first one counts.

* `Text.Trimmed` — no blank at either end; `Text.IsRow` — a line that a reader of rows keeps;
* `Rows.rowsOf_joinWith` — rows that were written are the rows that are read;
* `Rows.RowForm` — a row that stands for its value, and the values that have such a row;
* `Rows.exists_readRows_iff`, `Rows.RowForm.readRows_join_iff` — whole tables;
* `Rows.optionalText_getD`, `Rows.readMetadata_again` and the numbers — optional values.
-/

namespace StubConsole

/-! ## Trimmed texts -/

namespace Text

structure Trimmed (s : List Char) : Prop where
  front : ∀ c ∈ s.head?, isBlank c = false
  back : ∀ c ∈ s.getLast?, isBlank c = false

variable {s : List Char}

theorem trimmed_of_ends (hfront : s.head?.all (fun c => !isBlank c) = true)
    (hback : s.getLast?.all (fun c => !isBlank c) = true) : Trimmed s where
  front := by simpa [Option.all_eq_true] using hfront
  back := by simpa [Option.all_eq_true] using hback

theorem trimChars_of_trimmed (h : Trimmed s) : trimChars s = s := by
  have hnone : ∀ c ∈ ([] : List Char), isBlank c = true := by simp
  have hfront : dropBlanks s = s := dropWhile_cut hnone h.front
  have hback : dropBlanksEnd s = s := by
    have hcut := dropWhile_reverse_cut h.back hnone
    rwa [List.append_nil] at hcut
  rw [trimChars, hfront, hback]

/-- The blanks around a text, and what is left of it. -/
theorem exists_trimChars (s : List Char) :
    ∃ before after, s = before ++ trimChars s ++ after ∧ (∀ c ∈ before, isBlank c = true) ∧
      (∀ c ∈ after, isBlank c = true) ∧ Trimmed (trimChars s) := by
  rcases exists_cut isBlank s with ⟨before, rest, rfl, hbefore, hrest⟩
  rcases exists_cut_reverse isBlank rest with ⟨middle, after, rfl, hmiddle, hafter⟩
  have htrim : trimChars (before ++ (middle ++ after)) = middle := by
    rw [trimChars, dropBlanks, dropWhile_cut hbefore hrest, dropBlanksEnd,
      dropWhile_reverse_cut hmiddle hafter]
  refine ⟨before, after, by rw [htrim, List.append_assoc], hbefore, hafter, ?_⟩
  rw [htrim]
  refine ⟨?_, hmiddle⟩
  intro c hc
  cases middle with
  | nil => cases hc
  | cons d middle => exact hrest c hc

theorem trimmed_trimChars (s : List Char) : Trimmed (trimChars s) := by
  rcases exists_trimChars s with ⟨-, -, -, -, -, h⟩
  exact h

theorem mem_of_mem_trimChars {c : Char} (h : c ∈ trimChars s) : c ∈ s := by
  rcases exists_trimChars s with ⟨before, after, hs, -, -, -⟩
  rw [hs]
  simp [h]

theorem trimChars_eq_nil_iff : trimChars s = [] ↔ s.all isBlank = true := by
  rcases exists_trimChars s with ⟨before, after, hs, hbefore, hafter, htrimmed⟩
  constructor
  · intro hnil
    rw [hs, hnil]
    simpa using ⟨hbefore, hafter⟩
  · intro hall
    cases hmiddle : trimChars s with
    | nil => rfl
    | cons c rest =>
        have hblank : isBlank c = true :=
          List.all_eq_true.1 hall c (mem_of_mem_trimChars (by rw [hmiddle]; exact .head rest))
        have hsolid : isBlank c = false := htrimmed.front c (by rw [hmiddle]; rfl)
        rw [hblank] at hsolid
        cases hsolid

theorem trim_trim (s : String) : trim (trim s) = trim s := by
  simp only [trim, String.toList_ofList, trimChars_of_trimmed (trimmed_trimChars s.toList)]

/-- A line as a reader of rows keeps it. -/
structure IsRow (s : List Char) : Prop extends Trimmed s where
  solid : s ≠ []
  line : '\n' ∉ s

end Text

/-! ## Lines -/

namespace Rows

open Text

variable {row line rest : List Char} {text : String}

theorem linesFrom_line (h : '\n' ∉ line) (acc rest : List Char) :
    linesFrom acc (line ++ '\n' :: rest)
      = dropReturn (acc.reverse ++ line) :: linesFrom [] rest := by
  -- the accumulator is the line so far, last character first
  induction line generalizing acc with
  | nil => simp [linesFrom]
  | cons c line ih =>
      rw [List.mem_cons, not_or] at h
      simp [linesFrom, Ne.symm h.1, ih h.2]

theorem linesFrom_last (h : '\n' ∉ line) (acc : List Char) (hsolid : acc.reverse ++ line ≠ []) :
    linesFrom acc line = [acc.reverse ++ line] := by
  induction line generalizing acc with
  | nil =>
      have hacc : acc ≠ [] := by simpa using hsolid
      simp [linesFrom, hacc]
  | cons c line ih =>
      rw [List.mem_cons, not_or] at h
      simp [linesFrom, Ne.symm h.1, ih h.2]

theorem line_of_mem_linesFrom {acc : List Char} (hacc : '\n' ∉ acc)
    (h : line ∈ linesFrom acc rest) : '\n' ∉ line := by
  have hdropped {s : List Char} (hs : '\n' ∉ s) : '\n' ∉ dropReturn s := by
    unfold dropReturn
    split
    · exact fun hmem => hs ((List.dropLast_sublist s).subset hmem)
    · exact hs
  -- on the text still to be read: a line is closed at its feed, so what is read of it has none
  induction rest generalizing acc with
  | nil =>
      unfold linesFrom at h
      split at h
      · cases h
      · rw [List.mem_singleton.1 h]
        simpa using hacc
  | cons c rest ih =>
      unfold linesFrom at h
      split at h
      next =>
        rcases List.mem_cons.1 h with rfl | h
        · exact hdropped (by simpa using hacc)
        · exact ih List.not_mem_nil h
      next hc => exact ih (by simp [hacc, Ne.symm hc]) h

theorem row_of_mem_rowsOf (h : row ∈ rowsOf text) : IsRow row := by
  rcases List.mem_filter.1 h with ⟨hmem, hsolid⟩
  rcases List.mem_map.1 hmem with ⟨line, hline, rfl⟩
  have hlines : line ∈ linesFrom [] text.toList := hline
  exact {
    toTrimmed := trimmed_trimChars line
    solid := by simpa using hsolid
    line := fun hfeed =>
      line_of_mem_linesFrom List.not_mem_nil hlines (mem_of_mem_trimChars hfeed) }

/-- A carriage return is a blank, so no row ends in one. -/
theorem dropReturn_row (h : IsRow row) : dropReturn row = row := by
  unfold dropReturn
  split
  next hreturn => cases h.back '\r' hreturn
  next => rfl

theorem rowsOf_joinWith {rows : List (List Char)} (h : ∀ row ∈ rows, IsRow row) :
    rowsOf (String.ofList (joinWith ['\n'] rows)) = rows := by
  have hlines : linesOf (joinWith ['\n'] rows) = rows := by
    unfold linesOf
    -- a feed stands behind every row but the last, and none inside a row
    induction rows with
    | nil => rfl
    | cons row rows ih =>
        have hrow : IsRow row := h row List.mem_cons_self
        cases rows with
        | nil => exact linesFrom_last hrow.line [] hrow.solid
        | cons next rows =>
            have hrest := ih fun r hr => h r (List.mem_cons_of_mem _ hr)
            rw [joinWith, List.append_assoc, List.singleton_append, linesFrom_line hrow.line,
              hrest]
            · exact congrArg (· :: _) (dropReturn_row hrow)
            · exact List.cons_ne_nil _ _
  have htrimmed : rows.map trimChars = rows := by
    refine (List.map_congr_left ?_).trans (List.map_id _)
    intro row hrow
    exact trimChars_of_trimmed (h row hrow).toTrimmed
  rw [rowsOf, String.toList_ofList, hlines, htrimmed]
  refine List.filter_eq_self.2 ?_
  intro row hrow
  simpa using (h row hrow).solid

/-! ## Tables -/

/-- What is seen of a result that is there. -/
theorem exists_ok_of_map {ε α β : Type} {r : Except ε α} {f : α → β} {b : β}
    (h : r.toOption.map f = some b) : ∃ a, r = .ok a ∧ f a = b := by
  cases r with
  | error e => cases h
  | ok a => exact ⟨a, rfl, Option.some.inj h⟩

section Tables

variable {α : Type} {readRow : List Char → Except FieldError α} {write : α → String}
variable {Plain : α → Prop} {as : List α}

/-- What a reader and a writer of rows have in common: the values that a row can carry. -/
structure RowForm (readRow : List Char → Except FieldError α) (write : α → String)
    (Plain : α → Prop) : Prop where
  plain : ∀ {row a}, IsRow row → readRow row = .ok a → Plain a
  row : ∀ {a}, Plain a → IsRow (write a).toList
  again : ∀ {a}, Plain a → readRow (write a).toList = .ok a

theorem mapM_eq_ok_iff {rows : List (List Char)} :
    rows.mapM readRow = .ok as ↔ List.Forall₂ (fun row a => readRow row = .ok a) rows as := by
  induction rows generalizing as with
  | nil =>
      rw [List.mapM_nil, List.forall₂_nil_left_iff]
      exact ⟨fun h => (Except.ok.inj h).symm, fun h => congrArg Except.ok h.symm⟩
  | cons row rows ih =>
      rw [List.mapM_cons, List.forall₂_cons_left_iff]
      constructor
      · intro h
        rcases Json.exists_of_bind_eq_ok h with ⟨first, hfirst, h⟩
        rcases Json.exists_of_bind_eq_ok h with ⟨more, hmore, h⟩
        exact ⟨first, more, hfirst, ih.1 hmore, (Except.ok.inj h).symm⟩
      · rintro ⟨first, more, hfirst, hmore, rfl⟩
        exact Json.bind_eq_ok_of hfirst (Json.bind_eq_ok_of (ih.2 hmore) rfl)

/-- A table is refused just if one of its rows is. -/
theorem exists_readRows_iff :
    (∃ as, readRows readRow text = .ok as) ↔ ∀ row ∈ rowsOf text, ∃ a, readRow row = .ok a := by
  simp only [readRows]
  induction rowsOf text with
  | nil => exact iff_of_true ⟨[], rfl⟩ (by simp)
  | cons row rows ih =>
      rw [List.forall_mem_cons, ← ih]
      simp only [mapM_eq_ok_iff, List.forall₂_cons_left_iff]
      constructor
      · rintro ⟨_, first, more, hfirst, hmore, -⟩
        exact ⟨⟨first, hfirst⟩, more, hmore⟩
      · rintro ⟨⟨first, hfirst⟩, more, hmore⟩
        exact ⟨first :: more, first, more, hfirst, hmore, rfl⟩

namespace RowForm

theorem plain_of_readRows (form : RowForm readRow write Plain)
    (h : readRows readRow text = .ok as) : ∀ a ∈ as, Plain a := by
  have hrows := mapM_eq_ok_iff.1 h
  have hmem : ∀ row ∈ rowsOf text, IsRow row := fun row => row_of_mem_rowsOf
  clear h
  generalize rowsOf text = rows at hrows hmem
  induction hrows with
  | nil => exact fun a ha => nomatch ha
  | cons hfirst _ ih =>
      rw [List.forall_mem_cons] at hmem ⊢
      exact ⟨form.plain hmem.1 hfirst, ih hmem.2⟩

theorem readRows_join (form : RowForm readRow write Plain) (h : ∀ a ∈ as, Plain a) :
    readRows readRow (join "\n" (as.map write)) = .ok as := by
  have hrows : rowsOf (join "\n" (as.map write)) = as.map fun a => (write a).toList := by
    rw [join, List.map_map]
    refine rowsOf_joinWith ?_
    intro row hrow
    rcases List.mem_map.1 hrow with ⟨a, ha, rfl⟩
    exact form.row (h a ha)
  rw [readRows, hrows, mapM_eq_ok_iff, List.forall₂_map_left_iff, List.forall₂_same]
  exact fun a ha => form.again (h a ha)

/-- A table is its own written form just if rows can carry all of it. -/
theorem readRows_join_iff (form : RowForm readRow write Plain) :
    readRows readRow (join "\n" (as.map write)) = .ok as ↔ ∀ a ∈ as, Plain a :=
  ⟨form.plain_of_readRows, form.readRows_join⟩

theorem readRows_again (form : RowForm readRow write Plain)
    (h : readRows readRow text = .ok as) :
    readRows readRow (join "\n" (as.map write)) = .ok as :=
  form.readRows_join (form.plain_of_readRows h)

end RowForm

end Tables

/-! ## Optional values -/

section Optional

variable {α : Type} {error : FieldError}

theorem optionalText_getD (text : String) :
    optionalText ((optionalText text).getD "") = optionalText text := by
  unfold optionalText nonBlank?
  split
  next => rfl
  next hblank =>
    have hsolid : ¬ allBlank (trim text) = true := by
      unfold allBlank at hblank ⊢
      rwa [trim, String.toList_ofList, ← trimChars_eq_nil_iff,
        trimChars_of_trimmed (trimmed_trimChars _), trimChars_eq_nil_iff]
    rw [Option.getD_some, if_neg hsolid, trim_trim]

theorem optionalText_of_eq_some {text shown : String} (h : optionalText text = some shown) :
    optionalText shown = some shown := by
  have hagain := optionalText_getD text
  rwa [h] at hagain

theorem isBlank_of_isDigit {c : Char} (h : c.isDigit = true) : isBlank c = false := by
  have hrange : 48 ≤ c.toNat ∧ c.toNat ≤ 57 := by
    simpa [Char.isDigit, UInt32.le_iff_toNat_le] using h
  simp only [isBlank, Bool.or_eq_false_iff, Bool.and_eq_false_iff, decide_eq_false_iff_not,
    beq_eq_false_iff_ne]
  omega

theorem isBlank_of_mem_decimal {c : Char} {n : Nat} (h : c ∈ decimal n) : isBlank c = false :=
  isBlank_of_isDigit (isDigit_of_mem_decimal h)

theorem trimmed_decimal (n : Nat) : Trimmed (decimal n) where
  front := fun _ hc => isBlank_of_mem_decimal (List.mem_of_mem_head? hc)
  back := fun _ hc => isBlank_of_mem_decimal (List.mem_of_getLast? hc)

theorem trimmed_decimalInt (n : Int) : Trimmed (decimalInt n) := by
  unfold decimalInt
  split
  · have hsolid : ∀ c ∈ '-' :: decimal n.natAbs, isBlank c = false := by
      intro c hc
      rcases List.mem_cons.1 hc with rfl | hc
      · rfl
      · exact isBlank_of_mem_decimal hc
    exact ⟨fun c hc => hsolid c (List.mem_of_mem_head? hc),
      fun c hc => hsolid c (List.mem_of_getLast? hc)⟩
  · exact trimmed_decimal _

theorem optionalNumber_ofList {read? : List Char → Option α} {chars : List Char} {n : α}
    (htrimmed : Trimmed chars) (hsolid : chars ≠ []) (hread : read? chars = some n) :
    optionalNumber read? error (String.ofList chars) = .ok (some n) := by
  have hempty : chars.isEmpty = false := by simpa using hsolid
  simp only [optionalNumber, String.toList_ofList, trimChars_of_trimmed htrimmed, hempty, hread]
  rfl

theorem intBetween?_decimalInt {min max n : Int} (hmin : min ≤ n) (hmax : n ≤ max) :
    intBetween? min max (decimalInt n) = some n := by
  have hread := readDigits?_decimal n.natAbs
  unfold decimalInt
  split
  next hneg =>
    have hvalue : -Int.ofNat n.natAbs = n := by rw [Int.ofNat_eq_natCast]; omega
    simp only [intBetween?, hread, Option.map_some, hvalue]
    simp [hmin, hmax]
  next hpos =>
    have hvalue : (n.natAbs : Int) = n := by omega
    rcases Json.exists_decimal_eq_cons n.natAbs with ⟨c, rest, hdecimal, hdigit, -⟩
    rw [hdecimal] at hread ⊢
    unfold intBetween?
    -- a digit stands first, which is neither of the signs
    split
    next heq =>
      cases heq
      exact absurd hdigit (by decide)
    next heq =>
      cases heq
      exact absurd hdigit (by decide)
    next => simp [hread, hvalue, hmin, hmax]

theorem optionalNat_natText {max : Nat} {text : String} {o : Option Nat}
    (h : optionalNumber (natUpTo? max) error text = .ok o) :
    optionalNumber (natUpTo? max) error (natText o) = .ok o := by
  cases o with
  | none => rfl
  | some n =>
      exact optionalNumber_ofList (trimmed_decimal n) (decimal_ne_nil n)
        (natUpTo?_decimal (le_of_optionalNat h n rfl))

theorem readPriority_intText {text : String} {o : Option Int} (h : readPriority text = .ok o) :
    readPriority (intText o) = .ok o := by
  cases o with
  | none => rfl
  | some n =>
      have hsolid : decimalInt n ≠ [] := by
        unfold decimalInt
        split
        · exact List.cons_ne_nil _ _
        · exact decimal_ne_nil _
      rcases inInt32_of_readPriority h n rfl with ⟨hmin, hmax⟩
      exact optionalNumber_ofList (trimmed_decimalInt n) hsolid (intBetween?_decimalInt hmin hmax)

theorem not_allBlank_pretty {doc : Json} (h : doc.isObject = true) :
    ¬ allBlank doc.pretty = true := by
  have hbrace : isBlank '\x7b' = false := rfl
  cases doc with
  | obj members => cases members <;> simp [allBlank, Json.pretty, Json.prettyChars, hbrace]
  | null | bool | num | str | arr => cases h

/-- Fractions are left out, since reading one may round twice. -/
theorem readMetadata_writeMetadata {text : String} {o : Option Json}
    (h : readMetadata text = .ok o)
    (hwhole : ∀ doc, Json.parse? text = some doc → doc.isWhole = true) :
    readMetadata (writeMetadata o) = .ok o := by
  unfold readMetadata at h
  split at h
  next =>
    cases h
    rfl
  next =>
    split at h
    next doc hparse =>
      split at h
      next hobject =>
        cases h
        simp only [writeMetadata, readMetadata, if_neg (not_allBlank_pretty hobject),
          Json.parse?_pretty hparse (hwhole doc hparse), if_pos hobject]
      next => cases h
    next => cases h

end Optional

end Rows

end StubConsole
