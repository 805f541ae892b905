import StubConsole.Proofs.Form.Rows

/-!
# RowGrammar — what the readers of rows take and refuse

A table is read line by line.  What is read from one line is a relation, with a case for each way a
line is well formed and for each way it is not; the first line that is not decides for the table.

* `Rows.solidLines`, `Rows.rowsOf_eq` — the lines that count, however they end;
* `Rows.PairLine`, `Rows.BodyLine`, `Rows.MatcherLine` — what is read from a line;
* `Rows.ReadByLine` — a reader of tables that does what its lines say;
* `Rows.tables_readByLine` — the three readers.
-/

namespace StubConsole

open Text

/-! ## Lines -/

namespace Text

theorem trimChars_concat_blank {c : Char} (s : List Char) (hc : isBlank c = true) :
    trimChars (s ++ [c]) = trimChars s := by
  rw [trimChars, trimChars, dropBlanks, dropBlanks, List.dropWhile_append]
  split
  next hempty =>
    rw [List.isEmpty_iff.1 hempty, List.dropWhile_cons_of_pos hc, List.dropWhile_nil]
  next => rw [dropBlanksEnd, List.reverse_concat, List.dropWhile_cons_of_pos hc, dropBlanksEnd]

/-- The carriage return of a line ending is a blank. -/
theorem trimChars_dropReturn (line : List Char) : trimChars (dropReturn line) = trimChars line := by
  unfold dropReturn
  split
  next hreturn =>
    rcases List.getLast?_eq_some_iff.1 hreturn with ⟨front, rfl⟩
    rw [List.dropLast_concat, trimChars_concat_blank front rfl]
  next => rfl

end Text

namespace Rows

/-- What stands between the line feeds of a text, trimmed; blank lines do not count. -/
def solidLines (text : String) : List (List Char) :=
  ((splitOn '\n' text.toList).map trimChars).filter fun row => !row.isEmpty

theorem filter_trimmed_linesFrom {acc : List Char} (hacc : '\n' ∉ acc) (s : List Char) :
    ((linesFrom acc s).map trimChars).filter (fun row => !row.isEmpty)
      = ((splitOn '\n' (acc.reverse ++ s)).map trimChars).filter fun row => !row.isEmpty := by
  -- on the text still to be read, the accumulator being the line so far
  induction s generalizing acc with
  | nil =>
      have hline : '\n' ∉ acc.reverse := by simpa using hacc
      rw [List.append_nil, splitOn_of_notMem hline]
      cases acc <;> rfl
  | cons c s ih =>
      rw [linesFrom]
      split
      next hc =>
        subst hc
        have hline : '\n' ∉ acc.reverse := by simpa using hacc
        rw [splitOn_append_sep, splitOn_of_notMem hline, List.map_cons, trimChars_dropReturn,
          List.singleton_append, List.map_cons, List.filter_cons, List.filter_cons,
          ih List.not_mem_nil, List.reverse_nil, List.nil_append]
      next hc =>
        have hmore : '\n' ∉ c :: acc := by simp [hacc, Ne.symm hc]
        rw [ih hmore, List.reverse_cons, List.append_assoc, List.singleton_append]

/-- Neither the ends of lines nor a last line without one matter to a reader of rows. -/
theorem rowsOf_eq (text : String) : rowsOf text = solidLines text :=
  filter_trimmed_linesFrom List.not_mem_nil text.toList

theorem solidLines_append (a b : String) :
    solidLines (a ++ "\n" ++ b) = solidLines a ++ solidLines b := by
  have htext : (a ++ "\n" ++ b).toList = a.toList ++ '\n' :: b.toList := by simp
  rw [solidLines, htext, splitOn_append_sep, List.map_append, List.filter_append, solidLines,
    solidLines]

/-! ## Readers -/

section Readers

variable {α : Type} {readRow : List Char → Except FieldError α}

theorem mapM_cons_eq_error_iff {first : List Char} {rows : List (List Char)} {a : α}
    {e : FieldError} (hfirst : readRow first = .ok a) :
    (first :: rows).mapM readRow = .error e ↔ rows.mapM readRow = .error e := by
  rw [List.mapM_cons, hfirst]
  cases rows.mapM readRow <;> simp [bind, Except.bind, pure, Except.pure]

/-- The first row that is refused is told. -/
theorem mapM_eq_error_iff {rows : List (List Char)} {e : FieldError} :
    rows.mapM readRow = .error e ↔ ∃ front row more, rows = front ++ row :: more
      ∧ (∀ r ∈ front, ∃ a, readRow r = .ok a) ∧ readRow row = .error e := by
  induction rows with
  | nil =>
      refine iff_of_false (fun h => nomatch h) ?_
      rintro ⟨front, row, more, hrows, -⟩
      simp at hrows
  | cons first rows ih =>
      cases hfirst : readRow first with
      | error told =>
          have htold : (first :: rows).mapM readRow = .error told := by
            rw [List.mapM_cons, hfirst]
            rfl
          rw [htold]
          constructor
          · intro h
            cases h
            exact ⟨[], first, rows, rfl, by simp, hfirst⟩
          · rintro ⟨front, row, more, hrows, hfront, hrow⟩
            rcases List.cons_eq_append_iff.1 hrows with ⟨rfl, hmore⟩ | ⟨front, rfl, -⟩
            · cases hmore
              cases hfirst.symm.trans hrow
              rfl
            · rcases hfront first List.mem_cons_self with ⟨a, ha⟩
              cases hfirst.symm.trans ha
      | ok a =>
          rw [mapM_cons_eq_error_iff hfirst, ih]
          constructor
          · rintro ⟨front, row, more, rfl, hfront, hrow⟩
            exact ⟨first :: front, row, more, rfl,
              List.forall_mem_cons.2 ⟨⟨a, hfirst⟩, hfront⟩, hrow⟩
          · rintro ⟨front, row, more, hrows, hfront, hrow⟩
            rcases List.cons_eq_append_iff.1 hrows with ⟨rfl, hmore⟩ | ⟨front, rfl, hmore⟩
            · cases hmore
              cases hfirst.symm.trans hrow
            · exact ⟨front, row, more, hmore, (List.forall_mem_cons.1 hfront).2, hrow⟩

/-- A table is read by what its lines are read as.  It is there if every line has a value, and
has one row for each; otherwise the first line without a value says what is wrong.  Of two texts,
one above the other, the upper one is read first. -/
structure ReadByLine (Line : List Char → Except FieldError α → Prop)
    (read : String → Except FieldError (List α)) : Prop where
  accepted (text : String) :
    (∃ as, read text = .ok as) ↔ ∀ row ∈ solidLines text, ∃ a, Line row (.ok a)
  rows (text : String) (as : List α) :
    read text = .ok as ↔ List.Forall₂ (fun row a => Line row (.ok a)) (solidLines text) as
  refused (text : String) (e : FieldError) :
    read text = .error e ↔ ∃ front row more, solidLines text = front ++ row :: more
      ∧ (∀ r ∈ front, ∃ a, Line r (.ok a)) ∧ Line row (.error e)
  joined (above below : String) :
    read (above ++ "\n" ++ below) = do
      let as ← read above
      let bs ← read below
      return as ++ bs

/-- A reader of lines makes a reader of tables. -/
theorem readByLine {Line : List Char → Except FieldError α → Prop}
    (h : ∀ row r, readRow row = r ↔ Line row r) : ReadByLine Line (readRows readRow) := by
  refine ⟨?_, ?_, ?_, ?_⟩
  · intro text
    simp only [exists_readRows_iff, rowsOf_eq, h]
  · intro text as
    simp only [readRows, mapM_eq_ok_iff, rowsOf_eq, h]
  · intro text e
    simp only [readRows, mapM_eq_error_iff, rowsOf_eq, h]
  · intro above below
    simp only [readRows, rowsOf_eq, solidLines_append, List.mapM_append]

end Readers

/-! ## What is read from a line -/

/-- A line of pairs: `name=value`, cut at the first `=`, the name not blank. -/
inductive PairLine : List Char → Except FieldError (String × String) → Prop where
  | pair {name : List Char} (value : List Char) (hsep : '=' ∉ name) (hname : trimChars name ≠ []) :
      PairLine (name ++ '=' :: value) (.ok (trimmed name, trimmed value))
  | noName {name : List Char} (value : List Char) (hsep : '=' ∉ name)
      (hname : trimChars name = []) :
      PairLine (name ++ '=' :: value) (.error (.noPair (String.ofList (name ++ '=' :: value))))
  | noSep {row : List Char} (hsep : '=' ∉ row) :
      PairLine row (.error (.noPair (String.ofList row)))

/-- A line of body matchers: `kind:value`, cut at the first `:`. -/
inductive BodyLine : List Char → Except FieldError BodyMatcher → Prop where
  | matcher {key : List Char} (kind : BodyMatcher.Kind) (value : List Char) (hsep : ':' ∉ key)
      (hkey : trimmed key = kind.key) : BodyLine (key ++ ':' :: value) (.ok ⟨kind, trimmed value⟩)
  | noKind {key : List Char} (value : List Char) (hsep : ':' ∉ key)
      (hkey : ∀ kind : BodyMatcher.Kind, trimmed key ≠ kind.key) :
      BodyLine (key ++ ':' :: value) (.error (.unknownBodyKind (trimmed key)))
  | noSep {row : List Char} (hsep : ':' ∉ row) :
      BodyLine row (.error (.noBodyRow (String.ofList row)))

/-- A line of XPath matchers: `xpath|expected`, or the name of a kind in front of both.  With a name
there, separators may follow in the text that is expected. -/
inductive MatcherLine : List Char → Except FieldError XPathMatcher → Prop where
  | unnamed {xpath expected : List Char} (hxpath : '|' ∉ xpath) (hexpected : '|' ∉ expected) :
      MatcherLine (xpath ++ '|' :: expected) (.ok ⟨trimmed xpath, trimmed expected, .equalTo⟩)
  | named {name xpath : List Char} (kind : XPathMatcher.Kind) (expected : List Char)
      (hsep : '|' ∉ name) (hname : trimmed name = kind.name) (hxpath : '|' ∉ xpath) :
      MatcherLine (name ++ '|' :: (xpath ++ '|' :: expected))
        (.ok ⟨trimmed xpath, trimmed expected, kind⟩)
  | noKind {name xpath : List Char} (expected : List Char) (hsep : '|' ∉ name)
      (hname : ∀ kind : XPathMatcher.Kind, trimmed name ≠ kind.name) (hxpath : '|' ∉ xpath) :
      MatcherLine (name ++ '|' :: (xpath ++ '|' :: expected))
        (.error (.unknownMatchType (trimmed name)))
  | noSep {row : List Char} (hsep : '|' ∉ row) :
      MatcherLine row (.error (.noMatcherRow (String.ofList row)))

theorem readPair_iff (row : List Char) (r : Except FieldError (String × String)) :
    readPair row = r ↔ PairLine row r := by
  constructor
  · rintro rfl
    cases hcut : splitAt? '=' row with
    | none =>
        rw [readPair, hcut]
        exact .noSep (splitAt?_eq_none_iff.1 hcut)
    | some cut =>
        rcases cut with ⟨name, value⟩
        rcases splitAt?_eq_some hcut with ⟨rfl, hsep⟩
        simp only [readPair, hcut, ← trimChars_eq_nil_iff]
        split
        next hname => exact .noName value hsep hname
        next hname => exact .pair value hsep hname
  · rintro (⟨value, hsep, hname⟩ | ⟨value, hsep, hname⟩ | hsep)
    · rw [ne_eq, trimChars_eq_nil_iff] at hname
      rw [readPair, splitAt?_cut hsep]
      exact if_neg hname
    · rw [trimChars_eq_nil_iff] at hname
      rw [readPair, splitAt?_cut hsep]
      exact if_pos hname
    · rw [readPair, splitAt?_of_notMem hsep]

theorem ofKey?_eq_some_iff {key : String} {kind : BodyMatcher.Kind} :
    BodyMatcher.Kind.ofKey? key = some kind ↔ key = kind.key := by
  constructor
  · intro h
    have hkey := List.find?_some h
    exact (eq_of_beq hkey).symm
  · rintro rfl
    cases kind <;> rfl

theorem ofKey?_eq_none_iff {key : String} :
    BodyMatcher.Kind.ofKey? key = none ↔ ∀ kind : BodyMatcher.Kind, key ≠ kind.key := by
  simp only [Option.eq_none_iff_forall_ne_some, ne_eq, ofKey?_eq_some_iff]

theorem readBodyMatcher_iff (row : List Char) (r : Except FieldError BodyMatcher) :
    readBodyMatcher row = r ↔ BodyLine row r := by
  constructor
  · rintro rfl
    cases hcut : splitAt? ':' row with
    | none =>
        rw [readBodyMatcher, hcut]
        exact .noSep (splitAt?_eq_none_iff.1 hcut)
    | some cut =>
        rcases cut with ⟨key, value⟩
        rcases splitAt?_eq_some hcut with ⟨rfl, hsep⟩
        simp only [readBodyMatcher, hcut]
        cases hkind : BodyMatcher.Kind.ofKey? (trimmed key) with
        | none => exact .noKind value hsep (ofKey?_eq_none_iff.1 hkind)
        | some kind => exact .matcher kind value hsep (ofKey?_eq_some_iff.1 hkind)
  · rintro (⟨kind, value, hsep, hkey⟩ | ⟨value, hsep, hkey⟩ | hsep)
    · simp only [readBodyMatcher, splitAt?_cut hsep, ofKey?_eq_some_iff.2 hkey]
    · simp only [readBodyMatcher, splitAt?_cut hsep, ofKey?_eq_none_iff.2 hkey]
    · simp only [readBodyMatcher, splitAt?_of_notMem hsep]

theorem ofName?_eq_some_iff {name : String} {kind : XPathMatcher.Kind} :
    XPathMatcher.Kind.ofName? name = some kind ↔ name = kind.name := by
  constructor
  · intro h
    have hname := List.find?_some h
    exact (eq_of_beq hname).symm
  · rintro rfl
    cases kind <;> rfl

theorem ofName?_eq_none_iff {name : String} :
    XPathMatcher.Kind.ofName? name = none ↔ ∀ kind : XPathMatcher.Kind, name ≠ kind.name := by
  simp only [Option.eq_none_iff_forall_ne_some, ne_eq, ofName?_eq_some_iff]

/-- Three parts at most, of which only the last one may hold separators. -/
theorem splitUpTo_two (sep : Char) (s : List Char) :
    (sep ∉ s ∧ splitUpTo sep 2 s = [s])
      ∨ (∃ a b, s = a ++ sep :: b ∧ sep ∉ a ∧ sep ∉ b ∧ splitUpTo sep 2 s = [a, b])
      ∨ ∃ a b c, s = a ++ sep :: (b ++ sep :: c) ∧ sep ∉ a ∧ sep ∉ b
        ∧ splitUpTo sep 2 s = [a, b, c] := by
  simp only [splitUpTo]
  cases hfirst : splitAt? sep s with
  | none => exact .inl ⟨splitAt?_eq_none_iff.1 hfirst, rfl⟩
  | some cut =>
      rcases cut with ⟨a, rest⟩
      rcases splitAt?_eq_some hfirst with ⟨rfl, ha⟩
      cases hsecond : splitAt? sep rest with
      | none =>
          have hrest := splitAt?_eq_none_iff.1 hsecond
          exact .inr (.inl ⟨a, rest, rfl, ha, hrest, by simp only [hsecond]⟩)
      | some cut =>
          rcases cut with ⟨b, c⟩
          rcases splitAt?_eq_some hsecond with ⟨rfl, hb⟩
          exact .inr (.inr ⟨a, b, c, rfl, ha, hb, by simp only [hsecond]⟩)

theorem splitUpTo_cut {sep : Char} {a b : List Char} (ha : sep ∉ a) (hb : sep ∉ b) (c : List Char) :
    splitUpTo sep 2 (a ++ sep :: (b ++ sep :: c)) = [a, b, c] := by
  simp only [splitUpTo, splitAt?_cut ha, splitAt?_cut hb]

theorem splitUpTo_one_cut {sep : Char} {a b : List Char} (ha : sep ∉ a) (hb : sep ∉ b) :
    splitUpTo sep 2 (a ++ sep :: b) = [a, b] := by
  simp only [splitUpTo, splitAt?_cut ha, splitAt?_of_notMem hb]

theorem readXPathMatcher_iff (row : List Char) (r : Except FieldError XPathMatcher) :
    readXPathMatcher row = r ↔ MatcherLine row r := by
  constructor
  · rintro rfl
    rcases splitUpTo_two '|' row with ⟨hsep, hone⟩ | ⟨xpath, expected, rfl, hx, he, htwo⟩
      | ⟨name, xpath, expected, rfl, hsep, hx, hthree⟩
    · rw [readXPathMatcher, hone]
      exact .noSep hsep
    · rw [readXPathMatcher, htwo]
      exact .unnamed hx he
    · simp only [readXPathMatcher, hthree, List.map_cons, List.map_nil]
      cases hkind : XPathMatcher.Kind.ofName? (trimmed name) with
      | none => exact .noKind expected hsep (ofName?_eq_none_iff.1 hkind) hx
      | some kind => exact .named kind expected hsep (ofName?_eq_some_iff.1 hkind) hx
  · rintro (⟨hx, he⟩ | ⟨kind, expected, hsep, hname, hx⟩ | ⟨expected, hsep, hname, hx⟩ | hsep)
    · rw [readXPathMatcher, splitUpTo_one_cut hx he]
      rfl
    · simp only [readXPathMatcher, splitUpTo_cut hsep hx, List.map_cons, List.map_nil,
        ofName?_eq_some_iff.2 hname]
    · simp only [readXPathMatcher, splitUpTo_cut hsep hx, List.map_cons, List.map_nil,
        ofName?_eq_none_iff.2 hname]
    · simp only [readXPathMatcher, splitUpTo, splitAt?_of_notMem hsep, List.map_cons, List.map_nil]

/-! ## The three tables -/

/-- Each table is read line by line: one row for each line that is not blank, or what is wrong with
the first one that has none. -/
theorem tables_readByLine :
    ReadByLine PairLine readPairs ∧ ReadByLine BodyLine readBodyMatchers
      ∧ ReadByLine MatcherLine readXPathMatchers :=
  ⟨readByLine readPair_iff, readByLine readBodyMatcher_iff, readByLine readXPathMatcher_iff⟩

end Rows

end StubConsole
