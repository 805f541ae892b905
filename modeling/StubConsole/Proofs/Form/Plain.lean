import StubConsole.Proofs.Form.RowGrammar

/-!
# Plain — what a row can carry

Rows have no escapes.  A row carries a value if no part of it has a blank at an end or a line feed
in it, and no part but the last one its separator.  These are the values that readers of rows give,
so a value stands for itself in a row just if some row is read as it.

* `Text.Inline` — a part of a row;
* `PlainPair`, `PlainBody`, `PlainMatcher` — the values that rows of each form can carry;
* `Rows.rowForm_pair` and its likes — they are what is read, and are read again when written;
* `Rows.PairRow`, `Rows.MatcherRow` — the rows that are read at all.
-/

namespace StubConsole

open Rows Text

/-! ## Parts of rows -/

namespace Text

variable {sep : Char} {a b s : List Char}

/-- A text that can stand in a row as it is. -/
structure Inline (s : List Char) : Prop extends Trimmed s where
  line : '\n' ∉ s

instance (s : List Char) : Decidable (Trimmed s) :=
  decidable_of_iff (s.head?.all (fun c => !isBlank c) = true ∧
      s.getLast?.all (fun c => !isBlank c) = true)
    ⟨fun h => trimmed_of_ends h.1 h.2, fun h =>
      ⟨by simpa [Option.all_eq_true] using h.front, by simpa [Option.all_eq_true] using h.back⟩⟩

instance (s : List Char) : Decidable (Inline s) :=
  decidable_of_iff (Trimmed s ∧ '\n' ∉ s) ⟨fun h => ⟨h.1, h.2⟩, fun h => ⟨h.toTrimmed, h.line⟩⟩

instance (s : List Char) : Decidable (IsRow s) :=
  decidable_of_iff (Trimmed s ∧ s ≠ [] ∧ '\n' ∉ s)
    ⟨fun h => ⟨h.1, h.2.1, h.2.2⟩, fun h => ⟨h.toTrimmed, h.solid, h.line⟩⟩

theorem IsRow.inline (h : IsRow s) : Inline s := ⟨h.toTrimmed, h.line⟩

theorem notMem_trimChars (h : sep ∉ s) : sep ∉ trimChars s :=
  fun hmem => h (mem_of_mem_trimChars hmem)

theorem inline_trimChars (h : '\n' ∉ s) : Inline (trimChars s) :=
  ⟨trimmed_trimChars s, notMem_trimChars h⟩

/-- Around a separator there may be nothing, and still no blank is at an end. -/
theorem Inline.joined (ha : Inline a) (hb : Inline b) (hsep : isBlank sep = false) :
    IsRow (a ++ sep :: b) where
  -- with nothing in front of it the separator itself is the end, and it is no blank
  front := by
    intro c hc
    cases a with
    | nil =>
        cases hc
        exact hsep
    | cons d a => exact ha.front c hc
  back := by
    intro c hc
    rw [List.getLast?_append, List.getLast?_cons] at hc
    cases hlast : b.getLast? with
    | none =>
        rw [hlast] at hc
        cases hc
        exact hsep
    | some d =>
        rw [hlast] at hc
        cases hc
        exact hb.back d hlast
  solid := by simp
  line := by
    have hfeed : '\n' ≠ sep := by
      rintro rfl
      cases hsep
    simp [ha.line, hb.line, hfeed]

theorem line_of_joined (h : '\n' ∉ a ++ sep :: b) : '\n' ∉ a ∧ '\n' ∉ b := by
  simp only [List.mem_append, List.mem_cons, not_or] at h
  exact ⟨h.1, h.2.2⟩

end Text

/-! ## Values -/

/-- A name and a value that a row `name=value` can carry. -/
structure PlainPair (p : String × String) : Prop where
  name : IsRow p.1.toList
  sep : '=' ∉ p.1.toList
  value : Inline p.2.toList

/-- A body matcher that a row `kind:value` can carry. -/
def PlainBody (m : BodyMatcher) : Prop := Inline m.value.toList

/-- An XPath matcher that a row `kind|xpath|expected` can carry. -/
structure PlainMatcher (m : XPathMatcher) : Prop where
  xpath : Inline m.xpath.toList
  sep : '|' ∉ m.xpath.toList
  expected : Inline m.expectedValue.toList

instance (p : String × String) : Decidable (PlainPair p) :=
  decidable_of_iff (IsRow p.1.toList ∧ '=' ∉ p.1.toList ∧ Inline p.2.toList)
    ⟨fun h => ⟨h.1, h.2.1, h.2.2⟩, fun h => ⟨h.name, h.sep, h.value⟩⟩

instance (m : BodyMatcher) : Decidable (PlainBody m) := inferInstanceAs (Decidable (Inline _))

instance (m : XPathMatcher) : Decidable (PlainMatcher m) :=
  decidable_of_iff
    (Inline m.xpath.toList ∧ '|' ∉ m.xpath.toList ∧ Inline m.expectedValue.toList)
    ⟨fun h => ⟨h.1, h.2.1, h.2.2⟩, fun h => ⟨h.xpath, h.sep, h.expected⟩⟩

namespace Rows

variable {row : List Char}

@[simp] theorem toList_trimmed (s : List Char) : (trimmed s).toList = trimChars s :=
  String.toList_ofList

theorem trimmed_of_inline {s : String} (h : Inline s.toList) : trimmed s.toList = s := by
  rw [trimmed, trimChars_of_trimmed h.toTrimmed, String.ofList_toList]

/-! ## Pairs -/

/-- A row `name=value`, the name not blank. -/
def PairRow (row : List Char) : Prop :=
  ∃ name value, row = name ++ '=' :: value ∧ '=' ∉ name ∧ ¬ name.all isBlank = true

theorem exists_of_readPair {p : String × String} (h : readPair row = .ok p) :
    ∃ name value, row = name ++ '=' :: value ∧ '=' ∉ name ∧ ¬ name.all isBlank = true
      ∧ p = (trimmed name, trimmed value) := by
  cases (readPair_iff row _).1 h with
  | pair value hsep hname =>
      rw [ne_eq, trimChars_eq_nil_iff] at hname
      exact ⟨_, value, rfl, hsep, hname, rfl⟩

theorem exists_readPair_iff : (∃ p, readPair row = .ok p) ↔ PairRow row := by
  constructor
  · rintro ⟨p, h⟩
    rcases exists_of_readPair h with ⟨name, value, hrow, hsep, hname, -⟩
    exact ⟨name, value, hrow, hsep, hname⟩
  · rintro ⟨name, value, rfl, hsep, hname⟩
    rw [← trimChars_eq_nil_iff] at hname
    exact ⟨_, (readPair_iff _ _).2 (.pair value hsep hname)⟩

theorem toList_pair (name value : String) :
    (name ++ "=" ++ value).toList = name.toList ++ '=' :: value.toList := by simp

theorem rowForm_pair : RowForm readPair (fun p => p.1 ++ "=" ++ p.2) PlainPair where
  plain := by
    intro row p hrow h
    rcases exists_of_readPair h with ⟨name, value, rfl, hsep, hname, rfl⟩
    rcases line_of_joined hrow.line with ⟨hnameLine, hvalueLine⟩
    have hinline := inline_trimChars hnameLine
    have hsolid : trimChars name ≠ [] := by rwa [ne_eq, trimChars_eq_nil_iff]
    have hrowName : IsRow (trimChars name) := ⟨hinline.toTrimmed, hsolid, hinline.line⟩
    exact {
      name := by simpa using hrowName
      sep := by simpa using notMem_trimChars hsep
      value := by simpa using inline_trimChars hvalueLine }
  row := by
    intro p hp
    rw [toList_pair]
    exact hp.name.inline.joined hp.value rfl
  again := by
    intro p hp
    have hname : trimChars p.1.toList ≠ [] := by
      rw [trimChars_of_trimmed hp.name.toTrimmed]
      exact hp.name.solid
    have hread := (readPair_iff _ _).2 (.pair p.2.toList hp.sep hname)
    rwa [← toList_pair, trimmed_of_inline hp.name.inline, trimmed_of_inline hp.value] at hread

/-! ## Body matchers -/

/-- The keys of the kinds are plain words. -/
theorem key_plain (kind : BodyMatcher.Kind) :
    IsRow kind.key.toList ∧ ':' ∉ kind.key.toList
      ∧ BodyMatcher.Kind.ofKey? (trimmed kind.key.toList) = some kind := by
  cases kind <;> decide

theorem toList_body (key value : String) :
    (key ++ ":" ++ value).toList = key.toList ++ ':' :: value.toList := by simp

theorem rowForm_body :
    RowForm readBodyMatcher (fun m => m.kind.key ++ ":" ++ m.value) PlainBody where
  plain := by
    intro row m hrow h
    cases (readBodyMatcher_iff row _).1 h with
    | matcher kind value hsep hkey =>
        simpa [PlainBody] using inline_trimChars (line_of_joined hrow.line).2
  row := by
    intro m hm
    rw [toList_body]
    exact (key_plain m.kind).1.inline.joined hm rfl
  again := by
    intro m hm
    rcases key_plain m.kind with ⟨-, hsep, hkey⟩
    have hread := (readBodyMatcher_iff _ _).2
      (.matcher m.kind m.value.toList hsep (ofKey?_eq_some_iff.1 hkey))
    rwa [← toList_body, trimmed_of_inline hm] at hread

/-! ## XPath matchers -/

theorem name_plain (kind : XPathMatcher.Kind) :
    IsRow kind.name.toList ∧ '|' ∉ kind.name.toList
      ∧ XPathMatcher.Kind.ofName? (trimmed kind.name.toList) = some kind := by
  cases kind <;> decide

/-- A row `xpath|expected`, or one with the name of a kind in front. -/
def MatcherRow (row : List Char) : Prop :=
  (∃ xpath expected, row = xpath ++ '|' :: expected ∧ '|' ∉ xpath ∧ '|' ∉ expected)
    ∨ ∃ (kind : XPathMatcher.Kind) (name xpath expected : List Char),
        row = name ++ '|' :: (xpath ++ '|' :: expected) ∧ '|' ∉ name ∧ '|' ∉ xpath
          ∧ trimmed name = kind.name

/-- The parts of a matcher, whether its kind was named or left out. -/
theorem exists_of_readXPathMatcher {m : XPathMatcher} (h : readXPathMatcher row = .ok m) :
    (∃ xpath expected, row = xpath ++ '|' :: expected ∧ '|' ∉ xpath ∧ '|' ∉ expected
        ∧ m = ⟨trimmed xpath, trimmed expected, .equalTo⟩)
      ∨ ∃ name xpath expected, row = name ++ '|' :: (xpath ++ '|' :: expected) ∧ '|' ∉ name
          ∧ '|' ∉ xpath ∧ trimmed name = m.kind.name
          ∧ m = ⟨trimmed xpath, trimmed expected, m.kind⟩ := by
  cases (readXPathMatcher_iff row _).1 h with
  | unnamed hx he => exact .inl ⟨_, _, rfl, hx, he, rfl⟩
  | named kind expected hsep hname hx => exact .inr ⟨_, _, expected, rfl, hsep, hx, hname, rfl⟩

theorem exists_readXPathMatcher_iff : (∃ m, readXPathMatcher row = .ok m) ↔ MatcherRow row := by
  constructor
  · rintro ⟨m, h⟩
    rcases exists_of_readXPathMatcher h with ⟨xpath, expected, hrow, hx, he, -⟩
      | ⟨name, xpath, expected, hrow, hn, hx, hname, -⟩
    · exact .inl ⟨xpath, expected, hrow, hx, he⟩
    · exact .inr ⟨m.kind, name, xpath, expected, hrow, hn, hx, hname⟩
  · rintro (⟨xpath, expected, rfl, hx, he⟩ | ⟨kind, name, xpath, expected, rfl, hn, hx, hname⟩)
    · exact ⟨_, (readXPathMatcher_iff _ _).2 (.unnamed hx he)⟩
    · exact ⟨_, (readXPathMatcher_iff _ _).2 (.named kind expected hn hname hx)⟩

theorem exists_readXPathMatchers_iff {text : String} :
    (∃ matchers, readXPathMatchers text = .ok matchers) ↔ ∀ row ∈ rowsOf text, MatcherRow row := by
  simp only [← exists_readXPathMatcher_iff, readXPathMatchers, exists_readRows_iff]

theorem toList_matcher (name xpath expected : String) :
    (name ++ "|" ++ xpath ++ "|" ++ expected).toList
      = name.toList ++ '|' :: (xpath.toList ++ '|' :: expected.toList) := by simp

theorem rowForm_matcher :
    RowForm readXPathMatcher
      (fun m => m.kind.name ++ "|" ++ m.xpath ++ "|" ++ m.expectedValue) PlainMatcher where
  plain := by
    intro row m hrow h
    -- the two last parts are the same in both forms of a row
    have hparts {xpath expected : List Char} {kind : XPathMatcher.Kind} (hx : '|' ∉ xpath)
        (hline : '\n' ∉ xpath ++ '|' :: expected) :
        PlainMatcher ⟨trimmed xpath, trimmed expected, kind⟩ := {
      xpath := by simpa using inline_trimChars (line_of_joined hline).1
      sep := by simpa using notMem_trimChars hx
      expected := by simpa using inline_trimChars (line_of_joined hline).2 }
    rcases exists_of_readXPathMatcher h with ⟨xpath, expected, rfl, hx, -, hm⟩
      | ⟨name, xpath, expected, rfl, -, hx, -, hm⟩
    · rw [hm]
      exact hparts hx hrow.line
    · rw [hm]
      exact hparts hx (line_of_joined hrow.line).2
  row := by
    intro m hm
    rw [toList_matcher]
    exact (name_plain m.kind).1.inline.joined (hm.xpath.joined hm.expected rfl).inline rfl
  again := by
    intro m hm
    rcases name_plain m.kind with ⟨-, hsep, hname⟩
    have hread := (readXPathMatcher_iff _ _).2
      (.named m.kind m.expectedValue.toList hsep (ofName?_eq_some_iff.1 hname) hm.sep)
    rwa [← toList_matcher, trimmed_of_inline hm.xpath, trimmed_of_inline hm.expected] at hread

end Rows

end StubConsole
