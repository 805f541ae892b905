import StubConsole.Proofs.Form.Apart

/-!
# Unedited — a field is opened and stored as it is shown

Tables are shown as rows without escapes, and what is stored is what the rows say.  So a table stays
as it is just if rows can carry all of it; otherwise a row is refused, or the rows say something
else, and that is stored.

* `Form.unedited`, `Session.commitInput_activate` — a field stored as it is shown, in any form and
  in an editor;
* `Stub.Carried`, `Stub.unedited_rows_iff` — the tables of a REST stub;
* `SoapStub.UneditedTable`, `SoapStub.unedited_tables` — the tables that a SOAP stub keeps as JSON
  text, also those that cannot be read.
-/

namespace StubConsole

open Json (exists_of_bind_eq_ok bind_eq_ok_of)
open Rows Text

/-! ## Any form -/

section Forms

variable {α Field : Type} [Form α Field]

/-- The value with a field stored as it is shown. -/
def Form.unedited (value : α) (field : Field) : Except FieldError α :=
  Form.setValue value field (Form.value value field)

/-- Over several lines an input holds the text that is shown. -/
theorem Session.commitInput_activate {session : Session α} {value : α} {field : Field}
    (hdraft : session.draft = .structured value) (hselected : session.currentField? = some field)
    (hkind : Form.kind α field = .multiline) :
    session.activate.1.commitInput = (Form.unedited value field).map fun stored =>
      { session with draft := .structured stored, input := none } := by
  have hopened : session.activate
      = ({ session with input := some (.multiLine (Form.value value field)) }, true) := by
    simp only [activate, hselected, hdraft, hkind]
  have hfield : currentField? { session with input := some (.multiLine (Form.value value field)) }
      = some field := hselected
  rw [hopened, commitInput, hfield]
  simp only [hdraft, Form.unedited, TextBuffer.multiLine, TextBuffer.ofContent]
  cases Form.setValue value field (Form.value value field) <;> rfl

/-- An editor keeps its draft just if the value keeps what the field shows. -/
theorem Session.commitInput_activate_eq_iff {session : Session α} {value : α} {field : Field}
    (hdraft : session.draft = .structured value) (hselected : session.currentField? = some field)
    (hkind : Form.kind α field = .multiline) :
    session.activate.1.commitInput = .ok { session with input := none }
      ↔ Form.unedited value field = .ok value := by
  rw [commitInput_activate hdraft hselected hkind]
  constructor
  · intro h
    cases hstored : Form.unedited value field with
    | error fault =>
        rw [hstored] at h
        cases h
    | ok stored =>
        rw [hstored] at h
        have hsame : Draft.structured stored = session.draft :=
          congrArg Session.draft (Except.ok.inj h)
        rw [hdraft] at hsame
        exact congrArg Except.ok (Draft.structured.inj hsame)
  · intro h
    rw [h, hdraft]
    rfl

/-- A part that is read and put back is the part that was there. -/
theorem Form.bind_eq_ok_self_iff {β : Type} {r : Except FieldError β} {put : β → α} {value : α}
    (get : α → β) (hget : ∀ part, get (put part) = part) (hput : put (get value) = value) :
    (do return put (← r)) = Except.ok value ↔ r = .ok (get value) := by
  constructor
  · intro h
    rcases exists_of_bind_eq_ok h with ⟨part, hpart, hvalue⟩
    rw [hpart, ← hget part]
    exact congrArg (fun v => Except.ok (get v)) (Except.ok.inj hvalue)
  · intro h
    exact bind_eq_ok_of h (congrArg Except.ok hput)

end Forms

/-! ## REST stubs -/

namespace Stub

variable {s : Stub} {field : RestField}

/-- The fields that show a table as rows. -/
def rowFields : List RestField := [.requestHeaders, .queryParams, .bodyPatterns, .responseHeaders]

/-- Rows can carry all that is shown of the rules. -/
def CarriedRules (rules : SortedMap MatchRule) : Prop :=
  ∀ e ∈ rules.entries, ∀ value ∈ e.2.equalTo, PlainPair (e.1, value)

instance (rules : SortedMap MatchRule) : Decidable (CarriedRules rules) :=
  inferInstanceAs (Decidable (∀ _ ∈ rules.entries, _))

/-- Rows can carry all that the field shows. -/
def Carried (s : Stub) : RestField → Prop
  | .requestHeaders => CarriedRules s.request.headers
  | .queryParams => CarriedRules s.request.queryParameters
  | .bodyPatterns => ∀ m ∈ s.request.bodyMatchers, PlainBody m
  | .responseHeaders => ∀ e ∈ s.response.headers.entries, PlainPair e
  | _ => True

/-- Each rule in the table of a field that has a plain value holds nothing else. -/
def SoleValues (s : Stub) (field : RestField) : Prop :=
  ∀ e ∈ s.rules field, ∀ value ∈ e.2.equalTo, e.2 = .ofValue value

instance (s : Stub) (field : RestField) : Decidable (s.SoleValues field) :=
  inferInstanceAs (Decidable (∀ _ ∈ s.rules field, _))

/-- Of rules that hold nothing but their plain values the form shows all there is. -/
theorem plainRules_iff {rules : SortedMap MatchRule}
    (h : ∀ e ∈ rules.entries, ∀ value ∈ e.2.equalTo, e.2 = .ofValue value) :
    PlainRules rules ↔ CarriedRules rules :=
  ⟨fun hplain e he value hvalue => (hplain e he value hvalue).2,
    fun hplain e he value hvalue => ⟨h e he value hvalue, hplain e he value hvalue⟩⟩

theorem unedited_eq_ok_self_iff (hfield : field ∈ rowFields) (hsole : s.SoleValues field) :
    Form.unedited s field = .ok s ↔ s.Carried field := by
  simp only [rowFields, List.mem_cons, List.not_mem_nil, or_false] at hfield
  -- each field reads one part of the stub and puts it back, so only that part has to be compared
  rcases hfield with rfl | rfl | rfl | rfl
  · calc
      Form.unedited s RestField.requestHeaders = .ok s
          ↔ replacePlainRows s.request.headers (plainRows s.request.headers)
              = .ok s.request.headers :=
            Form.bind_eq_ok_self_iff (fun t : Stub => t.request.headers) (fun _ => rfl) rfl
      _ ↔ PlainRules s.request.headers := replacePlainRows_plainRows_iff
      _ ↔ s.Carried .requestHeaders := plainRules_iff hsole
  · calc
      Form.unedited s RestField.queryParams = .ok s
          ↔ replacePlainRows s.request.queryParameters (plainRows s.request.queryParameters)
              = .ok s.request.queryParameters :=
            Form.bind_eq_ok_self_iff (fun t : Stub => t.request.queryParameters)
              (fun _ => rfl) rfl
      _ ↔ PlainRules s.request.queryParameters := replacePlainRows_plainRows_iff
      _ ↔ s.Carried .queryParams := plainRules_iff hsole
  · calc
      Form.unedited s RestField.bodyPatterns = .ok s
          ↔ readBodyMatchers (writeBodyMatchers s.request.bodyMatchers)
              = .ok s.request.bodyMatchers :=
            Form.bind_eq_ok_self_iff (fun t : Stub => t.request.bodyMatchers)
              (fun _ => rfl) rfl
      _ ↔ s.Carried .bodyPatterns := rowForm_body.readRows_join_iff
  · calc
      Form.unedited s RestField.responseHeaders = .ok s
          ↔ readTable (writePairs s.response.headers.entries) = .ok s.response.headers :=
            Form.bind_eq_ok_self_iff (fun t : Stub => t.response.headers)
              (fun _ => rfl) rfl
      _ ↔ s.Carried .responseHeaders := readTable_writePairs_iff

/-- A table is stored as it was when its field is opened and nothing is typed, just if rows can carry
all that is shown of it.  Hidden rules do not count.  Left open is what becomes of a rule that has
another test beside its plain value. -/
theorem unedited_rows_iff (s : Stub) (field : RestField) (hfield : field ∈ rowFields)
    (hsole : s.SoleValues field) :
    (Form.unedited s field = .ok s ↔ s.Carried field) ∧
    ∀ session : Session Stub, session.draft = .structured s →
      session.currentField? = some field →
      (session.activate.1.commitInput = .ok { session with input := none } ↔ s.Carried field) := by
  have hvalue := unedited_eq_ok_self_iff hfield hsole
  refine ⟨hvalue, fun session hdraft hselected => ?_⟩
  have hkind : Form.kind Stub field = .multiline := by
    simp only [rowFields, List.mem_cons, List.not_mem_nil, or_false] at hfield
    rcases hfield with rfl | rfl | rfl | rfl <;> rfl
  exact (Session.commitInput_activate_eq_iff hdraft hselected hkind).trans hvalue

/-- Separators behind the one that counts, parts that are empty, and a hidden rule whose name is no
name of a row. -/
def tabled : Stub :=
  { Stub.fresh with
    request :=
      { Stub.fresh.request with
        headers :=
          ⟨[("Accept", .ofValue "a=b"), ("a= ", { MatchRule.none with absent := some true })],
            by decide⟩
        queryParameters := ⟨[("q", .ofValue "")], by decide⟩
        bodyMatchers := [⟨.equalToJson, "\x7b\"a\": 1\x7d"⟩, ⟨.contains, ""⟩] }
    response := { Stub.fresh.response with headers := ⟨[("Server", "x y")], by decide⟩ } }

theorem unedited_rows_tabled :
    (∀ field ∈ rowFields, tabled.SoleValues field ∧ tabled.Carried field ∧
      Form.unedited tabled field = .ok tabled) ∧
    { Session.opened tabled with field := 3 }.activate.1.commitInput
      = .ok { Session.opened tabled with field := 3, input := none } := by
  have hsole : ∀ field ∈ rowFields, tabled.SoleValues field := by decide
  have hcarried : ∀ field ∈ rowFields, tabled.Carried field := by
    simp only [rowFields, List.forall_mem_cons, Carried]
    exact ⟨by decide +kernel, by decide +kernel, by decide +kernel, by decide +kernel, by simp⟩
  have hvalue (field : RestField) (hfield : field ∈ rowFields) :=
    unedited_rows_iff tabled field hfield (hsole field hfield)
  have hheaders : RestField.requestHeaders ∈ rowFields := by decide
  exact ⟨fun field hfield => ⟨hsole field hfield, hcarried field hfield,
      (hvalue field hfield).1.2 (hcarried field hfield)⟩,
    ((hvalue _ hheaders).2 _ rfl rfl).2 (hcarried _ hheaders)⟩

/-- A body of two lines, and a header with a blank in front of its value. -/
def folded : Stub :=
  { Stub.fresh with
    name := ""
    enabled := none
    request := { RequestPattern.empty with bodyMatchers := [⟨.equalTo, "a\nb"⟩] }
    response := { ResponseDefinition.empty with headers := ⟨[("Server", " x")], by decide⟩ } }

/-- The second line of the body is no row, and the blank of the header is lost. -/
theorem unedited_rows_folded :
    Record.read? (Record.write folded) = some folded ∧
    Form.unedited folded RestField.bodyPatterns = .error (.noBodyRow "b") ∧
    ∃ t, Form.unedited folded RestField.responseHeaders = .ok t ∧
      t.response.headers.entries = [("Server", "x")] := by
  have hread : Record.read? (Record.write folded) = some folded := by decide +kernel
  have hstored : (folded.setField .responseHeaders (folded.fieldValue .responseHeaders)).toOption.map
      (·.response.headers.entries) = some [("Server", "x")] := by decide +kernel
  have hrefused : folded.setField .bodyPatterns (folded.fieldValue .bodyPatterns)
      = .error (.noBodyRow "b") := by decide +kernel
  exact ⟨hread, hrefused, exists_ok_of_map hstored⟩

end Stub

/-! ## SOAP stubs -/

namespace SoapStub

variable {τ : Type} {s : SoapStub} {field : SoapField}

/-- What becomes of a table that is kept as JSON text when its field is stored as it is shown.  A
text that is no table is shown as it is, and is read as any other rows are. -/
structure UneditedTable (s : SoapStub) (field : SoapField) (table? : SoapStub → Option τ)
    (jsonText : SoapStub → String) (read : String → Except FieldError τ) (Fits : τ → Prop)
    (Row : List Char → Prop) : Prop where
  kept : ∀ table, table? s = some table →
    ((∃ t, Form.unedited s field = .ok t ∧ table? t = some table) ↔ Fits table)
  raw : table? s = none → Form.value s field = jsonText s
  refused : (∃ fault, Form.unedited s field = .error fault)
    ↔ ∃ row ∈ rowsOf (Form.value s field), ¬ Row row
  stored : ∀ t, Form.unedited s field = .ok t → t = s.withFieldOf t field ∧
    ∃ table, read (Form.value s field) = .ok table ∧ table? t = some table ∧ Fits table

/-- A table is stored as its rows are read. -/
theorem uneditedTable_of_rows {read : String → Except FieldError τ} {write : τ → String}
    {store : τ → SoapStub} {table? : SoapStub → Option τ} {jsonText : SoapStub → String}
    {Fits : τ → Prop} {Row : List Char → Prop}
    (hedit : ∀ text, Form.setValue s field text = (do return store (← read text)))
    (hframe : ∀ text t, Form.setValue s field text = .ok t → t = s.withFieldOf t field)
    (hshown : Form.value s field = ((table? s).map write).getD (jsonText s))
    (htable : ∀ table, table? (store table) = some table)
    (hfits : ∀ {text table}, read text = .ok table → Fits table)
    (hread : ∀ {table}, Fits table → read (write table) = .ok table)
    (hrows : ∀ text, (∃ table, read text = .ok table) ↔ ∀ row ∈ rowsOf text, Row row) :
    s.UneditedTable field table? jsonText read Fits Row where
  kept := by
    intro table hdecoded
    have htext : Form.value s field = write table := by rw [hshown, hdecoded]; rfl
    rw [Form.unedited, hedit, htext]
    constructor
    · rintro ⟨t, ht, hsame⟩
      -- rows that were read fit, and here they are the table that was shown
      rcases exists_of_bind_eq_ok ht with ⟨table', htable', hstored⟩
      cases hstored
      obtain rfl : table' = table := Option.some.inj ((htable table').symm.trans hsame)
      exact hfits htable'
    · intro hfit
      exact ⟨store table, bind_eq_ok_of (hread hfit) rfl, htable table⟩
  raw := by
    intro hnone
    rw [hshown, hnone]
    rfl
  refused := by
    have hrow := not_congr (hrows (Form.value s field))
    push Not at hrow
    rw [Form.unedited, hedit, ← hrow]
    cases hvalue : read (Form.value s field) with
    | error fault => exact iff_of_true ⟨fault, rfl⟩ fun table h => nomatch h
    | ok table => exact iff_of_false (fun ⟨_, h⟩ => nomatch h) fun h => h table rfl
  stored := by
    intro t ht
    have hkept := hframe _ t ht
    rw [Form.unedited, hedit] at ht
    rcases exists_of_bind_eq_ok ht with ⟨table, hvalue, hstored⟩
    cases hstored
    exact ⟨hkept, table, hvalue, htable table, hfits hvalue⟩

/-- Both tables of a stub stay as they are just if rows can carry all of them, and are refused just
if some line that is shown is no row. -/
theorem unedited_tables (s : SoapStub) :
    s.UneditedTable .namespaces namespaces? xmlNamespaces readTable
      (fun table => ∀ e ∈ table.entries, PlainPair e) PairRow ∧
    s.UneditedTable .xPathMatchers matchers? xpathMatchers readXPathMatchers
      (fun matchers => ∀ m ∈ matchers, PlainMatcher m) MatcherRow := by
  constructor
  · refine uneditedTable_of_rows (fun _ => rfl)
      (fun _ _ h => setField_eq_withFieldOf h fun hfield => absurd hfield (by decide)) ?_
      (namespaces?_setNamespaces s) plain_of_readTable readTable_writePairs_iff.2
      fun _ => exists_readTable_iff
    simp only [Form.value, fieldValue, namespacesText]
    cases s.namespaces? <;> rfl
  · refine uneditedTable_of_rows (fun _ => rfl)
      (fun _ _ h => setField_eq_withFieldOf h fun hfield => absurd hfield (by decide)) ?_
      (matchers?_setMatchers s) rowForm_matcher.plain_of_readRows rowForm_matcher.readRows_join
      fun _ => exists_readXPathMatchers_iff
    simp only [Form.value, fieldValue, matchersText]
    cases s.matchers? <;> rfl

/-- An XPath expression with an alternative, and namespaces that are no JSON. -/
def alternative : SoapStub :=
  { SoapStub.fresh with
    xpathMatchers := Record.write [(⟨"a|b", "c", .contains⟩ : XPathMatcher)]
    xmlNamespaces := "m=urn:a" }

/-- The expression ends at its own separator, and the text that is no table becomes one. -/
theorem unedited_tables_alternative :
    alternative.matchers? = some [⟨"a|b", "c", .contains⟩] ∧
    (∃ t, Form.unedited alternative SoapField.xPathMatchers = .ok t ∧
      t.matchers? = some [⟨"a", "b|c", .contains⟩]) ∧
    alternative.namespaces? = none ∧
    ∃ t, Form.unedited alternative SoapField.namespaces = .ok t ∧
      t.namespaces?.map (·.entries) = some [("m", "urn:a")] := by
  have hmatchers : (alternative.setField .xPathMatchers
      (alternative.fieldValue .xPathMatchers)).toOption.map matchers?
        = some (some [⟨"a", "b|c", .contains⟩]) := by decide +kernel
  have hnamespaces : (alternative.setField .namespaces
      (alternative.fieldValue .namespaces)).toOption.map (fun t => t.namespaces?.map (·.entries))
        = some (some [("m", "urn:a")]) := by decide +kernel
  exact ⟨matchers?_setMatchers alternative _, exists_ok_of_map hmatchers, by decide +kernel,
    exists_ok_of_map hnamespaces⟩

end SoapStub

end StubConsole
