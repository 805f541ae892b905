import StubConsole.Proofs.Form.Plain
import StubConsole.StubKind

/-!
# Shown — a field that was stored shows what it stores

A field is opened on the text that it shows, so a text that stood for another value than the one
shown would change the stub each time a field is opened and stored.  Whatever was typed into a
text field, what the field shows afterwards reads back to the value that was stored.

* `readTable_writePairs_iff`, `replacePlainRows_plainRows_iff` — tables that are their own rows;
* `RowsStored` — rows beside rules that are no rows;
* `SoapStub.readTable_namespacesText`, `SoapStub.readXPathMatchers_matchersText` — tables that are
  kept as JSON text;
* `Stub.setField_fieldValue` and its likes — every field of a kind;
* `StubKind.setValue_value` — the three kinds.
-/

namespace StubConsole

open Json (exists_of_bind_eq_ok bind_eq_ok_of)
open Rows Text

/-! ## Tables of rows -/

theorem plain_of_readTable {m : SortedMap String} {text : String}
    (h : readTable text = .ok m) : ∀ e ∈ m.entries, PlainPair e := by
  unfold readTable at h
  cases hpairs : readPairs text with
  | error fault =>
      rw [hpairs] at h
      cases h
  | ok pairs =>
      rw [hpairs] at h
      cases h
      exact fun e he => rowForm_pair.plain_of_readRows hpairs e (SortedMap.mem_ofList he)

theorem readTable_writePairs_iff {m : SortedMap String} :
    readTable (writePairs m.entries) = .ok m ↔ ∀ e ∈ m.entries, PlainPair e := by
  refine ⟨plain_of_readTable, fun hplain => ?_⟩
  have hentries : readPairs (writePairs m.entries) = .ok m.entries :=
    rowForm_pair.readRows_join hplain
  rw [readTable, hentries]
  exact congrArg Except.ok (SortedMap.ofList_entries m)

theorem exists_readTable_iff {text : String} :
    (∃ m, readTable text = .ok m) ↔ ∀ row ∈ rowsOf text, PairRow row := by
  simp only [← exists_readPair_iff, ← exists_readRows_iff, readTable]
  rw [← readPairs]
  cases readPairs text with
  | error fault => exact iff_of_false (fun ⟨_, h⟩ => nomatch h) fun ⟨_, h⟩ => nomatch h
  | ok pairs => exact iff_of_true ⟨_, rfl⟩ ⟨_, rfl⟩

theorem readTable_writePairs {m : SortedMap String} {text : String}
    (h : readTable text = .ok m) : readTable (writePairs m.entries) = .ok m :=
  readTable_writePairs_iff.2 (plain_of_readTable h)

/-- What becomes of a table of rules when rows take the place of its plain ones: of the others
those without a row under their name stay, and nothing else comes in but the rows. -/
structure RowsStored (rules after : List (String × MatchRule)) (rows : List (String × String)) :
    Prop where
  hidden : ∀ e ∈ rules, e.2.equalTo = none → (e ∈ after ↔ ∀ row ∈ rows, row.1 ≠ e.1)
  nothingElse : ∀ e ∈ after, (e ∈ rules ∧ e.2.equalTo = none)
    ∨ ∃ row ∈ rows, e = (row.1, MatchRule.ofValue row.2)
  stored : ∀ row ∈ rows, ∃ value, (row.1, value) ∈ rows
    ∧ (row.1, MatchRule.ofValue value) ∈ after

theorem rowsStored_of_replacePlainRows {rules after : SortedMap MatchRule} {text : String}
    (h : replacePlainRows rules text = .ok after) :
    ∃ rows, readPairs text = .ok rows ∧ RowsStored rules.entries after.entries rows := by
  rcases exists_of_bind_eq_ok h with ⟨rows, hrows, hstored⟩
  cases hstored
  have hput (row : String × String) (hrow : row ∈ rows) :
      ∃ value, (row.1, value) ∈ rows ∧ (row.1, MatchRule.ofValue value) ∈
        ((rules.filter fun _ rule => rule.equalTo.isNone).insertMany
          (rows.map fun row => (row.1, MatchRule.ofValue row.2))).entries := by
    have hpair : (row.1, MatchRule.ofValue row.2)
        ∈ rows.map fun row => (row.1, MatchRule.ofValue row.2) := List.mem_map_of_mem hrow
    rcases SortedMap.exists_mem_insertMany _ hpair with ⟨rule, hrule, hput⟩
    rcases List.mem_map.1 hrule with ⟨row', hrow', heq⟩
    rcases Prod.mk.inj heq with ⟨hname, rfl⟩
    exact ⟨row'.2, hname ▸ hrow', hput⟩
  refine ⟨rows, hrows, { hidden := ?_, nothingElse := ?_, stored := hput }⟩
  · intro e he hhidden
    constructor
    · rintro hafter row hrow hname
      -- a row under the name of the rule would have taken its place
      rcases hput row hrow with ⟨value, -, hvalue⟩
      have hsame := SortedMap.eq_of_mem_of_key hafter hvalue hname
      rw [← hsame] at hhidden
      cases hhidden
    · intro hnames
      refine SortedMap.mem_insertMany_of_forall_ne (List.mem_filter.2 ⟨he, by simp [hhidden]⟩) ?_
      intro pair hpair
      rcases List.mem_map.1 hpair with ⟨row, hrow, rfl⟩
      exact hnames row hrow
  · intro e he
    rcases SortedMap.mem_insertMany he with hold | hnew
    · rcases List.mem_filter.1 hold with ⟨hold, hhidden⟩
      exact .inl ⟨hold, Option.isNone_iff_eq_none.1 hhidden⟩
    · rcases List.mem_map.1 hnew with ⟨row, hrow, rfl⟩
      exact .inr ⟨row, hrow, rfl⟩

/-- After rows were read, each rule with a plain value is just that value. -/
theorem RowsStored.plain {rules after : List (String × MatchRule)} {rows : List (String × String)}
    {e : String × MatchRule} {value : String} (h : RowsStored rules after rows) (he : e ∈ after)
    (hvalue : e.2.equalTo = some value) : (e.1, value) ∈ rows ∧ e.2 = .ofValue value := by
  rcases h.nothingElse e he with ⟨-, hnone⟩ | ⟨row, hrow, rfl⟩
  · rw [hvalue] at hnone
    cases hnone
  · cases hvalue
    exact ⟨hrow, rfl⟩

/-- The rows that are shown are the rules with a plain value, if these hold nothing else. -/
theorem map_ofValue_plain {entries : List (String × MatchRule)}
    (h : ∀ e ∈ entries, ∀ value, e.2.equalTo = some value → e.2 = .ofValue value) :
    (entries.filterMap fun e => e.2.equalTo.map (e.1, ·)).map
        (fun row => (row.1, MatchRule.ofValue row.2))
      = entries.filter fun e => e.2.equalTo.isSome := by
  induction entries with
  | nil => rfl
  | cons e rest ih =>
      have hrest := ih fun e' he' => h e' (List.mem_cons_of_mem _ he')
      cases hvalue : e.2.equalTo with
      | none => simpa [hvalue] using hrest
      | some value =>
          have hrule := h e List.mem_cons_self value hvalue
          simp [hvalue, hrest, ← hrule]

/-- Each rule with a plain value holds nothing else, and a row can carry it. -/
def PlainRules (rules : SortedMap MatchRule) : Prop :=
  ∀ e ∈ rules.entries, ∀ value ∈ e.2.equalTo, e.2 = .ofValue value ∧ PlainPair (e.1, value)

theorem plainRules_of_replacePlainRows {rules after : SortedMap MatchRule} {text : String}
    (h : replacePlainRows rules text = .ok after) : PlainRules after := by
  rcases rowsStored_of_replacePlainRows h with ⟨rows, hrows, hstored⟩
  intro e he value hvalue
  rcases hstored.plain he hvalue with ⟨hrow, hrule⟩
  exact ⟨hrule, rowForm_pair.plain_of_readRows hrows _ hrow⟩

theorem replacePlainRows_plainRows_iff {rules : SortedMap MatchRule} :
    replacePlainRows rules (plainRows rules) = .ok rules ↔ PlainRules rules := by
  refine ⟨plainRules_of_replacePlainRows, fun hplain => ?_⟩
  have hread : readPairs (plainRows rules)
      = .ok (rules.entries.filterMap fun e => e.2.equalTo.map (e.1, ·)) := by
    refine rowForm_pair.readRows_join ?_
    intro pair hpair
    rcases List.mem_filterMap.1 hpair with ⟨e, he, hshown⟩
    rcases Option.map_eq_some_iff.1 hshown with ⟨value, hvalue, rfl⟩
    exact (hplain e he value hvalue).2
  have hshown : (rules.entries.filterMap fun e => e.2.equalTo.map (e.1, ·)).map
        (fun row => (row.1, MatchRule.ofValue row.2))
      = (rules.filter fun _ rule => rule.equalTo.isSome).entries :=
    map_ofValue_plain fun e he value hvalue => (hplain e he value hvalue).1
  have hothers : (fun (_ : String) (rule : MatchRule) => rule.equalTo.isNone)
      = fun _ rule => !rule.equalTo.isSome := by
    funext _ rule
    cases rule.equalTo <;> rfl
  -- so the rules are taken apart into rows and others, and put together again
  refine Json.bind_eq_ok_of hread (congrArg Except.ok ?_)
  rw [hshown, hothers]
  exact SortedMap.insertMany_filter rules fun _ rule => rule.equalTo.isSome

theorem replacePlainRows_plainRows {rules after : SortedMap MatchRule} {text : String}
    (h : replacePlainRows rules text = .ok after) :
    replacePlainRows after (plainRows after) = .ok after :=
  replacePlainRows_plainRows_iff.2 (plainRules_of_replacePlainRows h)

/-! ## Tables as JSON text -/

section Tables

theorem not_allBlank_compact_arr (items : List Json) :
    ¬ allBlank (Json.arr items).compact = true := by
  simp [allBlank, Json.compact, Json.compactChars, show isBlank '[' = false from rfl]

theorem not_allBlank_compact_obj (members : List (String × Json)) :
    ¬ allBlank (Json.obj members).compact = true := by
  simp [allBlank, Json.compact, Json.compactChars, show isBlank '\x7b' = false from rfl]

theorem takenBack_strings (m : SortedMap String) : Record.TakenBack m where
  again := Rule.table_strings m
  readable := by
    have hreadable : Json.Readable .any 1 (Members.ofTable .str m) :=
      Rule.readable_anyTable fun e _ => .str e.2
    exact hreadable.mono (by decide)

theorem XPathMatcher.ofJson?_toJson (m : XPathMatcher) : ofJson? m.toJson = some m := by
  rcases m with ⟨xpath, expectedValue, kind⟩
  cases kind <;> rfl

theorem takenBack_matchers (matchers : List XPathMatcher) : Record.TakenBack matchers where
  again := Text.mapM_map matchers fun m _ => m.ofJson?_toJson
  readable := by
    have hreadable : Json.Readable (.each (Record.shape XPathMatcher)) 2
        (.arr (matchers.map Record.toJson)) := by
      refine .items ?_
      intro doc hdoc
      rcases List.mem_map.1 hdoc with ⟨m, -, rfl⟩
      refine .obj rfl ?_
      simp only [List.forall_mem_cons, List.not_mem_nil, false_implies, implies_true, and_true]
      exact ⟨.str _, .str _, .str _⟩
    exact hreadable.mono (by decide)

namespace SoapStub

theorem namespaces?_setNamespaces (s : SoapStub) (m : SortedMap String) :
    (s.setNamespaces m).namespaces? = some m := by
  have hsolid : ¬ allBlank (s.setNamespaces m).xmlNamespaces = true := not_allBlank_compact_obj _
  rw [namespaces?, if_neg hsolid]
  exact (takenBack_strings m).read?_write

theorem matchers?_setMatchers (s : SoapStub) (matchers : List XPathMatcher) :
    (s.setMatchers matchers).matchers? = some matchers := by
  have hsolid : ¬ allBlank (s.setMatchers matchers).xpathMatchers = true :=
    not_allBlank_compact_arr _
  rw [matchers?, if_neg hsolid]
  exact (takenBack_matchers matchers).read?_write

theorem readTable_namespacesText {s : SoapStub} {m : SortedMap String} {text : String}
    (h : readTable text = .ok m) : readTable (s.setNamespaces m).namespacesText = .ok m := by
  simp only [namespacesText, namespaces?_setNamespaces]
  exact readTable_writePairs h

theorem readXPathMatchers_matchersText {s : SoapStub} {matchers : List XPathMatcher}
    {text : String} (h : readXPathMatchers text = .ok matchers) :
    readXPathMatchers (s.setMatchers matchers).matchersText = .ok matchers := by
  simp only [matchersText, matchers?_setMatchers]
  exact rowForm_matcher.readRows_again h

end SoapStub

end Tables

/-! ## The fields of each kind -/

namespace RequestPattern

theorem urlMatch?_withUrl (p : RequestPattern) (kind : UrlKind) (value : String) :
    (p.withUrl kind value).urlMatch? = some (kind, value) := by
  cases kind <;> rfl

theorem urlKind_withUrl (p : RequestPattern) (kind : UrlKind) (value : String) :
    (p.withUrl kind value).urlKind = kind := by
  rw [urlKind, urlMatch?_withUrl]
  rfl

theorem urlValue_withUrl (p : RequestPattern) (kind : UrlKind) (value : String) :
    (p.withUrl kind value).urlValue = value := by
  rw [urlValue, urlMatch?_withUrl]
  rfl

theorem urlKind_setUrlValue (p : RequestPattern) (value : String) :
    (p.setUrlValue value).urlKind = p.urlKind :=
  p.urlKind_withUrl p.urlKind value

theorem urlValue_setUrlValue (p : RequestPattern) (value : String) :
    (p.setUrlValue value).urlValue = value :=
  p.urlValue_withUrl p.urlKind value

/-- The kind of address stays, so the value goes where it is already. -/
theorem setUrlValue_setUrlValue (p : RequestPattern) (value : String) :
    (p.setUrlValue value).setUrlValue value = p.setUrlValue value := by
  rw [setUrlValue, urlKind_setUrlValue]
  rfl

end RequestPattern

namespace Stub

variable {s t : Stub} {text : String}

theorem scenarioName_setScenarioName (s : Stub) (name : String) :
    (s.setScenarioName name).scenarioName = name := by
  by_cases hname : name = ""
  · subst hname
    rfl
  · cases hscenario : s.scenario <;> simp [setScenarioName, scenarioName, hname, hscenario]

theorem setScenarioName_setScenarioName (s : Stub) (name : String) :
    (s.setScenarioName name).setScenarioName name = s.setScenarioName name := by
  by_cases hname : name = ""
  · subst hname
    rfl
  · cases hscenario : s.scenario <;> simp [setScenarioName, hname, hscenario]

/-- A status of zero is one that was left unset. -/
theorem optionalNat_status {status : Option Nat}
    (h : optionalNumber (natUpTo? 65535) .badStatus text = .ok status) :
    ∃ again, optionalNumber (natUpTo? 65535) .badStatus
        (if status.getD 0 = 0 then "" else Text.ofNat (status.getD 0)) = .ok again
      ∧ again.getD 0 = status.getD 0 := by
  by_cases hzero : status.getD 0 = 0
  · rw [if_pos hzero, hzero]
    exact ⟨none, rfl, rfl⟩
  · rw [if_neg hzero]
    cases status with
    | none => exact absurd rfl hzero
    | some n =>
        have hagain := optionalNat_natText h
        exact ⟨some n, hagain, rfl⟩

theorem setField_fieldValue {field : RestField} (h : s.setField field text = .ok t)
    (htext : field.kind.isText = true)
    (hwhole : field = .metadata → ∀ doc, Json.parse? text = some doc → doc.isWhole = true) :
    t.setField field (t.fieldValue field) = .ok t := by
  cases field with
  | method | urlKind | fault | persistent | enabled => cases htext
  | urlValue =>
      cases h
      simp only [fieldValue, setField, RequestPattern.urlValue_setUrlValue, trim_trim,
        RequestPattern.setUrlValue_setUrlValue]
      rfl
  | requestHeaders =>
      rcases exists_of_bind_eq_ok h with ⟨rules, hrules, hstored⟩
      cases hstored
      exact bind_eq_ok_of (replacePlainRows_plainRows hrules) rfl
  | queryParams =>
      rcases exists_of_bind_eq_ok h with ⟨rules, hrules, hstored⟩
      cases hstored
      exact bind_eq_ok_of (replacePlainRows_plainRows hrules) rfl
  | bodyPatterns =>
      rcases exists_of_bind_eq_ok h with ⟨matchers, hmatchers, hstored⟩
      cases hstored
      have hagain : readBodyMatchers (writeBodyMatchers matchers) = .ok matchers :=
        rowForm_body.readRows_again hmatchers
      exact bind_eq_ok_of hagain rfl
  | status =>
      rcases exists_of_bind_eq_ok h with ⟨status, hstatus, hstored⟩
      cases hstored
      rcases optionalNat_status hstatus with ⟨again, hagain, hsame⟩
      refine bind_eq_ok_of hagain ?_
      rw [hsame]
      rfl
  | responseHeaders =>
      rcases exists_of_bind_eq_ok h with ⟨headers, hheaders, hstored⟩
      cases hstored
      exact bind_eq_ok_of (readTable_writePairs hheaders) rfl
  | body =>
      cases h
      by_cases hempty : text = "" <;> simp [setField, fieldValue, hempty, pure, Except.pure]
  | delay =>
      rcases exists_of_bind_eq_ok h with ⟨delay, hdelay, hstored⟩
      cases hstored
      exact bind_eq_ok_of (optionalNat_natText hdelay) rfl
  | scenarioName =>
      obtain rfl := Except.ok.inj h
      simp only [fieldValue, setField, scenarioName_setScenarioName, trim_trim,
        setScenarioName_setScenarioName]
      rfl
  | requiredState | newState =>
      cases h
      simp only [setField, fieldValue, optionalText_getD]
      rfl
  | name =>
      cases h
      simp only [setField, fieldValue, trim_trim]
      rfl
  | priority =>
      rcases exists_of_bind_eq_ok h with ⟨priority, hpriority, hstored⟩
      cases hstored
      exact bind_eq_ok_of (readPriority_intText hpriority) rfl
  | metadata =>
      rcases exists_of_bind_eq_ok h with ⟨metadata, hmetadata, hstored⟩
      cases hstored
      exact bind_eq_ok_of (readMetadata_writeMetadata hmetadata (hwhole rfl)) rfl

end Stub

namespace GraphQlStub

variable {s t : GraphQlStub} {text : String}

theorem setField_fieldValue {field : GraphQlField} (h : s.setField field text = .ok t)
    (htext : field.kind.isText = true)
    (hwhole : field = .metadata → ∀ doc, Json.parse? text = some doc → doc.isWhole = true) :
    t.setField field (t.fieldValue field) = .ok t := by
  cases field with
  | persistent | enabled => cases htext
  | operationName | name =>
      cases h
      simp only [setField, fieldValue, trim_trim]
      rfl
  | query | response =>
      cases h
      rfl
  | bindings =>
      cases h
      cases hblank : allBlank text with
      | true => rfl
      | false =>
          simp only [setField, fieldValue, hblank, Bool.false_eq_true, if_false, Option.getD_some]
          rfl
  | scenarioName =>
      obtain rfl := Except.ok.inj h
      cases hname : optionalText text with
      | none => rfl
      | some name =>
          simp only [setField, fieldValue, setScenarioName, Option.getD_some,
            optionalText_of_eq_some hname]
          rfl
  | requiredState | newState =>
      cases h
      simp only [setField, fieldValue, optionalText_getD]
      rfl
  | priority =>
      rcases exists_of_bind_eq_ok h with ⟨priority, hpriority, hstored⟩
      cases hstored
      exact bind_eq_ok_of (readPriority_intText hpriority) rfl
  | metadata =>
      rcases exists_of_bind_eq_ok h with ⟨metadata, hmetadata, hstored⟩
      cases hstored
      exact bind_eq_ok_of (readMetadata_writeMetadata hmetadata (hwhole rfl)) rfl

end GraphQlStub

namespace SoapStub

variable {s t : SoapStub} {text : String}

theorem setScenarioName_shown (s : SoapStub) (text : String) :
    (s.setScenarioName (optionalText text)).setField .scenarioName
        ((s.setScenarioName (optionalText text)).fieldValue .scenarioName)
      = .ok (s.setScenarioName (optionalText text)) := by
  cases hname : optionalText text with
  | none => rfl
  | some name =>
      have hagain := optionalText_of_eq_some hname
      cases hscenario : s.scenario <;>
        simp [setField, fieldValue, setScenarioName, hscenario, hagain, pure, Except.pure]

/-- Without a scenario there is no state, shown or stored. -/
theorem setScenarioState_shown (h : s.setScenarioState text = .ok t) :
    t.setScenarioState (t.fieldValue .scenarioState) = .ok t := by
  unfold setScenarioState at h
  split at h
  next scenario hscenario =>
    cases h
    simp only [setScenarioState, fieldValue, Option.bind_some, optionalText_getD]
  next hscenario =>
    split at h
    · cases h
      simp only [setScenarioState, fieldValue, hscenario]
      rfl
    · cases h

theorem setField_fieldValue {field : SoapField} (h : s.setField field text = .ok t)
    (htext : field.kind.isText = true)
    (hwhole : field = .metadata → ∀ doc, Json.parse? text = some doc → doc.isWhole = true) :
    t.setField field (t.fieldValue field) = .ok t := by
  cases field with
  | version | persistent | enabled => cases htext
  | soapAction | name =>
      cases h
      simp only [setField, fieldValue, trim_trim]
      rfl
  | wsdlUrl =>
      cases h
      simp only [setField, fieldValue, optionalText_getD]
      rfl
  | requestXml | responseXml =>
      cases h
      rfl
  | namespaces =>
      rcases exists_of_bind_eq_ok h with ⟨table, htable, hstored⟩
      cases hstored
      exact bind_eq_ok_of (readTable_namespacesText htable) rfl
  | xPathMatchers =>
      rcases exists_of_bind_eq_ok h with ⟨matchers, hmatchers, hstored⟩
      cases hstored
      exact bind_eq_ok_of (readXPathMatchers_matchersText hmatchers) rfl
  | scenarioName =>
      obtain rfl := Except.ok.inj h
      exact setScenarioName_shown s text
  | scenarioState => exact setScenarioState_shown h
  | priority =>
      rcases exists_of_bind_eq_ok h with ⟨priority, hpriority, hstored⟩
      cases hstored
      exact bind_eq_ok_of (readPriority_intText hpriority) rfl
  | metadata =>
      rcases exists_of_bind_eq_ok h with ⟨metadata, hmetadata, hstored⟩
      cases hstored
      exact bind_eq_ok_of (readMetadata_writeMetadata hmetadata (hwhole rfl)) rfl

end SoapStub

/-! ## All kinds -/

namespace StubKind

/-- The field for metadata. -/
def metadataField : (kind : StubKind) → kind.Field
  | .rest => RestField.metadata
  | .graphQl => GraphQlField.metadata
  | .soap => SoapField.metadata

/-- Storing once is as good as opening the field and storing again, whatever stood in the stub and
in whatever form the text was typed.  Fractions in metadata are left out, since reading one may
round twice. -/
theorem setValue_value (kind : StubKind) (v w : kind.Item) (field : kind.Field) (text : String)
    (htext : (Form.kind kind.Item field).isText = true)
    (hstored : Form.setValue v field text = .ok w)
    (hwhole : field = kind.metadataField →
      ∀ doc, Json.parse? text = some doc → doc.isWhole = true) :
    Form.setValue w field (Form.value w field) = .ok w := by
  cases kind with
  | rest => exact Stub.setField_fieldValue hstored htext hwhole
  | graphQl => exact GraphQlStub.setField_fieldValue hstored htext hwhole
  | soap => exact SoapStub.setField_fieldValue hstored htext hwhole

/-- A stub with a header that has to contain a text, which is no row. -/
def besideRule : Stub :=
  { Stub.fresh with
    request.headers :=
      ⟨[("Accept", { MatchRule.none with contains := some "json" }), ("Host", .ofValue "a")],
        by decide⟩ }

/-- A blank row, blanks around the parts, a second separator, one name twice, and no value. -/
def looseRows : String := " B = c=d \n\nB=e\n Zone=\n"

theorem setValue_value_looseRows :
    ∃ w : Stub, Form.setValue besideRule RestField.requestHeaders looseRows = .ok w ∧
      Form.value w RestField.requestHeaders = "B=e\nZone=" ∧
      w.request.headers.keys = ["Accept", "B", "Zone"] ∧
      Form.setValue w RestField.requestHeaders (Form.value w RestField.requestHeaders)
        = .ok w := by
  have hshown : ((besideRule.setField .requestHeaders looseRows).toOption.map fun w =>
      (w.fieldValue .requestHeaders, w.request.headers.keys))
      = some ("B=e\nZone=", ["Accept", "B", "Zone"]) := by decide +kernel
  cases hstored : besideRule.setField .requestHeaders looseRows with
  | error fault =>
      rw [hstored] at hshown
      cases hshown
  | ok w =>
      rw [hstored] at hshown
      rcases Prod.mk.inj (Option.some.inj hshown) with ⟨hvalue, hkeys⟩
      exact ⟨w, hstored, hvalue, hkeys, setValue_value .rest besideRule w RestField.requestHeaders
        looseRows rfl hstored fun hfield => nomatch hfield⟩

end StubKind

end StubConsole
