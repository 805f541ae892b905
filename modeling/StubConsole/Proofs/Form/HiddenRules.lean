import StubConsole.Proofs.Form.Apart

/-!
# HiddenRules — rules that a form does not show

A rule for a header or a query parameter is a row if it has a plain value.  All other rules are
hidden: the form names them in a hint and leaves them to the document.  They share the table with
the rows, so a row that is typed under the name of a hidden rule takes its place, and this is the
one way in which the form loses a hidden rule.

* `Stub.rowsStored_setField` — one edit of the rows;
* `Stub.NamesRow` — the rows among any edits of any fields;
* `Stub.mem_rules_edited_iff`, `Stub.mem_rules_editedBy_iff` — one edit and any number of them;
* `Stub.hidden_rules_iff` — when the hidden rules survive.
-/

namespace StubConsole

open Json (exists_of_bind_eq_ok)
open Rows Text
open StubKind (edited editedBy edited_eq edited_eq_self)

namespace Stub

variable {s t : Stub} {field other : RestField} {text name : String}
variable {e : String × MatchRule}

/-- The fields whose rows are rules. -/
def ruleFields : List RestField := [.requestHeaders, .queryParams]

theorem mem_ruleFields_of_mem_rules (h : e ∈ s.rules field) : field ∈ ruleFields := by
  cases field with
  | requestHeaders | queryParams => decide
  | _ => cases h

/-! ## Rows stored -/

theorem rowsStored_setField (hfield : field ∈ ruleFields) (h : s.setField field text = .ok t) :
    ∃ rows, readPairs text = .ok rows ∧ RowsStored (s.rules field) (t.rules field) rows := by
  simp only [ruleFields, List.mem_cons, List.not_mem_nil, or_false] at hfield
  rcases hfield with rfl | rfl
  all_goals
    rcases exists_of_bind_eq_ok h with ⟨after, hafter, hstored⟩
    cases hstored
    exact rowsStored_of_replacePlainRows hafter

theorem exists_setField_of_rows {rows : List (String × String)} (s : Stub)
    (hfield : field ∈ ruleFields) (hrows : readPairs text = .ok rows) :
    ∃ t, s.setField field text = .ok t := by
  have hread (rules : SortedMap MatchRule) : ∃ after, replacePlainRows rules text = .ok after := by
    rw [replacePlainRows, hrows]
    exact ⟨_, rfl⟩
  simp only [ruleFields, List.mem_cons, List.not_mem_nil, or_false] at hfield
  rcases hfield with rfl | rfl
  · rcases hread s.request.headers with ⟨after, hafter⟩
    exact ⟨_, Json.bind_eq_ok_of hafter rfl⟩
  · rcases hread s.request.queryParameters with ⟨after, hafter⟩
    exact ⟨_, Json.bind_eq_ok_of hafter rfl⟩

/-! ## Other edits -/

theorem rules_setField_of_ne (h : s.setField field text = .ok t) (hne : other ≠ field) :
    t.rules other = s.rules other := by
  by_cases hleaves : field = .scenarioName ∧ allBlank text = true
  · rcases hleaves with ⟨rfl, hblank⟩
    rw [setField_eq_withoutScenario h hblank]
    cases other <;> rfl
  · have hframe := setField_eq_withFieldOf h fun hfield hblank => hleaves ⟨hfield, hblank⟩
    exact (congrArg (·.rules other) hframe).trans (rules_withFieldOf s t hne)

theorem rules_cycleField (s : Stub) (field other : RestField) :
    (s.cycleField field).rules other = s.rules other := by
  cases field <;> cases other <;> rfl

/-! ## Any edit -/

/-- The rows that are typed, none if the text is refused. -/
def typedRows (edit : StubKind.Edit .rest) : List (String × String) :=
  (edit.2.bind fun text => (readPairs text).toOption).getD []

/-- A row under the name is typed into the field. -/
def NamesRow (field : RestField) (name : String) (edit : StubKind.Edit .rest) : Prop :=
  edit.1 = field ∧ ∃ row ∈ typedRows edit, row.1 = name

instance (field : RestField) (name : String) (edit : StubKind.Edit .rest) :
    Decidable (NamesRow field name edit) :=
  inferInstanceAs (Decidable (_ ∧ _))

theorem rules_edited_of_ne (s : Stub) {edit : StubKind.Edit .rest} (hne : other ≠ edit.1) :
    (@edited .rest s edit).rules other = s.rules other := by
  rcases edit with ⟨field, typed⟩
  cases typed with
  | none => exact rules_cycleField s field other
  | some text =>
      cases hstored : s.setField field text with
      | error fault => rw [edited_eq_self hstored]
      | ok t =>
          rw [edited_eq hstored]
          exact rules_setField_of_ne hstored hne

theorem typedRows_eq {rows : List (String × String)} (h : readPairs text = .ok rows) :
    typedRows (field, some text) = rows := by
  simp [typedRows, h, Except.toOption]

/-- A text that is refused holds no rows. -/
theorem typedRows_eq_nil {fault : FieldError} (hfield : field ∈ ruleFields)
    (h : s.setField field text = .error fault) : typedRows (field, some text) = [] := by
  cases hrows : readPairs text with
  | error fault => simp [typedRows, hrows, Except.toOption]
  | ok rows =>
      rcases exists_setField_of_rows s hfield hrows with ⟨t, hok⟩
      rw [h] at hok
      cases hok

/-- A hidden rule is lost just by a row under its name. -/
theorem mem_rules_edited_iff (edit : StubKind.Edit .rest) (he : e ∈ s.rules field)
    (hhidden : e.2.equalTo = none) :
    e ∈ (@edited .rest s edit).rules field ↔ ¬ NamesRow field e.1 edit := by
  rcases edit with ⟨target, typed⟩
  by_cases htarget : target = field
  · subst htarget
    have hrules := mem_ruleFields_of_mem_rules he
    cases typed with
    | none =>
        have hstays : e ∈ (s.cycleField target).rules target := by rwa [rules_cycleField]
        exact iff_of_true hstays fun ⟨_, _, hrow, _⟩ => nomatch hrow
    | some text =>
        cases hstored : s.setField target text with
        | error fault =>
            have hnone := typedRows_eq_nil hrules hstored
            rw [edited_eq_self hstored]
            exact iff_of_true he (by simp [NamesRow, hnone])
        | ok t =>
            rcases rowsStored_setField hrules hstored with ⟨rows, hrows, hrowsStored⟩
            have htyped : typedRows (target, some text) = rows := typedRows_eq hrows
            rw [edited_eq hstored, hrowsStored.hidden e he hhidden]
            simp only [NamesRow, htyped, true_and, not_exists, not_and, ne_eq]
  · rw [rules_edited_of_ne s (Ne.symm htarget)]
    exact iff_of_true he fun hnames => htarget hnames.1

/-- No edit brings a hidden rule in. -/
theorem mem_rules_of_edited {edit : StubKind.Edit .rest} (hhidden : e.2.equalTo = none)
    (h : e ∈ (@edited .rest s edit).rules field) : e ∈ s.rules field := by
  rcases edit with ⟨target, typed⟩
  by_cases htarget : target = field
  · subst htarget
    cases typed with
    | none => rwa [← rules_cycleField s target target]
    | some text =>
        cases hstored : s.setField target text with
        | error fault => rwa [edited_eq_self hstored] at h
        | ok t =>
            rw [edited_eq hstored] at h
            rcases rowsStored_setField (mem_ruleFields_of_mem_rules h) hstored with
              ⟨rows, -, hrowsStored⟩
            rcases hrowsStored.nothingElse e h with ⟨hold, -⟩ | ⟨row, -, rfl⟩
            · exact hold
            · cases hhidden
  · rwa [rules_edited_of_ne s (Ne.symm htarget)] at h

theorem mem_rules_of_editedBy {edits : List (StubKind.Edit .rest)} (hhidden : e.2.equalTo = none)
    (h : e ∈ (@editedBy .rest s edits).rules field) : e ∈ s.rules field := by
  induction edits generalizing s with
  | nil => exact h
  | cons edit rest ih => exact mem_rules_of_edited hhidden (ih h)

theorem mem_rules_editedBy_iff (edits : List (StubKind.Edit .rest)) (he : e ∈ s.rules field)
    (hhidden : e.2.equalTo = none) :
    e ∈ (@editedBy .rest s edits).rules field ↔ ∀ edit ∈ edits, ¬ NamesRow field e.1 edit := by
  -- a rule that is there stays or goes with the first edit, and one that is gone is never put back
  induction edits generalizing s with
  | nil => simpa [editedBy] using he
  | cons edit rest ih =>
      have hfirst := mem_rules_edited_iff edit he hhidden
      rw [List.forall_mem_cons]
      by_cases hnames : NamesRow field e.1 edit
      · refine iff_of_false ?_ fun h => h.1 hnames
        intro hlast
        exact hfirst.1 (mem_rules_of_editedBy hhidden hlast) hnames
      · rw [and_iff_right hnames]
        exact ih (hfirst.2 hnames)

/-- Hidden rules survive an edit of the rows as they are, and any number of edits of any fields,
just as long as no row is stored under their name.  Whatever else is in the table then is the plain
rule of a row. -/
theorem hidden_rules_iff (s : Stub) (field : RestField) (hfield : field ∈ ruleFields) :
    (∀ text t, Form.setValue s field text = .ok t →
      ∃ rows, readPairs text = .ok rows ∧ RowsStored (s.rules field) (t.rules field) rows) ∧
    ∀ (edits : List (StubKind.Edit .rest)), ∀ e ∈ s.rules field, e.2.equalTo = none →
      (e ∈ (@editedBy .rest s edits).rules field ↔ ∀ edit ∈ edits, ¬ NamesRow field e.1 edit) :=
  ⟨fun _ _ h => rowsStored_setField hfield h,
    fun edits _ he hhidden => mem_rules_editedBy_iff edits he hhidden⟩

def traceRule : String × MatchRule :=
  ("X-Trace", { MatchRule.none with matchesRegex := some "[a-z]+" })

/-- A stub with a hidden rule beside a row. -/
def traced : Stub :=
  { Stub.fresh with request.headers := ⟨[("Accept", .ofValue "text/xml"), traceRule], by decide⟩ }

/-- The row is replaced, its name is typed into the other table, and a text is refused. -/
def besideTrace : List (StubKind.Edit .rest) :=
  [(.requestHeaders, some "Host = a\n"), (.queryParams, some "X-Trace=1"), (.urlKind, none),
    (.requestHeaders, some "X-Trace")]

theorem hidden_rules_iff_traced :
    RestField.requestHeaders ∈ ruleFields ∧
    traceRule ∈ (@editedBy .rest traced besideTrace).rules .requestHeaders ∧
    traceRule ∉ (@editedBy .rest traced
      (besideTrace ++ [(.requestHeaders, some " X-Trace = 1")])).rules
      .requestHeaders := by
  have hfield : RestField.requestHeaders ∈ ruleFields := by decide
  have hedits := (hidden_rules_iff traced .requestHeaders hfield).2
  refine ⟨hfield, (hedits besideTrace traceRule (by decide) rfl).2 (by decide +kernel), ?_⟩
  intro hstays
  exact (hedits _ traceRule (by decide) rfl).1 hstays (.requestHeaders, some " X-Trace = 1")
    (by decide) (by decide +kernel)

/-- A row that is typed under the name of a hidden rule takes its place. -/
theorem hidden_rule_displaced :
    traceRule ∈ traced.rules .requestHeaders ∧ traceRule.2.equalTo = none ∧
    ∃ t, Form.setValue traced RestField.requestHeaders "X-Trace=abc" = .ok t ∧
      t.rules .requestHeaders = [("X-Trace", .ofValue "abc")] := by
  have hshown : ((traced.setField .requestHeaders "X-Trace=abc").toOption.map
      (·.rules .requestHeaders)) = some [("X-Trace", .ofValue "abc")] := by decide +kernel
  exact ⟨by decide, rfl, exists_ok_of_map hshown⟩

end Stub

end StubConsole
