import Mathlib.Data.List.Induction
import StubConsole.Proofs.Form.Apart

/-!
# ScenarioStates — states without a scenario

The states that a stub needs and leads to are states of its scenario.  A stub that leaves its
scenario loses them, and a SOAP stub without a scenario takes none.  The other two kinds take a
state at any time, so one that is typed before a scenario is named, or after it was left, belongs
to no scenario.

* `StubKind.scenarioOf_edited`, `StubKind.state?_edited` — what one edit makes of the name and of
  a state;
* `SoapStub.named_edited` — the scenario of a SOAP stub has a name;
* `StubKind.stray_states_iff` — which edits lead to a state without a scenario.
-/

namespace StubConsole

open Json (exists_of_bind_eq_ok)
open Rows Text

namespace StubKind

variable {kind : StubKind} {v w : kind.Item} {field state : kind.Field} {text : String}

/-! ## What is typed -/

variable {e : kind.Edit}

/-- A text is typed into the field. -/
def Types (field : kind.Field) (e : kind.Edit) : Prop := e.1 = field ∧ e.2 ≠ none

theorem exists_of_types (h : Types field e) : ∃ text, e = (field, some text) := by
  rcases e with ⟨target, typed⟩
  rcases h with ⟨rfl, htyped⟩
  rcases Option.ne_none_iff_exists'.1 htyped with ⟨text, rfl⟩
  exact ⟨text, rfl⟩

/-! ## The name of the scenario -/

/-- The name of the scenario as the form shows it; the empty text says that there is none. -/
def scenarioOf (v : kind.Item) : String := Form.value v kind.scenarioField

theorem scenarioField_notMem_stateFields : kind.scenarioField ∉ kind.stateFields := by
  cases kind <;> decide

theorem isText_scenarioField : (Form.kind kind.Item kind.scenarioField).isText = true := by
  cases kind <;> rfl

theorem optionalText_shown (text : String) : (optionalText text).getD "" = trim text := by
  cases hblank : allBlank text with
  | true =>
      have hname : optionalText text = none := if_pos hblank
      rw [hname, Stub.trim_eq_empty_iff.2 hblank]
      rfl
  | false =>
      have hname : optionalText text = some (trim text) := if_neg (by simp [hblank])
      rw [hname]
      rfl

theorem exists_setValue_scenarioField (v : kind.Item) (text : String) :
    ∃ w, Form.setValue v kind.scenarioField text = .ok w ∧ scenarioOf w = trim text := by
  cases kind with
  | rest => exact ⟨_, rfl, Stub.scenarioName_setScenarioName v (trim text)⟩
  | graphQl =>
      refine ⟨_, rfl, Eq.trans ?_ (optionalText_shown text)⟩
      cases optionalText text <;> rfl
  | soap =>
      refine ⟨_, rfl, Eq.trans ?_ (optionalText_shown text)⟩
      cases optionalText text <;> cases hscenario : SoapStub.scenario v <;>
        simp [scenarioOf, scenarioField, SoapStub.setScenarioName, hscenario] <;> rfl

theorem scenarioOf_edited_name (v : kind.Item) (text : String) :
    scenarioOf (edited v (kind.scenarioField, some text)) = trim text := by
  rcases exists_setValue_scenarioField v text with ⟨w, hw, hname⟩
  rw [edited_eq hw, hname]

theorem scenarioOf_edited (v : kind.Item) (h : ¬ Types kind.scenarioField e) :
    scenarioOf (edited v e) = scenarioOf v := by
  rcases edited_cases v e with hsame | ⟨w, hw, heq, apart⟩
  · rw [hsame]
  rw [heq]
  by_cases hfield : e.1 = kind.scenarioField
  · have hnone : e.2 = none := by
      by_contra htyped
      exact h ⟨hfield, htyped⟩
    -- a step in a text field does nothing
    rw [hfield, hnone, edit, cycle_of_isText isText_scenarioField] at hw
    rw [Except.ok.inj hw]
  · exact apart.values _ (Ne.symm hfield) fun _ => scenarioField_notMem_stateFields

/-! ## States -/

/-- The state that a field holds. -/
def state? : (kind : StubKind) → kind.Item → kind.Field → Option String
  | .rest, s, RestField.requiredState => Stub.requiredScenarioState s
  | .rest, s, RestField.newState => Stub.newScenarioState s
  | .graphQl, s, GraphQlField.requiredState => GraphQlStub.requiredScenarioState s
  | .graphQl, s, GraphQlField.newState => GraphQlStub.newScenarioState s
  | .soap, s, SoapField.scenarioState => (SoapStub.scenario s).bind (·.state)
  | .rest, _, _ | .graphQl, _, _ | .soap, _, _ => none

/-- A stub carries a state, or a SOAP stub the scenario that would have one. -/
def CarriesState : (kind : StubKind) → kind.Item → Prop
  | .soap, s => SoapStub.scenario s ≠ none
  | .rest, s => Stub.requiredScenarioState s ≠ none ∨ Stub.newScenarioState s ≠ none
  | .graphQl, s =>
      GraphQlStub.requiredScenarioState s ≠ none ∨ GraphQlStub.newScenarioState s ≠ none

theorem carriesState_iff (hkind : kind ≠ .soap) :
    kind.CarriesState v ↔ ∃ state ∈ kind.stateFields, kind.state? v state ≠ none := by
  cases kind with
  | rest | graphQl => simp [CarriesState, stateFields, state?]
  | soap => exact absurd rfl hkind

theorem state?_withFieldOf (hkind : kind ≠ .soap) (v w : kind.Item) (hne : state ≠ field) :
    kind.state? (kind.withFieldOf v w field) state = kind.state? v state := by
  cases kind with
  | rest | graphQl =>
      cases field <;> cases state <;> first
        | rfl
        | exact absurd rfl hne
  | soap => exact absurd rfl hkind

theorem state?_withoutScenario (v : kind.Item) (state : kind.Field) :
    kind.state? (kind.withoutScenario v) state = none := by
  cases kind <;> cases state <;> rfl

/-- These kinds take a state at any time. -/
theorem state?_edited_state (hkind : kind ≠ .soap) (hstate : state ∈ kind.stateFields)
    (v : kind.Item) (text : String) :
    kind.state? (edited v (state, some text)) state = optionalText text := by
  cases kind with
  | rest | graphQl =>
      simp only [stateFields, List.mem_cons, List.not_mem_nil, or_false] at hstate
      rcases hstate with rfl | rfl
      all_goals rfl
  | soap => exact absurd rfl hkind

theorem state?_edited_blank (v : kind.Item) (hblank : allBlank text = true) (state : kind.Field) :
    kind.state? (edited v (kind.scenarioField, some text)) state = none := by
  rcases exists_setValue_scenarioField v text with ⟨w, hw, -⟩
  rw [edited_eq hw, setValue_eq_withoutScenario hw hblank, state?_withoutScenario]

theorem state?_edited (hkind : kind ≠ .soap) (hstate : state ∈ kind.stateFields) (v : kind.Item)
    (h : ¬ Types state e) (hname : ¬ Types kind.scenarioField e) :
    kind.state? (edited v e) state = kind.state? v state := by
  rcases edited_cases v e with hsame | ⟨w, hw, heq, apart⟩
  · rw [hsame]
  rw [heq]
  rcases apart.rest with rfl | hframe | ⟨⟨hfield, text, htext, -⟩, -⟩
  · rfl
  · by_cases hfield : state = e.1
    · have hnone : e.2 = none := by
        by_contra htyped
        exact h ⟨hfield.symm, htyped⟩
      have htext : (Form.kind kind.Item state).isText = true := by
        cases kind <;> revert hstate <;> cases state <;> decide
      rw [← hfield, hnone, edit, cycle_of_isText htext] at hw
      rw [Except.ok.inj hw]
    · rw [hframe, state?_withFieldOf hkind v w hfield]
  · -- the name was blank
    refine absurd ⟨hfield, ?_⟩ hname
    rw [htext]
    exact Option.some_ne_none text

end StubKind

/-! ## SOAP stubs -/

namespace SoapStub

/-- The scenario of the stub, if it has one, has a name. -/
def Named (s : SoapStub) : Prop := ∀ r ∈ s.scenario, r.name ≠ ""

theorem named_setScenarioName (s : SoapStub) (text : String) :
    (s.setScenarioName (optionalText text)).Named := by
  cases hblank : allBlank text with
  | true =>
      have hname : optionalText text = none := if_pos hblank
      rw [hname]
      exact fun _ hr => nomatch hr
  | false =>
      have hname : optionalText text = some (trim text) := if_neg (by simp [hblank])
      have hsome : trim text ≠ "" := by simp [Stub.trim_eq_empty_iff, hblank]
      rw [hname]
      cases hscenario : s.scenario <;> simp [Named, setScenarioName, hscenario, hsome]

theorem named_edited {s : SoapStub} (h : s.Named) (e : StubKind.Edit .soap) :
    Named (StubKind.edited s e) := by
  rcases StubKind.edited_cases s e with hsame | ⟨t, hstored, heq, apart⟩
  · rwa [hsame]
  rw [heq]
  rcases apart.rest with rfl | hframe | ⟨-, hleft⟩
  · exact h
  · rcases e with ⟨field, typed⟩
    cases field with
    | scenarioName =>
        cases typed with
        | none =>
            cases hstored
            exact h
        | some text =>
            cases hstored
            exact named_setScenarioName s text
    | scenarioState =>
        rw [hframe]
        intro r hr
        rcases Option.map_eq_some_iff.1 hr with ⟨old, hold, rfl⟩
        exact h old hold
    | _ =>
        rw [hframe]
        exact h
  · rw [hleft]
    exact fun _ hr => nomatch hr

theorem named_editedBy {s : SoapStub} (h : s.Named) (edits : List (StubKind.Edit .soap)) :
    Named (StubKind.editedBy s edits) := by
  induction edits generalizing s with
  | nil => exact h
  | cons e rest ih => exact ih (named_edited h e)

/-- A SOAP stub that shows no scenario has none. -/
theorem scenario_eq_none {s : SoapStub} (h : s.Named) (hname : s.fieldValue .scenarioName = "") :
    s.scenario = none := by
  cases hscenario : s.scenario with
  | none => rfl
  | some r =>
      have hshown : s.fieldValue .scenarioName = r.name := by simp [fieldValue, hscenario]
      exact absurd (hshown.symm.trans hname) (h r hscenario)

end SoapStub

/-! ## Which edits lead to a stray state -/

namespace StubKind

section Stray

variable {kind : StubKind} {v : kind.Item} {state : kind.Field} {edits : List kind.Edit}
variable {e : kind.Edit}

/-- A text is typed into the field for a state while the stub shows no scenario, and neither
another text for the state nor a name is typed behind it. -/
def StrayTyped (v : kind.Item) (state : kind.Field) (edits : List kind.Edit) : Prop :=
  ∃ before text after, edits = before ++ (state, some text) :: after ∧ allBlank text = false ∧
    scenarioOf (editedBy v before) = "" ∧
    ∀ e ∈ after, ¬ Types state e ∧ ¬ Types kind.scenarioField e

/-- The last edit is the one that typed the state, or it does not matter. -/
theorem strayTyped_concat_iff : StrayTyped v state (edits ++ [e]) ↔
    (∃ text, e = (state, some text) ∧ allBlank text = false ∧ scenarioOf (editedBy v edits) = "") ∨
      (¬ Types state e ∧ ¬ Types kind.scenarioField e ∧ StrayTyped v state edits) := by
  constructor
  · rintro ⟨before, text, after, hedits, hblank, hname, hafter⟩
    rcases List.eq_nil_or_concat' after with rfl | ⟨after, last, rfl⟩
    · obtain ⟨rfl, hlast⟩ := List.append_inj' hedits rfl
      exact .inl ⟨text, List.singleton_injective hlast, hblank, hname⟩
    · rw [← List.cons_append, ← List.append_assoc] at hedits
      obtain ⟨rfl, hlast⟩ := List.append_inj' hedits rfl
      obtain rfl := List.singleton_injective hlast
      have hlater := hafter e (by simp)
      exact .inr ⟨hlater.1, hlater.2, before, text, after, rfl, hblank, hname,
        fun x hx => hafter x (by simp [hx])⟩
  · rintro (⟨text, rfl, hblank, hname⟩ | ⟨hstate, hscenario, before, text, after, rfl, hblank,
      hname, hafter⟩)
    · exact ⟨edits, text, [], rfl, hblank, hname, fun _ he => nomatch he⟩
    · refine ⟨before, text, after ++ [e], by simp, hblank, hname, ?_⟩
      intro x hx
      rcases List.mem_append.1 hx with hx | hx
      · exact hafter x hx
      · rw [List.mem_singleton.1 hx]
        exact ⟨hstate, hscenario⟩

theorem strayTyped_iff (hkind : kind ≠ .soap) (hstate : state ∈ kind.stateFields)
    (hnone : kind.state? v state = none) (edits : List kind.Edit) :
    (scenarioOf (editedBy v edits) = "" ∧ kind.state? (editedBy v edits) state ≠ none)
      ↔ StrayTyped v state edits := by
  have hother : state ≠ kind.scenarioField := fun heq =>
    scenarioField_notMem_stateFields (heq ▸ hstate)
  -- from the last edit, which a name or a state typed behind another one undoes
  induction edits using List.reverseRecOn with
  | nil =>
      refine iff_of_false (fun h => h.2 hnone) ?_
      rintro ⟨before, text, after, hedits, -⟩
      simp at hedits
  | append_singleton edits e ih =>
      rw [editedBy_concat, strayTyped_concat_iff]
      by_cases hname : Types kind.scenarioField e
      · rcases exists_of_types hname with ⟨text, rfl⟩
        refine iff_of_false ?_ ?_
        · rintro ⟨hunnamed, hleft⟩
          rw [scenarioOf_edited_name, Stub.trim_eq_empty_iff] at hunnamed
          exact hleft (state?_edited_blank _ hunnamed state)
        · rintro (⟨typed, heq, -⟩ | ⟨-, hno, -⟩)
          · exact hother (congrArg Prod.fst heq).symm
          · exact hno hname
      rw [scenarioOf_edited _ hname]
      by_cases htyped : Types state e
      · rcases exists_of_types htyped with ⟨text, rfl⟩
        rw [state?_edited_state hkind hstate]
        cases hblank : allBlank text with
        | true => simp [optionalText, nonBlank?, hblank, htyped]
        | false => simp [optionalText, nonBlank?, hblank, htyped]
      · rw [state?_edited hkind hstate _ htyped hname]
        refine ih.trans ⟨fun h => .inr ⟨htyped, hname, h⟩, ?_⟩
        rintro (⟨text, rfl, -⟩ | ⟨-, -, h⟩)
        · exact absurd ⟨rfl, Option.some_ne_none text⟩ htyped
        · exact h

end Stray

/-- Any edits of a new stub lead to a state without a scenario just if a state is typed while no
scenario is named and nothing typed later takes it away, and never in a SOAP stub. -/
theorem stray_states_iff (kind : StubKind) (edits : List kind.Edit) :
    (scenarioOf (editedBy kind.fresh edits) = "" ∧ kind.CarriesState (editedBy kind.fresh edits))
      ↔ kind ≠ .soap ∧ ∃ state ∈ kind.stateFields, StrayTyped kind.fresh state edits := by
  by_cases hkind : kind = .soap
  · subst hkind
    refine iff_of_false ?_ fun h => h.1 rfl
    rintro ⟨hname, hcarries⟩
    have hnamed : SoapStub.Named (editedBy (StubKind.fresh .soap) edits) :=
      SoapStub.named_editedBy (s := SoapStub.fresh) (fun _ hr => nomatch hr) edits
    exact hcarries (SoapStub.scenario_eq_none hnamed hname)
  · have hfresh (state : kind.Field) : kind.state? kind.fresh state = none := by
      cases kind <;> cases state <;> rfl
    have hstray (state : kind.Field) (hstate : state ∈ kind.stateFields) :=
      strayTyped_iff hkind hstate (hfresh state) edits
    rw [and_iff_right hkind, carriesState_iff hkind]
    constructor
    · rintro ⟨hname, state, hstate, hsome⟩
      exact ⟨state, hstate, (hstray state hstate).1 ⟨hname, hsome⟩⟩
    · rintro ⟨state, hstate, htyped⟩
      rcases (hstray state hstate).2 htyped with ⟨hname, hsome⟩
      exact ⟨hname, state, hstate, hsome⟩

/-- A state that is typed into a new stub has no scenario. -/
theorem stray_state_of_new_stub :
    let w := editedBy (fresh .rest) [(RestField.requiredState, some "Started")]
    scenarioOf w = "" ∧ Stub.scenario w = none ∧ Stub.requiredScenarioState w = some "Started" := by
  decide +kernel

end StubKind

end StubConsole
