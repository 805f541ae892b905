import Mathlib.Data.List.Basic
import StubConsole.Outgoing
import StubConsole.Proofs.Json.Delivered
import StubConsole.Proofs.Json.ReadBack

/-!
# Operation — the body of a GraphQL request

A draft is checked when it is saved, and its request is made when it is tried.  Both look at the
variables, each on its own: a blank text stands for no variables, any other one has to be a
document.  What the check lets through makes a request, and its body says what the stub says.

* `GraphQlStub.Binds` — the values that a stub gives to its variables;
* `GraphQlStub.exists_binds`, `GraphQlStub.outgoing_eq` — what the check and the request make of
  them;
* `GraphQlStub.outgoing_of_valid` — the request of a stub without faults.
-/

namespace StubConsole

namespace GraphQlStub

variable {s : GraphQlStub} {base url : String} {doc : Json}

/-- The document of the variables; without variables, or with a blank text for them, it is the
empty object. -/
structure Binds (s : GraphQlStub) (doc : Json) : Prop where
  given : ∀ text ∈ s.bindings, Text.allBlank text = false → Json.parse? text = some doc
  absent : (∀ text ∈ s.bindings, Text.allBlank text = true) → doc = .obj []

theorem givenVariables?_eq_none_iff :
    s.givenVariables? = none ↔ ∀ text ∈ s.bindings, Text.allBlank text = true := by
  simp [givenVariables?, Option.filter_eq_none_iff]

theorem givenVariables?_eq_some_iff {text : String} :
    s.givenVariables? = some text ↔ s.bindings = some text ∧ Text.allBlank text = false := by
  simp [givenVariables?, Option.filter_eq_some_iff]

/-- The last of the checks is the one for the variables. -/
theorem exists_binds (hvalid : s.faults = []) : ∃ doc, s.Binds doc := by
  have hchecked : DraftFault.bindingsNotJson.when
      (s.givenVariables?.any fun v => (Json.parse? v).isNone) = [] :=
    (List.append_eq_nil_iff.1 hvalid).2
  cases hgiven : s.givenVariables? with
  | none =>
      have hblank := givenVariables?_eq_none_iff.1 hgiven
      exact ⟨.obj [], fun text htext hsolid => by simp [hblank text htext] at hsolid, fun _ => rfl⟩
  | some text =>
      rcases givenVariables?_eq_some_iff.1 hgiven with ⟨hbindings, hsolid⟩
      cases hparse : Json.parse? text with
      | none => simp [hgiven, hparse, DraftFault.when] at hchecked
      | some doc =>
          refine ⟨doc, fun other hother _ => ?_, fun hblank => ?_⟩
          · rwa [Option.mem_unique hother hbindings]
          · simp [hblank text hbindings] at hsolid

/-- What is sent: the texts of the stub, and the values of its variables. -/
def operation (s : GraphQlStub) (doc : Json) : Json :=
  .obj [("query", .str s.query), ("operationName", .str s.operationName), ("variables", doc)]

theorem outgoing_eq (hdoc : s.Binds doc) (hurl : urlText base "/graphql" ∅ = .ok url) :
    s.outgoing base = .ok {
      method := .post
      url
      headers := [("Content-Type", "application/json")]
      body := some (s.operation doc).compact } := by
  cases hgiven : s.givenVariables? with
  | none =>
      obtain rfl := hdoc.absent (givenVariables?_eq_none_iff.1 hgiven)
      simp only [outgoing, hgiven, hurl]
      rfl
  | some text =>
      rcases givenVariables?_eq_some_iff.1 hgiven with ⟨hbindings, hsolid⟩
      have hparse := hdoc.given text hbindings hsolid
      simp only [outgoing, hgiven, hparse, hurl]
      rfl

/-- One level is taken by the object around the variables. -/
theorem read?_operation (hwhole : doc.isWhole = true) (hwithin : Json.Within 126 doc) :
    Json.read? .any (s.operation doc).compact = some (s.operation doc) := by
  refine Json.read?_compact (.obj ?_) ?_ (.any _)
  · simp only [List.forall_mem_cons, List.not_mem_nil, false_implies, implies_true, and_true]
    exact ⟨.str _, .str _, hwithin⟩
  · simp [operation, Json.isWhole, Json.haveWhole, hwhole]

theorem sorted_operation (hdoc : doc.sorted = doc) : (s.operation doc).sorted
    = .obj [("operationName", .str s.operationName), ("query", .str s.query),
        ("variables", doc)] := by
  rw [operation, Json.sorted_obj]
  simp only [List.map_cons, List.map_nil, hdoc]
  rfl

theorem Binds.sorted_eq (hdoc : s.Binds doc) : doc.sorted = doc := by
  cases hgiven : s.givenVariables? with
  | none =>
      obtain rfl := hdoc.absent (givenVariables?_eq_none_iff.1 hgiven)
      rfl
  | some text =>
      rcases givenVariables?_eq_some_iff.1 hgiven with ⟨hbindings, hsolid⟩
      exact Json.sorted_of_parse? (hdoc.given text hbindings hsolid)

/-- What is asked of the text of the variables holds of the empty object as well. -/
theorem Binds.plain (hdoc : s.Binds doc) (hvariables : ∀ text ∈ s.bindings, ∀ doc,
    Json.parse? text = some doc → doc.isWhole = true ∧ Json.Within 126 doc) :
    doc.isWhole = true ∧ Json.Within 126 doc := by
  cases hgiven : s.givenVariables? with
  | none =>
      obtain rfl := hdoc.absent (givenVariables?_eq_none_iff.1 hgiven)
      exact ⟨rfl, .obj fun _ hm => nomatch hm⟩
  | some text =>
      rcases givenVariables?_eq_some_iff.1 hgiven with ⟨hbindings, hsolid⟩
      exact hvariables text hbindings doc (hdoc.given text hbindings hsolid)

/-- Every stub that is saved can be tried, wherever the mock server is: the texts of the operation
arrive as they are, along with the variables.  Fractions are left out, since reading one may round
twice, and one level of the document is taken by the object around the variables. -/
theorem outgoing_of_valid (s : GraphQlStub) (base url : String) (hvalid : s.faults = [])
    (hvariables : ∀ text ∈ s.bindings, ∀ doc, Json.parse? text = some doc →
      doc.isWhole = true ∧ Json.Within 126 doc)
    (hurl : urlText base "/graphql" ∅ = .ok url) :
    ∃ body values,
      s.outgoing base
        = .ok ⟨.post, url, [("Content-Type", "application/json")], some body⟩ ∧
      Json.read? .any body
        = some (.obj [("query", .str s.query), ("operationName", .str s.operationName),
            ("variables", values)]) ∧
      Json.parse? body
        = some (.obj [("operationName", .str s.operationName), ("query", .str s.query),
            ("variables", values)]) ∧
      (∀ text ∈ s.bindings, Text.allBlank text = false → Json.parse? text = some values) ∧
      ((∀ text ∈ s.bindings, Text.allBlank text = true) → values = .obj []) := by
  rcases exists_binds hvalid with ⟨doc, hdoc⟩
  rcases hdoc.plain hvariables with ⟨hwhole, hwithin⟩
  have hread := read?_operation (s := s) hwhole hwithin
  have hparse : Json.parse? (s.operation doc).compact = some (s.operation doc).sorted :=
    congrArg (Option.map Json.sorted) hread
  rw [sorted_operation hdoc.sorted_eq] at hparse
  exact ⟨_, doc, outgoing_eq hdoc hurl, hread, hparse, hdoc.given, hdoc.absent⟩

/-- A stub with quotes, a line feed and a control character in its query. -/
def quoting : GraphQlStub :=
  { GraphQlStub.fresh with
    operationName := "Find"
    query := "query Find($id: ID) \x7b\n  pet(id: $id, name: \"\\\") \x7b name\x01 \x7d\n\x7d"
    bindings := some " \x7b\"id\": [1, -2], \"id\": \x7b\"n\": 3\x7d\x7d" }

theorem outgoing_of_valid_quoting :
    quoting.faults = [] ∧
    urlText "https://Mock:443/base/" "/graphql" ∅ = .ok "https://mock/base/graphql" ∧
    ∃ request body, quoting.outgoing "https://Mock:443/base/" = .ok request ∧
      request.body = some body ∧
      (Json.parse? body).bind (Json.get? "query") = some (.str quoting.query) ∧
      (Json.parse? body).bind (Json.get? "variables")
        = some (.obj [("id", .obj [("n", .ofNat 3)])]) := by
  have hvalid : quoting.faults = [] := by decide +kernel
  have hurl : urlText "https://Mock:443/base/" "/graphql" ∅ = .ok "https://mock/base/graphql" := by
    decide +kernel
  have hvalue : ∀ text ∈ quoting.bindings,
      Json.parse? text = some (.obj [("id", .obj [("n", .ofNat 3)])]) := by
    rintro text ⟨⟩
    decide +kernel
  have hvariables : ∀ text ∈ quoting.bindings, ∀ doc, Json.parse? text = some doc →
      doc.isWhole = true ∧ Json.Within 126 doc := by
    intro text htext doc hdoc
    obtain rfl := Option.some.inj ((hvalue text htext).symm.trans hdoc)
    refine ⟨rfl, .obj ?_⟩
    simp only [List.forall_mem_singleton]
    exact .obj (by simpa using .num ⟨by decide, by decide⟩)
  rcases outgoing_of_valid quoting _ _ hvalid hvariables hurl with
    ⟨body, values, hrequest, -, hparse, hgiven, -⟩
  have hsame := (hgiven _ rfl (by decide +kernel)).symm.trans (hvalue _ rfl)
  rw [Option.some.inj hsame] at hparse
  refine ⟨hvalid, hurl, _, body, hrequest, rfl, ?_, ?_⟩
  all_goals
    rw [hparse]
    rfl

end GraphQlStub

end StubConsole
