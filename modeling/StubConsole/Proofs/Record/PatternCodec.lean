import StubConsole.Proofs.Record.Rules

/-!
# PatternCodec — request patterns and responses are read back

* `MatchRule`, `BodyMatcher`, `ScenarioRef` — read back in all cases;
* `RequestPattern`, `ResponseDefinition` — read back if they are sound, that is, hold what a
  document can say; whatever was read from a document is sound.
-/

namespace StubConsole

open Rule Members

/-! ## Parts of a pattern -/

namespace MatchRule

def slots (rule : MatchRule) : List (String × Option Json) :=
  [("equalTo", rule.equalTo.map .str), ("contains", rule.contains.map .str),
   ("matches", rule.matchesRegex.map .str), ("doesNotMatch", rule.doesNotMatch.map .str),
   ("absent", rule.absent.map .bool)]

theorem toJson_eq (rule : MatchRule) : rule.toJson = .obj (ofSlots rule.slots ++ []) := by
  simp [toJson, slots, ofSlots]

theorem ofJson?_toJson (rule : MatchRule) : ofJson? rule.toJson = some rule := by
  have hold : Hold (ofSlots rule.slots ++ []) rule.slots :=
    hold_ofSlots (by decide : names.Nodup) (by simp)
  have hequalTo := hold.field "equalTo" (optional_map_str rule.equalTo) (by simp [slots])
  have hcontains := hold.field "contains" (optional_map_str rule.contains) (by simp [slots])
  have hmatches := hold.field "matches" (optional_map_str rule.matchesRegex) (by simp [slots])
  have hdoesNot := hold.field "doesNotMatch" (optional_map_str rule.doesNotMatch) (by simp [slots])
  have habsent := hold.field "absent" (optional_map_bool rule.absent) (by simp [slots])
  rw [toJson_eq]
  refine bind_eq_some_of rfl <| bind_eq_some_of hequalTo <| bind_eq_some_of hcontains <|
    bind_eq_some_of hmatches <| bind_eq_some_of hdoesNot <| bind_eq_some_of habsent <| ?_
  rfl

theorem readable_toJson (rule : MatchRule) : Json.Readable shape 1 rule.toJson := by
  rw [toJson_eq]
  refine readable_ofSlots rfl ?_ (by simp)
  simp only [slots, List.forall_mem_cons, List.not_mem_nil, false_implies, implies_true, and_true]
  exact ⟨readable_map_str _, readable_map_str _, readable_map_str _, readable_map_str _,
    readable_map_bool _⟩

end MatchRule

namespace BodyMatcher

theorem ofJson?_toJson (m : BodyMatcher) : ofJson? m.toJson = some m := by
  rcases m with ⟨kind, value⟩
  cases kind <;> rfl

theorem readable_toJson (m : BodyMatcher) : Json.Readable .any 1 m.toJson := by
  refine .obj rfl ?_
  intro e he
  rw [List.mem_singleton.1 he]
  exact .str m.value

end BodyMatcher

namespace RequestPattern

def slots (p : RequestPattern) : List (String × Option Json) :=
  [("method", some (.str p.method)), ("url", p.url.map .str), ("urlPath", p.urlPath.map .str),
   ("urlPattern", p.urlPattern.map .str), ("urlPathPattern", p.urlPathPattern.map .str),
   ("headers", someTable MatchRule.toJson p.headers),
   ("queryParameters", someTable MatchRule.toJson p.queryParameters),
   ("bodyPatterns", someItems BodyMatcher.toJson p.bodyMatchers)]

theorem toJson_eq (p : RequestPattern) :
    p.toJson = .obj (ofSlots p.slots ++ p.extra.entries) := by
  simp [toJson, slots, ofSlots, unlessNoEntry_eq, unlessNoItem_eq, whenSome]

/-- The pattern holds what a document can say. -/
structure Sound (p : RequestPattern) : Prop where
  extra : Unmodelled names p.extra

theorem sound_empty : empty.Sound := ⟨unmodelled_empty names⟩

theorem ofJson?_toJson {p : RequestPattern} (h : p.Sound) : ofJson? p.toJson = some p := by
  have hold : Hold (ofSlots p.slots ++ p.extra.entries) p.slots :=
    hold_ofSlots (by decide : names.Nodup) h.extra.foreign
  have hmethod := hold.field "method" (text_str p.method) (by simp [slots])
  have hurl := hold.field "url" (optional_map_str p.url) (by simp [slots])
  have hurlPath := hold.field "urlPath" (optional_map_str p.urlPath) (by simp [slots])
  have hurlPattern := hold.field "urlPattern" (optional_map_str p.urlPattern) (by simp [slots])
  have hurlPathPattern :=
    hold.field "urlPathPattern" (optional_map_str p.urlPathPattern) (by simp [slots])
  have hheaders := hold.field "headers"
    (table_someTable p.headers fun e _ => MatchRule.ofJson?_toJson e.2) (by simp [slots])
  have hqueryParameters := hold.field "queryParameters"
    (table_someTable p.queryParameters fun e _ => MatchRule.ofJson?_toJson e.2) (by simp [slots])
  have hbodyMatchers := hold.field "bodyPatterns"
    (list_someItems p.bodyMatchers fun m _ => BodyMatcher.ofJson?_toJson m) (by simp [slots])
  have hextra : others (ofSlots p.slots ++ p.extra.entries) names = p.extra :=
    others_ofSlots (fun slot hslot => List.mem_map_of_mem hslot) h.extra
  rw [toJson_eq]
  refine bind_eq_some_of rfl <| bind_eq_some_of hmethod <| bind_eq_some_of hurl <|
    bind_eq_some_of hurlPath <| bind_eq_some_of hurlPattern <| bind_eq_some_of hurlPathPattern <|
    bind_eq_some_of hheaders <| bind_eq_some_of hqueryParameters <|
    bind_eq_some_of hbodyMatchers <| ?_
  exact congrArg (fun extra => some { p with extra }) hextra

/-- The unmodelled members leave room for the levels around them. -/
structure Fits (depth : Nat) (p : RequestPattern) : Prop where
  extra : ∀ e ∈ p.extra.entries, Json.Within depth e.2

theorem of_ofJson? {doc : Json} {p : RequestPattern} (h : ofJson? doc = some p) :
    p.Sound ∧ ∀ depth, Json.Within (depth + 1) doc → p.Fits depth := by
  simp only [ofJson?, ↓bind_eq_some_iff] at h
  obtain ⟨m, hm, method, -, url, -, urlPath, -, urlPattern, -, urlPathPattern, -, headers, -,
    queryParameters, -, bodyMatchers, -, h⟩ := h
  cases h
  refine ⟨⟨unmodelled_others m names⟩, ?_⟩
  intro depth hwithin
  exact ⟨within_others (within_ofObject? hm hwithin)⟩

theorem readable_toJson {depth : Nat} {p : RequestPattern} (hfits : p.Fits (depth + 2))
    (hwhole : ∀ e ∈ p.extra.entries, e.2.isWhole = true) (hsound : p.Sound) :
    Json.Readable shape (depth + 3) p.toJson := by
  have hheader : ∀ e : String × MatchRule,
      Json.Readable MatchRule.shape (depth + 1) e.2.toJson :=
    fun e => (MatchRule.readable_toJson e.2).mono (Nat.le_add_left 1 depth)
  have hmatcher : ∀ b : BodyMatcher, Json.Readable .any (depth + 1) b.toJson :=
    fun b => (BodyMatcher.readable_toJson b).mono (Nat.le_add_left 1 depth)
  rw [toJson_eq]
  refine readable_ofSlots rfl ?_ ?_
  · simp only [slots, List.forall_mem_cons, List.not_mem_nil, false_implies, implies_true,
      and_true]
    exact ⟨readable_some (.str _), readable_map_str _, readable_map_str _, readable_map_str _,
      readable_map_str _, readable_someTable fun e _ => hheader e,
      readable_someTable fun e _ => hheader e, readable_someItems fun b _ => hmatcher b⟩
  · exact readable_unmodelled hsound.extra hfits.extra hwhole

end RequestPattern

/-! ## Responses -/

namespace ResponseDefinition

def slots (r : ResponseDefinition) : List (String × Option Json) :=
  [("status", some (.ofNat r.status)), ("statusMessage", r.statusMessage.map .str),
   ("headers", someTable .str r.headers), ("body", r.body.map .str),
   ("fixedDelayMilliseconds", r.fixedDelayMilliseconds.map .ofNat),
   ("fault", r.fault.map fun f => .str f.name),
   ("transformers", someItems .str r.transformers)]

theorem toJson_eq (r : ResponseDefinition) :
    r.toJson = .obj (ofSlots r.slots ++ r.extra.entries) := by
  simp [toJson, slots, ofSlots, unlessNoEntry_eq, unlessNoItem_eq, whenSome]

/-- The response holds what a document can say. -/
structure Sound (r : ResponseDefinition) : Prop where
  status : r.status ≤ 65535
  delay : ∀ n ∈ r.fixedDelayMilliseconds, n ≤ Json.maxWord
  extra : Unmodelled names r.extra

theorem sound_empty : empty.Sound where
  status := Nat.zero_le _
  delay := fun _ h => nomatch h
  extra := unmodelled_empty names

theorem optional_fault (o : Option ResponseFault) :
    optional (choice ResponseFault.all ResponseFault.name) (o.map fun f => .str f.name)
      = some o := by
  refine optional_map o ?_ (fun _ _ => by simp)
  intro f _
  refine choice_name (by cases f <;> decide) ?_
  intro b _ hname
  cases b <;> cases f <;> first | rfl | exact absurd hname (by decide)

theorem ofJson?_toJson {r : ResponseDefinition} (h : r.Sound) : ofJson? r.toJson = some r := by
  have hold : Hold (ofSlots r.slots ++ r.extra.entries) r.slots :=
    hold_ofSlots (by decide : names.Nodup) h.extra.foreign
  have hstatus := hold.field "status" (status_ofNat h.status) (by simp [slots])
  have hmessage := hold.field "statusMessage" (optional_map_str r.statusMessage) (by simp [slots])
  have hheaders := hold.field "headers" (table_someStrings r.headers) (by simp [slots])
  have hbody := hold.field "body" (looseOption_map_str r.body) (by simp [slots])
  have hdelay := hold.field "fixedDelayMilliseconds" (optional_map_count h.delay) (by simp [slots])
  have hfault := hold.field "fault" (optional_fault r.fault) (by simp [slots])
  have htransformers :=
    hold.field "transformers" (list_someStrings r.transformers) (by simp [slots])
  have hextra : others (ofSlots r.slots ++ r.extra.entries) names = r.extra :=
    others_ofSlots (fun slot hslot => List.mem_map_of_mem hslot) h.extra
  rw [toJson_eq]
  refine bind_eq_some_of rfl <| bind_eq_some_of hstatus <| bind_eq_some_of hmessage <|
    bind_eq_some_of hheaders <| bind_eq_some_of hbody <| bind_eq_some_of hdelay <|
    bind_eq_some_of hfault <| bind_eq_some_of htransformers <| ?_
  exact congrArg (fun extra => some { r with extra }) hextra

/-- The unmodelled members leave room for the levels around them. -/
structure Fits (depth : Nat) (r : ResponseDefinition) : Prop where
  extra : ∀ e ∈ r.extra.entries, Json.Within depth e.2

theorem of_ofJson? {doc : Json} {r : ResponseDefinition} (h : ofJson? doc = some r) :
    r.Sound ∧ ∀ depth, Json.Within (depth + 1) doc → r.Fits depth := by
  simp only [ofJson?, ↓bind_eq_some_iff] at h
  obtain ⟨m, hm, status, hstatus, statusMessage, -, headers, -, body, -, delay, hdelay, fault, -,
    transformers, -, h⟩ := h
  cases h
  rcases exists_of_field hstatus with ⟨statusValue, hstatus, -⟩
  rcases exists_of_field hdelay with ⟨delayValue, hdelay, -⟩
  refine ⟨⟨le_of_status hstatus, le_maxWord_of_optional hdelay, unmodelled_others m names⟩, ?_⟩
  intro depth hwithin
  exact ⟨within_others (within_ofObject? hm hwithin)⟩

theorem readable_toJson {depth : Nat} {r : ResponseDefinition} (hfits : r.Fits (depth + 1))
    (hwhole : ∀ e ∈ r.extra.entries, e.2.isWhole = true) (hsound : r.Sound) :
    Json.Readable shape (depth + 2) r.toJson := by
  rw [toJson_eq]
  refine readable_ofSlots rfl ?_ ?_
  · simp only [slots, List.forall_mem_cons, List.not_mem_nil, false_implies, implies_true,
      and_true]
    exact ⟨readable_some (readable_status hsound.status), readable_map_str _,
      readable_someStrings r.headers, readable_map_str _,
      readable_map fun n hn => .ofNat (hsound.delay n hn), readable_map fun f _ => .str f.name,
      readable_someItems fun s _ => .str s⟩
  · exact readable_unmodelled hsound.extra hfits.extra hwhole

end ResponseDefinition

/-! ## References to a scenario -/

namespace ScenarioRef

def slots (s : ScenarioRef) : List (String × Option Json) :=
  [("name", some (.str s.name)), ("state", s.state.map .str)]

theorem toJson_eq (s : ScenarioRef) : s.toJson = .obj (ofSlots s.slots ++ []) := by
  simp [toJson, slots, ofSlots, whenSome]

theorem ofJson?_toJson (s : ScenarioRef) : ofJson? s.toJson = some s := by
  have hold : Hold (ofSlots s.slots ++ []) s.slots :=
    hold_ofSlots (by decide : names.Nodup) (by simp)
  have hname := hold.field "name" (text_str s.name) (by simp [slots])
  have hstate := hold.field "state" (optional_map_str s.state) (by simp [slots])
  rw [toJson_eq]
  refine bind_eq_some_of rfl <| bind_eq_some_of hname <| bind_eq_some_of hstate <| ?_
  rfl

theorem toJson_ne_null (s : ScenarioRef) : s.toJson ≠ .null := by simp [toJson]

theorem readable_toJson (s : ScenarioRef) : Json.Readable shape 1 s.toJson := by
  rw [toJson_eq]
  refine readable_ofSlots rfl ?_ (by simp)
  simp only [slots, List.forall_mem_cons, List.not_mem_nil, false_implies, implies_true, and_true]
  exact ⟨readable_some (.str _), readable_map_str _⟩

end ScenarioRef

end StubConsole
