import StubConsole.Proofs.Json.Sorting
import StubConsole.Proofs.Record.StubCodec
import StubConsole.StubKind

/-!
# Values — a record is read from the value of its document

A record is read from the document that was typed, in which a member may stand anywhere and a name
may stand twice.  Where that succeeds, the value of the document says the same: a name that the
record models stands once, and of the others the last one counts either way.

* `Delivers` — what one reading gives another one gives too;
* `Json.TakesValue`, `Rule.TakesValue` — readers and rules that do not look at more than the value;
* `Members.SameValues` — the members of a document against those of its value;
* `StubKind.takesValue` — the three kinds of stubs.
-/

namespace StubConsole

/-! ## Readings that deliver the same -/

/-- Whatever the first reading gives, the second one gives as well. -/
def Delivers {α : Type} (x y : Option α) : Prop := ∀ a, x = some a → y = some a

namespace Delivers

variable {α β : Type} {x y : Option α}

theorem refl (x : Option α) : Delivers x x := fun _ h => h

theorem of_eq (h : x = y) : Delivers x y := h ▸ refl x

theorem nothing (y : Option α) : Delivers none y := fun _ h => nomatch h

theorem bind {f g : α → Option β} (h : Delivers x y) (hf : ∀ a, Delivers (f a) (g a)) :
    Delivers (x >>= f) (y >>= g) := by
  intro b hb
  rcases bind_eq_some_iff.1 hb with ⟨a, ha, hfa⟩
  exact bind_eq_some_of (h a ha) (hf a b hfa)

theorem map {f : α → β} (h : Delivers x y) : Delivers (x.map f) (y.map f) := by
  intro b hb
  rcases Option.map_eq_some_iff.1 hb with ⟨a, ha, rfl⟩
  rw [h a ha, Option.map_some]

end Delivers

/-- What is read from a document is read from its value too. -/
def Json.TakesValue {α : Type} (read : Json → Option α) : Prop :=
  ∀ doc : Json, Delivers (read doc) (read doc.sorted)

/-- What a rule makes of a member it makes of the value of that member too. -/
def Rule.TakesValue {α : Type} (rule : Option Json → Option α) : Prop :=
  ∀ value : Option Json, Delivers (rule value) (rule (value.map Json.sorted))

/-! ## Readers -/

namespace Json.TakesValue

variable {α : Type} {read : Json → Option α}

/-- Arrays and objects are all that sorting changes. -/
theorem of_scalar (harr : ∀ items, read (.arr items) = none)
    (hobj : ∀ members, read (.obj members) = none) : TakesValue read := by
  intro doc
  cases doc with
  | arr items => exact .of_eq (by rw [sorted_arr, harr, harr])
  | obj members => exact .of_eq (by rw [sorted_obj, hobj, hobj])
  | null | bool | num | str => exact .refl _

theorem string : TakesValue Rule.string := .of_scalar (fun _ => rfl) fun _ => rfl

theorem boolean : TakesValue Rule.boolean := .of_scalar (fun _ => rfl) fun _ => rfl

theorem natUpTo (max : Nat) : TakesValue (Rule.natUpTo max) :=
  .of_scalar (fun _ => rfl) fun _ => rfl

theorem intBetween (min max : Int) : TakesValue (Rule.intBetween min max) :=
  .of_scalar (fun _ => rfl) fun _ => rfl

theorem value : TakesValue Rule.value :=
  fun doc => .of_eq (congrArg some (sorted_sorted doc).symm)

theorem choice (choices : List α) (name : α → String) :
    TakesValue (Rule.choice choices name) := by
  intro doc
  unfold Rule.choice
  split
  · exact .refl _
  · exact .refl _
  · exact .nothing _

theorem mapM (h : TakesValue read) (items : List Json) :
    Delivers (items.mapM read) ((items.map sorted).mapM read) := by
  induction items with
  | nil => exact .refl _
  | cons item rest ih =>
      simp only [List.map_cons, List.mapM_cons]
      exact (h item).bind fun _ => ih.bind fun _ => .refl _

theorem list (h : TakesValue read) : TakesValue (Rule.list read) := by
  intro doc
  cases doc with
  | arr items =>
      rw [sorted_arr]
      exact h.mapM items
  | null | bool | num | str | obj => exact .nothing _

theorem mapM_entries_iff {members : List (String × Json)} {entries : List (String × α)} :
    members.mapM (fun m => (read m.2).map (m.1, ·)) = some entries
      ↔ (members.map fun m => (m.1, read m.2)) = entries.map fun e => (e.1, some e.2) := by
  induction members generalizing entries with
  | nil => cases entries <;> simp
  | cons m rest ih =>
      cases entries with
      | nil => simp [Option.bind_eq_some_iff]
      | cons e more =>
          simp only [List.mapM_cons, bind_eq_some_iff, Option.map_eq_some_iff, ih, List.map_cons,
            List.cons.injEq]
          constructor
          · rintro ⟨_, ⟨a, ha, rfl⟩, _, hrest, heq⟩
            cases heq
            exact ⟨by rw [ha], hrest⟩
          · rintro ⟨hfirst, hrest⟩
            rcases Prod.mk.inj hfirst with ⟨hkey, ha⟩
            exact ⟨e, ⟨e.2, ha, by rw [hkey]⟩, more, hrest, rfl⟩

/-- Every entry is read, also one that a later one of the same name replaces. -/
theorem table (h : TakesValue read) : TakesValue (Rule.table read) := by
  intro doc
  cases doc with
  | obj members =>
      rw [sorted_obj]
      intro m hm
      rcases Option.map_eq_some_iff.1 hm with ⟨entries, hentries, rfl⟩
      have hread := mapM_entries_iff.1 hentries
      -- every member was read, so the value of every member reads the same
      have hvalues : (members.map fun m => (m.1, read m.2.sorted))
          = entries.map fun e => (e.1, some e.2) := by
        rw [← hread]
        refine List.map_congr_left ?_
        intro m hm
        have hmem : (m.1, read m.2) ∈ entries.map fun e => (e.1, some e.2) := by
          rw [← hread]
          exact List.mem_map_of_mem (f := fun m => (m.1, read m.2)) hm
        rcases List.mem_map.1 hmem with ⟨e, -, heq⟩
        rcases Prod.mk.inj heq with ⟨-, ha⟩
        rw [← ha, h m.2 e.2 ha.symm]
      -- and of the members of one name the same one is left before and after reading
      have hsorted : ((SortedMap.ofList (members.map fun m => (m.1, m.2.sorted))).entries.map
            fun e => (e.1, read e.2))
          = (SortedMap.ofList entries).entries.map fun e => (e.1, some e.2) := by
        rw [← SortedMap.entries_ofList_map fun _ => read, List.map_map,
          ← SortedMap.entries_ofList_map fun _ => some, ← hvalues]
        rfl
      simp only [Rule.table]
      rw [mapM_entries_iff.2 hsorted, Option.map_some, SortedMap.ofList_entries]
  | null | bool | num | str | arr => exact .nothing _

end Json.TakesValue

/-! ## Rules -/

namespace Rule.TakesValue

variable {α : Type} {read : Json → Option α}

theorem optional (h : Json.TakesValue read) : TakesValue (optional read) := by
  intro value
  cases value with
  | none => exact .refl _
  | some doc =>
      cases doc with
      | null => exact .refl _
      | bool | num | str | arr | obj => exact (h _).map

theorem orElse (absent : α) (h : Json.TakesValue read) : TakesValue (orElse absent read) := by
  intro value
  cases value with
  | none => exact .refl _
  | some doc => exact h doc

/-- Arrays and objects are all that sorting changes. -/
theorem of_scalar {rule : Option Json → Option α}
    (harr : ∀ items, Delivers (rule (some (.arr items))) (rule (some (Json.arr items).sorted)))
    (hobj : ∀ members,
      Delivers (rule (some (.obj members))) (rule (some (Json.obj members).sorted))) :
    TakesValue rule := by
  intro value
  cases value with
  | none => exact .refl _
  | some doc =>
      cases doc with
      | arr items => exact harr items
      | obj members => exact hobj members
      | null | bool | num | str => exact .refl _

/-- A rule that takes any document as text takes the text of its value. -/
theorem compact_sorted (doc : Json) : doc.sorted.compact = doc.sorted.sorted.compact := by
  rw [Json.sorted_sorted]

theorem ident : TakesValue ident :=
  of_scalar (fun _ => .of_eq (congrArg some (compact_sorted _)))
    fun _ => .of_eq (congrArg some (compact_sorted _))

theorem loose : TakesValue loose :=
  of_scalar (fun _ => .of_eq (congrArg some (compact_sorted _)))
    fun _ => .of_eq (congrArg some (compact_sorted _))

theorem looseOption : TakesValue looseOption :=
  of_scalar (fun _ => .of_eq (congrArg (some ∘ some) (compact_sorted _)))
    fun _ => .of_eq (congrArg (some ∘ some) (compact_sorted _))

theorem text : TakesValue text :=
  of_scalar (fun _ => .nothing _) fun _ => .nothing _

end Rule.TakesValue

/-! ## Members -/

namespace Members

/-- The second members are the first ones as values, also as far as no record models them. -/
structure SameValues (m m' : Members) : Prop where
  unique : ∀ {name value}, m.unique? name = some value →
    m'.unique? name = some (value.map Json.sorted)
  others : ∀ names, m'.others names = m.others names

theorem sortedPairs_again (pairs : List (String × Json)) :
    (pairs.map fun m => (m.1, m.2.sorted)).map (fun m => (m.1, m.2.sorted))
      = pairs.map fun m => (m.1, m.2.sorted) := by
  rw [List.map_map]
  exact List.map_congr_left fun m _ => congrArg (Prod.mk m.1) (Json.sorted_sorted m.2)

namespace SameValues

variable {m m' : Members}

theorem field {α : Type} {rule : Option Json → Option α} (h : m.SameValues m') (name : String)
    (hrule : Rule.TakesValue rule) : Delivers (m.field name rule) (m'.field name rule) := by
  intro a ha
  rcases Option.bind_eq_some_iff.1 ha with ⟨value, hunique, hvalue⟩
  exact Option.bind_eq_some_iff.2 ⟨_, h.unique hunique, hrule value a hvalue⟩

theorem of_map (m : Members) : m.SameValues (m.map fun m => (m.1, m.2.sorted)) where
  unique := by
    intro name value h
    have hfilter : (m.map fun m => (m.1, m.2.sorted)).filter (fun m => m.1 == name)
        = (m.filter fun m => m.1 == name).map fun m => (m.1, m.2.sorted) :=
      List.filter_map
    unfold unique? at h ⊢
    rw [hfilter]
    split at h
    next hnone => cases h; rw [hnone]; rfl
    next hone => cases h; rw [hone]; rfl
    next => cases h
  others := by
    intro names
    have hfilter : (m.map fun m => (m.1, m.2.sorted)).filter (fun m => !names.contains m.1)
        = (m.filter fun m => !names.contains m.1).map fun m => (m.1, m.2.sorted) :=
      List.filter_map
    rw [Members.others, hfilter, sortedPairs_again, Members.others]

/-- Sorting leaves the last member of a name, which is the only one if the name was unique. -/
theorem of_ofList (m : Members) (h : m.map (fun m => (m.1, m.2.sorted)) = m) :
    m.SameValues (SortedMap.ofList m).entries where
  unique := by
    intro name value hunique
    unfold unique? at hunique ⊢
    rw [SortedMap.filter_ofList]
    split at hunique
    next hnone => cases hunique; rw [hnone]; rfl
    next e hone =>
      cases hunique
      have hmem : e ∈ m.map fun m => (m.1, m.2.sorted) := by
        rw [h]
        refine (List.mem_filter (p := fun m => m.1 == name)).1 ?_ |>.1
        rw [hone]
        exact List.mem_singleton_self e
      rcases List.mem_map.1 hmem with ⟨source, -, rfl⟩
      rw [hone]
      exact congrArg (some <| some ·) (Json.sorted_sorted source.2).symm
    next => cases hunique
  others := by
    intro names
    rw [Members.others, ← SortedMap.entries_ofList_filter fun key => !names.contains key,
      ← SortedMap.entries_ofList_map fun _ => Json.sorted, SortedMap.ofList_entries,
      Members.others]

theorem trans {m'' : Members} (h : m.SameValues m') (h' : m'.SameValues m'') :
    m.SameValues m'' where
  unique := by
    intro name value hunique
    have hlast := h'.unique (h.unique hunique)
    rwa [Option.map_map, show Json.sorted ∘ Json.sorted = Json.sorted from
      funext Json.sorted_sorted] at hlast
  others names := (h'.others names).trans (h.others names)

theorem of_sorted (m : Members) :
    m.SameValues (SortedMap.ofList (m.map fun m => (m.1, m.2.sorted))).entries :=
  (of_map m).trans (of_ofList _ (sortedPairs_again m))

end SameValues

variable {α : Type} {f : Members → Option α}

theorem takesValue_ofObject?
    (h : ∀ {m m' : Members}, m.SameValues m' → Delivers (f m) (f m')) :
    Json.TakesValue fun doc => ofObject? doc >>= f := by
  intro doc
  cases doc with
  | obj m =>
      rw [Json.sorted_obj]
      exact h (.of_sorted m)
  | null | bool | num | str | arr => exact .nothing _

theorem takesValue_ofObjectOrArray? {names : List String} {least : Nat}
    (h : ∀ {m m' : Members}, m.SameValues m' → Delivers (f m) (f m')) :
    Json.TakesValue fun doc => ofObjectOrArray? names least doc >>= f := by
  intro doc
  cases doc with
  | obj m =>
      rw [Json.sorted_obj]
      exact h (.of_sorted m)
  | arr items =>
      simp only [Json.sorted_arr, ofObjectOrArray?, List.length_map]
      split
      · exact .nothing _
      · rw [List.zip_map_right]
        exact h (.of_map _)
  | null | bool | num | str => exact .nothing _

end Members

/-! ## Records -/

open Members Rule

theorem MatchRule.takesValue : Json.TakesValue ofJson? :=
  takesValue_ofObjectOrArray? fun h =>
    (h.field _ (.optional .string)).bind fun _ =>
    (h.field _ (.optional .string)).bind fun _ =>
    (h.field _ (.optional .string)).bind fun _ =>
    (h.field _ (.optional .string)).bind fun _ =>
    (h.field _ (.optional .boolean)).bind fun _ => .refl _

theorem BodyMatcher.takesValue : Json.TakesValue ofJson? := by
  intro doc
  refine .of_eq ?_
  unfold ofJson?
  rw [Json.sorted_sorted]

theorem RequestPattern.takesValue : Json.TakesValue ofJson? :=
  takesValue_ofObject? fun h =>
    (h.field _ .text).bind fun _ =>
    (h.field _ (.optional .string)).bind fun _ =>
    (h.field _ (.optional .string)).bind fun _ =>
    (h.field _ (.optional .string)).bind fun _ =>
    (h.field _ (.optional .string)).bind fun _ =>
    (h.field _ (.orElse ∅ (.table MatchRule.takesValue))).bind fun _ =>
    (h.field _ (.orElse ∅ (.table MatchRule.takesValue))).bind fun _ =>
    (h.field _ (.orElse [] (.list BodyMatcher.takesValue))).bind fun _ =>
    .of_eq (by rw [h.others])

theorem ResponseDefinition.takesValue : Json.TakesValue ofJson? :=
  takesValue_ofObject? fun h =>
    (h.field _ (.orElse 0 (.natUpTo _))).bind fun _ =>
    (h.field _ (.optional .string)).bind fun _ =>
    (h.field _ (.orElse ∅ (.table .string))).bind fun _ =>
    (h.field _ .looseOption).bind fun _ =>
    (h.field _ (.optional (.natUpTo _))).bind fun _ =>
    (h.field _ (.optional (.choice _ _))).bind fun _ =>
    (h.field _ (.orElse [] (.list .string))).bind fun _ =>
    .of_eq (by rw [h.others])

theorem ScenarioRef.takesValue : Json.TakesValue ofJson? :=
  takesValue_ofObjectOrArray? fun h =>
    (h.field _ .text).bind fun _ =>
    (h.field _ (.optional .string)).bind fun _ => .refl _

theorem Stub.takesValue : Json.TakesValue ofJson? :=
  takesValue_ofObject? fun h =>
    (h.field _ .ident).bind fun _ =>
    (h.field _ .text).bind fun _ =>
    (h.field _ (.orElse .empty RequestPattern.takesValue)).bind fun _ =>
    (h.field _ (.orElse .empty ResponseDefinition.takesValue)).bind fun _ =>
    (h.field _ (.optional (.intBetween _ _))).bind fun _ =>
    (h.field _ (.optional ScenarioRef.takesValue)).bind fun _ =>
    (h.field _ (.optional .string)).bind fun _ =>
    (h.field _ (.optional .string)).bind fun _ =>
    (h.field _ (.optional .boolean)).bind fun _ =>
    (h.field _ (.optional .boolean)).bind fun _ =>
    (h.field _ (.optional .value)).bind fun _ =>
    .of_eq (by rw [h.others])

theorem GraphQlStub.takesValue : Json.TakesValue ofJson? :=
  takesValue_ofObject? fun h =>
    (h.field _ .ident).bind fun _ =>
    (h.field _ .text).bind fun _ =>
    (h.field _ .text).bind fun _ =>
    (h.field _ .text).bind fun _ =>
    (h.field _ .looseOption).bind fun _ =>
    (h.field _ .loose).bind fun _ =>
    (h.field _ (.optional (.intBetween _ _))).bind fun _ =>
    (h.field _ (.optional .string)).bind fun _ =>
    (h.field _ (.optional .string)).bind fun _ =>
    (h.field _ (.optional .string)).bind fun _ =>
    (h.field _ (.optional .boolean)).bind fun _ =>
    (h.field _ (.orElse true .boolean)).bind fun _ =>
    (h.field _ (.optional .value)).bind fun _ =>
    .of_eq (by rw [h.others])

theorem SoapStub.takesValue : Json.TakesValue ofJson? :=
  takesValue_ofObject? fun h =>
    (h.field _ .ident).bind fun _ =>
    (h.field _ .text).bind fun _ =>
    (h.field _ .text).bind fun _ =>
    (h.field _ .text).bind fun _ =>
    (h.field _ (.optional (.intBetween _ _))).bind fun _ =>
    (h.field _ (.optional ScenarioRef.takesValue)).bind fun _ =>
    (h.field _ (.optional .boolean)).bind fun _ =>
    (h.field _ (.optional .boolean)).bind fun _ =>
    (h.field _ (.optional .value)).bind fun _ =>
    (h.field _ .text).bind fun _ =>
    (h.field _ (.orElse SoapVersion.v11 (.choice _ _))).bind fun _ =>
    (h.field _ (.optional .string)).bind fun _ =>
    (h.field _ .text).bind fun _ =>
    (h.field _ .text).bind fun _ =>
    .of_eq (by rw [h.others])

theorem StubKind.takesValue (kind : StubKind) :
    Json.TakesValue (Record.ofJson? : Json → Option kind.Item) := by
  cases kind with
  | rest => exact Stub.takesValue
  | graphQl => exact GraphQlStub.takesValue
  | soap => exact SoapStub.takesValue

end StubConsole
