import StubConsole.JournalView
import StubConsole.Proofs.Text.Lowercase
import StubConsole.StubKind

/-!
# Search — which parts of a text are found

A search compares small letters.  A part of a name is found by itself unless its capital sigmas
change with what stands around them.

* `ListView.found_of_sigmasKept` — a part is found where it reads as it does alone;
* `ListView.FindsParts`, `JournalView.FindsParts` — a search that shows every record it is part of;
* `ListView.parts_found_iff` — the searches that do so, in all lists and in the journal.
-/

namespace StubConsole

open Text

namespace ListView

variable {u text : String}

theorem found_iff : found u text = true ↔ lowerFrom [] u.toList <:+: lowerFrom [] text.toList := by
  simp only [found, contains, lowercase, String.toList_ofList, occursIn_iff]

/-- A part of a text is found where its capital sigmas come out as they do alone. -/
theorem found_of_sigmasKept {before after : List Char}
    (htext : text.toList = before ++ u.toList ++ after)
    (h : SigmasKept before.reverse u.toList after) : found u text = true := by
  rw [found_iff, htext]
  exact infix_lowerFrom_of_sigmasKept h

theorem found_of_settled (h : Settled u.toList) (hpart : u.toList <:+: text.toList) :
    found u text = true := by
  rcases hpart with ⟨before, after, htext⟩
  exact found_of_sigmasKept htext.symm (h.sigmasKept _ _)

/-- Texts in which everything that holds the search text is found. -/
theorem settled_of_found (h : ∀ text : String, u.toList <:+: text.toList → found u text = true) :
    Settled u.toList := by
  rw [settled_iff]
  intro before after
  have hfound := h (String.ofList (before ++ u.toList ++ after))
  rw [found_iff, String.toList_ofList] at hfound
  exact hfound ⟨before, after, rfl⟩

/-! ## Lists -/

/-- The text is part of the name or of the other text that a list searches. -/
def PartOf {α : Type} [Listed α] (u : String) (item : α) : Prop :=
  u.toList <:+: (Listed.name item).toList ∨ u.toList <:+: (Listed.secondary item).toList

/-- Every list with this search text and no other filter shows all records that the text is part
of. -/
def FindsParts (kind : StubKind) (u : String) : Prop :=
  ∀ (v : ListView) (items : List kind.Item), v.search = u → v.method = none →
    ∀ item ∈ items, PartOf u item → item ∈ v.filter items

/-- A stub that shows a text wherever it is searched. -/
theorem exists_listed (kind : StubKind) (h : text ≠ "") :
    ∃ item : kind.Item, Listed.name item = text ∧ Listed.secondary item = text := by
  cases kind with
  | rest =>
      refine ⟨{ Stub.fresh with name := text, request.urlPath := some text }, rfl, ?_⟩
      simp [Listed.secondary, RequestPattern.displayUrl, Option.filter, h]
  | graphQl => exact ⟨{ GraphQlStub.fresh with name := text, operationName := text }, rfl, rfl⟩
  | soap => exact ⟨{ SoapStub.fresh with name := text, soapAction := text }, rfl, rfl⟩

theorem matchesItem_iff {α : Type} [Listed α] {v : ListView} (hmethod : v.method = none)
    (item : α) : v.matchesItem item = true
      ↔ found v.search (Listed.name item) = true
        ∨ found v.search (Listed.secondary item) = true := by
  simp [matchesItem, hmethod]

theorem findsParts_iff (kind : StubKind) : FindsParts kind u ↔ Settled u.toList := by
  constructor
  · intro h
    refine settled_of_found ?_
    intro text hpart
    by_cases hempty : text = ""
    · have hu : u.toList = [] := by simpa [hempty] using hpart
      rw [found_iff, hu]
      exact List.nil_infix
    · rcases exists_listed kind hempty with ⟨item, hname, hsecondary⟩
      have hshown := h { initial with search := u } [item] rfl rfl item (List.mem_singleton_self _)
        (.inl (by rwa [hname]))
      have hmatches := (matchesItem_iff rfl item).1 (List.mem_filter.1 hshown).2
      rw [hname, hsecondary] at hmatches
      exact hmatches.elim id id
  · intro h v items hsearch hmethod item hitem hpart
    refine List.mem_filter.2 ⟨hitem, (matchesItem_iff hmethod item).2 ?_⟩
    rw [hsearch]
    exact hpart.imp (found_of_settled h) (found_of_settled h)

end ListView

/-! ## The journal -/

namespace JournalView

open ListView (found found_of_settled settled_of_found)

variable {u : String}

/-- Every journal with this search text and no other filter shows all logs that have the text in
their address or their method. -/
def FindsParts (u : String) : Prop :=
  ∀ (v : JournalView) (logs : List RequestLog), v.search = u → v.method = none →
    v.statusPrefix = none → ∀ log ∈ logs,
      u.toList <:+: log.request.url.toList ∨ u.toList <:+: log.request.method.toList →
        log ∈ v.shown logs

theorem matchesLog_iff {v : JournalView} (hmethod : v.method = none)
    (hstatus : v.statusPrefix = none) (log : RequestLog) :
    v.matchesLog log = true
      ↔ found v.search log.request.url = true ∨ found v.search log.request.method = true := by
  simp [matchesLog, hmethod, hstatus, statusMatches]

theorem mem_shown_iff {v : JournalView} {logs : List RequestLog} {log : RequestLog} :
    log ∈ v.shown logs ↔ log ∈ logs ∧ v.matchesLog log = true := by
  rw [shown, List.mem_mergeSort, List.mem_filter]

/-- A log whose address and method are the same text. -/
def logOf (text : String) : RequestLog where
  id := "1"
  timestamp := ""
  request := ⟨text, text, none, ∅, ∅, none⟩
  responseDefinition := .empty
  wasMatched := false
  stubMapping := none

theorem findsParts_iff : FindsParts u ↔ Settled u.toList := by
  constructor
  · intro h
    refine settled_of_found ?_
    intro text hpart
    have hshown := h { initial with search := u } [logOf text] rfl rfl rfl (logOf text)
      (List.mem_singleton_self _) (.inl hpart)
    have hmatches := (matchesLog_iff rfl rfl _).1 (mem_shown_iff.1 hshown).2
    exact hmatches.elim id id
  · intro h v logs hsearch hmethod hstatus log hlog hpart
    refine mem_shown_iff.2 ⟨hlog, (matchesLog_iff hmethod hstatus log).2 ?_⟩
    rw [hsearch]
    exact hpart.imp (found_of_settled h) (found_of_settled h)

end JournalView

/-! ## Parts that are found -/

namespace ListView

/-- A search text finds all records that it is part of, in the list of each kind and in the journal,
exactly if its capital sigmas come out the same wherever it stands.  Any other text is found at a
place at which they come out as they do alone. -/
theorem parts_found_iff (u : String) :
    (∀ kind, FindsParts kind u ↔ Settled u.toList)
      ∧ (JournalView.FindsParts u ↔ Settled u.toList)
      ∧ ∀ (text : String) (before after : List Char), text.toList = before ++ u.toList ++ after →
          SigmasKept before.reverse u.toList after → found u text = true :=
  ⟨fun kind => findsParts_iff kind, JournalView.findsParts_iff,
    fun _ _ _ htext h => found_of_sigmasKept htext h⟩

/-- A part that is found in every name, and one that is found at the end of a word. -/
theorem parts_found_endOfWord :
    Settled "ΣΟΦΙΑ".toList ∧ FindsParts .rest "ΣΟΦΙΑ"
      ∧ SigmasKept "Η ".toList.reverse "ΟΔΟΣ".toList [] ∧ found "ΟΔΟΣ" "Η ΟΔΟΣ" = true := by
  have hsettled : Settled "ΣΟΦΙΑ".toList := by decide
  have hkept : SigmasKept "Η ".toList.reverse "ΟΔΟΣ".toList [] := by decide
  exact ⟨hsettled, ((parts_found_iff "ΣΟΦΙΑ").1 .rest).2 hsettled, hkept,
    (parts_found_iff "ΟΔΟΣ").2.2 "Η ΟΔΟΣ" "Η ".toList [] (by decide) hkept⟩

/-- The first four letters of a name, typed one after another: with the sigma the record goes. -/
theorem sigma_hides_record :
    let item : Stub := { Stub.fresh with name := "ΟΔΟΣΗΜΑ" }
    "ΟΔΟΣ".toList <+: item.name.toList
      ∧ item ∈ { initial with search := "ΟΔΟ" }.filter [item]
      ∧ item ∉ { initial with search := "ΟΔΟΣ" }.filter [item] := by
  decide +kernel

end ListView

end StubConsole
