import StubConsole.Outgoing
import StubConsole.Proofs.Form.HiddenRules

/-!
# EmptyInFront — an empty address in front of another one

A document may give a stub several addresses.  The check of a draft asks whether one of them is
not empty; the form and the request of a stub take the one that counts, empty or not.  These
readings differ on a stub that has an empty address in front of the others, and on no other one
that passes the check.  A stub with one address, and every stub once its address was edited, is
read in one way.

* `UrlKind.before`, `RequestPattern.EmptyInFront` — which address counts, and when it is empty;
* `RequestPattern.OneAddress` — at most one address is given;
* `Stub.outgoing_eq_noUrl_iff` — when a request fails for want of an address;
* `Stub.oneAddress_editedBy` — what edits make of the addresses;
* `Stub.url_everywhere_iff` — when check, form and request agree.
-/

namespace StubConsole

/-! ## The address that counts -/

/-- The kinds that count before a kind. -/
def UrlKind.before : UrlKind → List UrlKind
  | .path => []
  | .pattern => [.path]
  | .pathPattern => [.path, .pattern]
  | .full => [.path, .pattern, .pathPattern]

namespace RequestPattern

variable {p : RequestPattern}

/-- The first address that is given is empty. -/
def EmptyInFront (p : RequestPattern) : Prop :=
  ∃ kind, p.slot kind = some "" ∧ ∀ other ∈ kind.before, p.slot other = none

/-- At most one address is given. -/
def OneAddress (p : RequestPattern) : Prop :=
  ∃ kind, ∀ other, other ≠ kind → p.slot other = none

theorem urlMatch?_eq_some_iff {kind : UrlKind} {value : String} :
    p.urlMatch? = some (kind, value) ↔
      p.slot kind = some value ∧ ∀ other ∈ kind.before, p.slot other = none := by
  cases kind <;> cases hpath : p.urlPath <;> cases hpattern : p.urlPattern <;>
    cases hpathPattern : p.urlPathPattern <;>
    simp [urlMatch?, UrlKind.before, slot, hpath, hpattern, hpathPattern]

theorem urlMatch?_eq_none_iff : p.urlMatch? = none ↔ ∀ kind, p.slot kind = none := by
  constructor
  · intro hnone kind
    have hall := List.findSome?_eq_none_iff.1 hnone kind (by cases kind <;> decide)
    simpa using hall
  · intro hnone
    simp [urlMatch?, hnone]

theorem hasUrl_iff : p.hasUrl = true ↔ ∃ kind value, p.slot kind = some value ∧ value ≠ "" := by
  constructor
  · intro hurl
    rcases List.any_eq_true.1 hurl with ⟨kind, -, hkind⟩
    rcases (Option.any_eq_true _ _).1 hkind with ⟨value, hslot, hvalue⟩
    exact ⟨kind, value, hslot, by simpa using hvalue⟩
  · rintro ⟨kind, value, hslot, hvalue⟩
    have hmem : kind ∈ UrlKind.all := by cases kind <;> decide
    exact List.any_eq_true.2 ⟨kind, hmem, by simpa [hslot] using hvalue⟩

/-- Where some address is not empty, the one that counts is empty just if it stands in front. -/
theorem urlValue_eq_empty_iff (hurl : p.hasUrl = true) : p.urlValue = "" ↔ p.EmptyInFront := by
  constructor
  · intro hempty
    cases hmatch : p.urlMatch? with
    | none =>
        rcases hasUrl_iff.1 hurl with ⟨kind, value, hslot, -⟩
        rw [urlMatch?_eq_none_iff.1 hmatch kind] at hslot
        cases hslot
    | some address =>
        rcases address with ⟨kind, value⟩
        have hvalue : value = "" := by simpa [urlValue, hmatch] using hempty
        exact ⟨kind, urlMatch?_eq_some_iff.1 (hvalue ▸ hmatch)⟩
  · rintro ⟨kind, hkind⟩
    simp [urlValue, urlMatch?_eq_some_iff.2 hkind]

theorem not_emptyInFront (hurl : p.hasUrl = true) (hone : p.OneAddress) : ¬ p.EmptyInFront := by
  rintro ⟨front, hempty, -⟩
  rcases hasUrl_iff.1 hurl with ⟨kind, value, hslot, hvalue⟩
  rcases hone with ⟨given, hothers⟩
  have hgiven {other : UrlKind} {text : String} (h : p.slot other = some text) : other = given := by
    by_contra hne
    rw [hothers other hne] at h
    cases h
  rw [hgiven hempty, ← hgiven hslot, hslot] at hempty
  exact hvalue (Option.some.inj hempty)

theorem oneAddress_withUrl (p : RequestPattern) (kind : UrlKind) (value : String) :
    (p.withUrl kind value).OneAddress :=
  ⟨kind, fun other hne => by cases other <;> exact if_neg hne⟩

end RequestPattern

namespace Stub

open StubKind (edited editedBy edited_eq edited_eq_self)

variable {s : Stub}

theorem hasUrl_of_valid (valid : s.faults = []) : s.request.hasUrl = true := by
  simp only [faults, DraftFault.when, List.append_eq_nil_iff] at valid
  simpa using valid.1.2

/-! ## Requests -/

/-- Another fault of a request has another name, so this one is about the address that counts. -/
theorem outgoing_eq_noUrl_iff (s : Stub) (base : String) :
    s.outgoing base = .error .noUrl ↔ s.request.urlValue = "" := by
  unfold outgoing RequestPattern.urlValue
  cases s.request.urlMatch? with
  | none => simp
  | some address =>
      rcases address with ⟨kind, value⟩
      by_cases hempty : value = ""
      · simp [hempty]
      · simp only [hempty, if_false, Option.map_some, Option.getD_some, iff_false]
        by_cases hregex : kind.isRegex = true
        · simp [hregex]
        · simp only [hregex, urlText]
          cases addressOf base value (samples s.request.queryParameters) with
          | ok url => exact nofun
          | error cause => exact nofun

/-! ## Edits -/

/-- A step to the next kind of address, or a text for it. -/
def WritesUrl (edit : StubKind.Edit .rest) : Prop :=
  edit.1 = .urlKind ∨ edit.1 = .urlValue ∧ edit.2.isSome

theorem oneAddress_of_writesUrl (s : Stub) {edit : StubKind.Edit .rest} (hwrites : WritesUrl edit) :
    (@edited .rest s edit).request.OneAddress := by
  rcases edit with ⟨field, typed⟩
  rcases hwrites with hkind | ⟨hvalue, hsome⟩
  · obtain rfl : field = .urlKind := hkind
    cases typed <;> exact s.request.oneAddress_withUrl s.request.urlKind.next s.request.urlValue
  · obtain rfl : field = .urlValue := hvalue
    cases typed with
    | none => cases hsome
    | some text => exact s.request.oneAddress_withUrl s.request.urlKind (Text.trim text)

/-- Other fields leave the addresses alone. -/
theorem slot_edited (s : Stub) {edit : StubKind.Edit .rest} (hother : ¬ WritesUrl edit)
    (kind : UrlKind) : (@edited .rest s edit).request.slot kind = s.request.slot kind := by
  rcases edit with ⟨field, typed⟩
  have hfield : field ≠ .urlKind := fun hkind => hother (.inl hkind)
  cases typed with
  | none => cases field <;> cases kind <;> first | rfl | exact absurd rfl hfield
  | some text =>
      have hvalue : field ≠ .urlValue := fun hvalue => hother (.inr ⟨hvalue, rfl⟩)
      cases hstored : s.setField field text with
      | error fault => rw [edited_eq_self hstored]
      | ok t =>
          rw [edited_eq hstored]
          by_cases hleaves : field = .scenarioName ∧ Text.allBlank text = true
          · rcases hleaves with ⟨rfl, hblank⟩
            rw [setField_eq_withoutScenario hstored hblank]
            rfl
          · have hframe := setField_eq_withFieldOf hstored fun hname hblank =>
              hleaves ⟨hname, hblank⟩
            rw [hframe]
            cases field <;> cases kind <;> first
              | rfl
              | exact absurd rfl hfield
              | exact absurd rfl hvalue

theorem oneAddress_edited (hone : s.request.OneAddress) (edit : StubKind.Edit .rest) :
    (@edited .rest s edit).request.OneAddress := by
  by_cases hwrites : WritesUrl edit
  · exact oneAddress_of_writesUrl s hwrites
  · rcases hone with ⟨given, hothers⟩
    exact ⟨given, fun other hne => (slot_edited s hwrites other).trans (hothers other hne)⟩

theorem oneAddress_editedBy {edits : List (StubKind.Edit .rest)}
    (h : s.request.OneAddress ∨ ∃ edit ∈ edits, WritesUrl edit) :
    (@editedBy .rest s edits).request.OneAddress := by
  -- the first edit either is the one that leaves a single address, or it is still to come
  induction edits generalizing s with
  | nil =>
      rcases h with hone | ⟨edit, hmem, -⟩
      · exact hone
      · cases hmem
  | cons first rest ih =>
      refine ih (s := @edited .rest s first) ?_
      rcases h with hone | ⟨edit, hmem, hwrites⟩
      · exact .inl (oneAddress_edited hone first)
      · rcases List.mem_cons.1 hmem with rfl | hlater
        · exact .inl (oneAddress_of_writesUrl s hwrites)
        · exact .inr ⟨edit, hlater, hwrites⟩

/-- A stub that passes the check shows an address in the form and has one for its request, unless
an empty address stands in front of the others.  That is so in no stub that has one address or
whose address was edited, whatever else was edited before and after. -/
theorem url_everywhere_iff (s : Stub) :
    (s.faults = [] →
      (Form.value s RestField.urlValue = "" ↔ s.request.EmptyInFront) ∧
      ∀ base, s.outgoing base = .error .noUrl ↔ s.request.EmptyInFront) ∧
    ∀ edits : List (StubKind.Edit .rest), (s.request.OneAddress ∨ ∃ edit ∈ edits, WritesUrl edit) →
      (@editedBy .rest s edits).faults = [] →
        Form.value (@editedBy .rest s edits) RestField.urlValue ≠ "" ∧
        ∀ base, (@editedBy .rest s edits).outgoing base ≠ .error .noUrl := by
  have agree {t : Stub} (valid : t.faults = []) :
      t.request.urlValue = "" ↔ t.request.EmptyInFront :=
    t.request.urlValue_eq_empty_iff (hasUrl_of_valid valid)
  refine ⟨fun valid => ⟨agree valid, fun base => ?_⟩, fun edits hone valid => ?_⟩
  · rw [outgoing_eq_noUrl_iff, agree valid]
  · have hshown : (@editedBy .rest s edits).request.urlValue ≠ "" := fun hempty =>
      RequestPattern.not_emptyInFront (hasUrl_of_valid valid) (oneAddress_editedBy hone)
        ((agree valid).1 hempty)
    refine ⟨hshown, fun base hfails => hshown ?_⟩
    exact (outgoing_eq_noUrl_iff _ base).1 hfails

/-- A stub with an empty path beside a full address. -/
def emptyPath : Stub :=
  { Stub.fresh with
    request := { Stub.fresh.request with urlPath := some "", url := some "/orders?open" } }

/-- A step on from the empty path, then a text. -/
def emptyPathFilled : List (StubKind.Edit .rest) :=
  [(.name, some "orders"), (.urlKind, none), (.urlValue, some "/o")]

theorem url_everywhere_iff_emptyPath :
    (emptyPath.faults = [] ∧ emptyPath.request.EmptyInFront ∧
      Form.value emptyPath RestField.urlValue = "") ∧
    (∃ edit ∈ emptyPathFilled, WritesUrl edit) ∧
      (@editedBy .rest emptyPath emptyPathFilled).faults = [] ∧
      ∀ base, (@editedBy .rest emptyPath emptyPathFilled).outgoing base ≠ .error .noUrl := by
  have hfront : emptyPath.request.EmptyInFront := ⟨.path, rfl, nofun⟩
  have hwrites : ∃ edit ∈ emptyPathFilled, WritesUrl edit :=
    ⟨(.urlKind, none), by decide, .inl rfl⟩
  have valid : emptyPath.faults = [] := by decide +kernel
  have still : (@editedBy .rest emptyPath emptyPathFilled).faults = [] := by decide +kernel
  have hshown := ((url_everywhere_iff emptyPath).1 valid).1.2 hfront
  exact ⟨⟨valid, hfront, hshown⟩, hwrites, still,
    ((url_everywhere_iff emptyPath).2 emptyPathFilled (.inr hwrites) still).2⟩

/-- The check finds the full address, the form and the request find none. -/
theorem empty_path_hides_url :
    emptyPath.faults = [] ∧ emptyPath.request.hasUrl = true ∧
      Form.value emptyPath RestField.urlValue = "" ∧
      emptyPath.outgoing "http://localhost:8080" = .error .noUrl := by
  exact ⟨by decide +kernel, by decide +kernel, by decide +kernel, rfl⟩

end Stub

end StubConsole
