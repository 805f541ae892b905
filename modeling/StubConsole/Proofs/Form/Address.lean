import Mathlib.Logic.Function.Iterate
import StubConsole.Proofs.Form.Apart

/-!
# Address — an edited stub has one address

A document may give several addresses, of which one counts.  The two fields for it are edited one
at a time, in any order, and from the first edit on one address is left: the kind has gone round
the ring of kinds once for each step, and the text is the last one that was stored.

* `UrlKind.getElem?_all_next` — the kinds as a ring;
* `AddressEdit`, `AddressEdit.apply_eq` — an edit, and the address that it leaves;
* `AddressEdit.run_eq`, `AddressEdit.foldl_lead` — any number of them;
* `Stub.one_address_after_edits` — what is kept and what the two fields show after any run.
-/

namespace StubConsole

open Text

/-! ## The ring of kinds -/

namespace UrlKind

theorem idxOf_next (kind : UrlKind) : all.idxOf kind.next = (all.idxOf kind + 1) % 4 := by
  cases kind <;> rfl

/-- Steps lead along the list of all kinds, and from its end to its start. -/
theorem getElem?_all_next (kind : UrlKind) (steps : Nat) :
    all[(all.idxOf kind + steps) % 4]? = some (next^[steps] kind) := by
  -- the first step is taken from the front, so that `idxOf_next` is all there is to know of it
  induction steps generalizing kind with
  | zero => cases kind <;> rfl
  | succ steps ih =>
      have hplace : (all.idxOf kind + (steps + 1)) % 4 = (all.idxOf kind.next + steps) % 4 := by
        rw [idxOf_next]
        omega
      rw [hplace, ih, Function.iterate_succ_apply]

end UrlKind

/-! ## One edit -/

namespace RequestPattern

theorem slot_withUrl (p : RequestPattern) (kind k : UrlKind) (value : String) :
    (p.withUrl kind value).slot k = if k = kind then some value else none := by
  cases k <;> rfl

end RequestPattern

namespace Stub

/-- The address that counts, as the two fields show it. -/
def address (s : Stub) : UrlKind × String := (s.request.urlKind, s.request.urlValue)

/-- The stub with one address. -/
def withAddress (s : Stub) (address : UrlKind × String) : Stub :=
  { s with request := s.request.withUrl address.1 address.2 }

@[simp] theorem address_withAddress (s : Stub) (address : UrlKind × String) :
    (s.withAddress address).address = address :=
  Prod.ext (s.request.urlKind_withUrl _ _) (s.request.urlValue_withUrl _ _)

@[simp] theorem withAddress_withAddress (s : Stub) (address address' : UrlKind × String) :
    (s.withAddress address).withAddress address' = s.withAddress address' := rfl

end Stub

/-- An edit of one of the two fields of an address. -/
inductive AddressEdit where
  /-- A step to the next kind. -/
  | step
  | store (text : String)
  deriving DecidableEq, Repr

namespace AddressEdit

def apply (s : Stub) : AddressEdit → Except FieldError Stub
  | step => .ok (Form.cycle s RestField.urlKind)
  | store text => Form.setValue s RestField.urlValue text

/-- The address that an edit makes of the one that counts. -/
def lead (address : UrlKind × String) : AddressEdit → UrlKind × String
  | step => (address.1.next, address.2)
  | store text => (address.1, trim text)

/-- Whatever stood beside the address that counts is cleared. -/
theorem apply_eq (s : Stub) (edit : AddressEdit) :
    apply s edit = .ok (s.withAddress (lead s.address edit)) := by
  cases edit <;> rfl

/-! ## Runs of edits -/

def run (s : Stub) (edits : List AddressEdit) : Except FieldError Stub :=
  edits.foldlM apply s

def stored? : AddressEdit → Option String
  | step => none
  | store text => some (trim text)

/-- The text that was stored last, or the one that was there. -/
def lastStored (shown : String) (edits : List AddressEdit) : String :=
  (edits.filterMap stored?).getLast?.getD shown

theorem foldl_lead (kind : UrlKind) (value : String) (edits : List AddressEdit) :
    edits.foldl lead (kind, value)
      = (UrlKind.next^[edits.count step] kind, lastStored value edits) := by
  -- for any address at the start, since the first edit moves it
  induction edits generalizing kind value with
  | nil => rfl
  | cons edit rest ih =>
      cases edit with
      | step =>
          rw [List.foldl_cons, lead, ih, List.count_cons_self, Function.iterate_succ_apply]
          rfl
      | store text =>
          have hcount : (store text :: rest).count step = rest.count step :=
            List.count_cons_of_ne (by simp)
          have hlast : lastStored value (store text :: rest) = lastStored (trim text) rest := by
            simp [lastStored, stored?, List.getLast?_cons]
          rw [List.foldl_cons, lead, ih, hcount, hlast]

theorem run_withAddress (s : Stub) (address : UrlKind × String) (edits : List AddressEdit) :
    run (s.withAddress address) edits = .ok (s.withAddress (edits.foldl lead address)) := by
  induction edits generalizing address with
  | nil => rfl
  | cons edit rest ih =>
      rw [run, List.foldlM_cons, apply_eq, Stub.address_withAddress, Stub.withAddress_withAddress]
      exact ih (lead address edit)

/-- From the first edit on one address is left, and it is led on from there. -/
theorem run_eq (s : Stub) {edits : List AddressEdit} (h : edits ≠ []) :
    run s edits = .ok (s.withAddress (edits.foldl lead s.address)) := by
  cases edits with
  | nil => exact absurd rfl h
  | cons edit rest =>
      rw [run, List.foldlM_cons, apply_eq]
      exact run_withAddress s (lead s.address edit) rest

end AddressEdit

namespace Stub

open AddressEdit

/-- Whatever addresses a stub was given, the fields for it can be edited in any order, and after
any edits one address is given: of the kind that was shown, moved on by one place for each step,
with the text that was stored last. -/
theorem one_address_after_edits (s : Stub) (edits : List AddressEdit) (h : edits ≠ []) :
    ∃ first last t,
      first.label = Form.value s RestField.urlKind ∧
      ((∀ k, s.request.slot k = none) →
        first = .path ∧ Form.value s RestField.urlValue = "") ∧
      UrlKind.all[(UrlKind.all.idxOf first + edits.count step) % 4]? = some last ∧
      run s edits = .ok t ∧
      (∀ k, t.request.slot k =
        if k = last then some (lastStored (Form.value s RestField.urlValue) edits) else none) ∧
      Form.value t RestField.urlKind = last.label ∧
      Form.value t RestField.urlValue = lastStored (Form.value s RestField.urlValue) edits ∧
      t = s.withFieldOf t .urlValue := by
  have hlead : edits.foldl lead s.address
      = (UrlKind.next^[edits.count step] s.request.urlKind,
          lastStored (Form.value s RestField.urlValue) edits) :=
    foldl_lead s.request.urlKind s.request.urlValue edits
  refine ⟨s.request.urlKind, _, _, rfl, ?_, UrlKind.getElem?_all_next _ _, run_eq s h, ?_, ?_, ?_,
    rfl⟩
  · intro hnone
    have hmatch : s.request.urlMatch? = none := by
      simp [RequestPattern.urlMatch?, hnone]
    have hvalue : Form.value s RestField.urlValue
        = (s.request.urlMatch?.map Prod.snd).getD "" := rfl
    rw [hvalue, RequestPattern.urlKind, hmatch]
    exact ⟨rfl, rfl⟩
  · intro k
    rw [hlead]
    exact s.request.slot_withUrl _ k _
  · rw [hlead]
    exact congrArg UrlKind.label (s.request.urlKind_withUrl _ _)
  · rw [hlead]
    exact s.request.urlValue_withUrl _ _

/-- A stub with two addresses and without a path, so that the pattern counts. -/
def crossed : Stub :=
  { Stub.fresh with
    request :=
      { Stub.fresh.request with urlPath := none, url := some "/b?c", urlPattern := some "/b.*" } }

/-- Five steps from the last kind, with a text stored between them. -/
def crossedEdits : List AddressEdit := [step, store " /x ", step, step, step, step]

theorem one_address_after_edits_crossed :
    crossedEdits ≠ [] ∧ ∃ t, run crossed crossedEdits = .ok t ∧
      t.request.slot .path = some "/x" ∧ t.request.slot .full = none ∧
      t.request.slot .pattern = none ∧ Form.value t RestField.urlKind = "URL Path" := by
  have hsome : crossedEdits ≠ [] := by decide
  rcases one_address_after_edits crossed crossedEdits hsome with
    ⟨first, last, t, hfirst, -, hlast, hrun, hslots, hkind, -⟩
  obtain rfl : first = .pattern := by
    cases first <;> first
      | rfl
      | exact absurd hfirst (by decide)
  obtain rfl : UrlKind.path = last := Option.some.inj hlast
  have htext : lastStored (Form.value crossed RestField.urlValue) crossedEdits = "/x" := by
    decide +kernel
  exact ⟨hsome, t, hrun, (hslots .path).trans (congrArg some htext), hslots .full, hslots .pattern,
    hkind⟩

end Stub

end StubConsole
