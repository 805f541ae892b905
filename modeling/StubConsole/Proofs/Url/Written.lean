import StubConsole.Proofs.Url.Authorities
import StubConsole.Proofs.Url.Reading

/-!
# Written — addresses in their normal form

The normal form of a web address is an address again, and it speaks to the same server: the server
is read from the text behind the slashes alone, and nothing else is written there.

* `Url.serverOf`, `Url.parse_serverOf` — the text that names the server;
* `Url.mem_readPathAfterHost` — the characters of paths;
* `Url.Written`, `Url.exists_written_of_parse` — a web address as it is read;
* `Url.Written.parse_text` — its text read again.
-/

namespace StubConsole

open Text

namespace Url

/-! ## The text that names the server -/

section Server

variable {scheme s t more : List Char}

def isAnySlash (c : Char) : Bool := c = '/' || c = '\\'

/-- What stands behind the slashes of a web address, up to the path, the query or the fragment. -/
def serverOf (t : List Char) : List Char :=
  (t.dropWhile isAnySlash).takeWhile fun c => !endsAuthority true c

theorem isAnySlash_eq_false {c : Char} (h : endsAuthority true c = false) :
    isAnySlash c = false := by
  simp only [endsAuthority, Bool.true_and, Bool.or_eq_false_iff] at h
  rw [isAnySlash, h.1.1.1, h.2]
  rfl

theorem Lead.serverOf_append {text slashes server tail : List Char}
    (h : Lead text slashes server tail) (hmore : ∀ c ∈ more.head?, c = '?' ∨ c = '#') :
    serverOf (text ++ more) = server := by
  have hends : ∀ c ∈ (tail ++ more).head?, (!endsAuthority true c) = false := by
    intro c hc
    cases tail with
    | nil => rcases hmore c hc with rfl | rfl <;> rfl
    | cons d tail =>
        obtain rfl : d = c := by simpa using hc
        rcases h.beginsPath d rfl with rfl | rfl <;> rfl
  have hserver : ∀ c ∈ server, (!endsAuthority true c) = true := by simpa using h.inServer
  have hslashes : ∀ c ∈ slashes, isAnySlash c = true := by simpa [isAnySlash] using h.isSlash
  have hrest : ∀ c ∈ (server ++ (tail ++ more)).head?, isAnySlash c = false := by
    intro c hc
    cases server with
    | nil =>
        rw [h.tail_nil rfl] at hc
        rcases hmore c hc with rfl | rfl <;> rfl
    | cons d server =>
        obtain rfl : d = c := by simpa using hc
        exact isAnySlash_eq_false (h.inServer d List.mem_cons_self)
  rw [h.text_eq, List.append_assoc, List.append_assoc, serverOf, dropWhile_cut hslashes hrest,
    takeWhile_cut hserver hends]

/-- The server of a web address is read from its text alone. -/
theorem parse_serverOf (hweb : WireRequest.isWebScheme scheme = true)
    (hclean : clean s = scheme ++ ':' :: t) :
    ∃ tail, parse s
      = (readAuthority scheme (serverOf t)).map (ofParts scheme tail (splitTail t).2) := by
  rcases exists_splitTail t with ⟨more, ht, hmore, hmarks⟩
  rcases exists_lead hmarks with ⟨slashes, server, tail, hlead⟩
  refine ⟨tail, ?_⟩
  rw [parse_lead hweb hclean hlead]
  have hserver := hlead.serverOf_append hmore
  rw [← ht] at hserver
  rw [hserver]

/-- Text that is appended goes on with the server, or comes too late for it, or the server starts
there. -/
theorem serverOf_append (s more : List Char) :
    serverOf (s ++ more) = serverOf s
      ∨ serverOf (s ++ more) = serverOf s ++ more.takeWhile (fun c => !endsAuthority true c)
      ∨ serverOf s = [] ∧ serverOf (s ++ more) = serverOf more := by
  rw [serverOf, serverOf, List.dropWhile_append]
  split
  next hnone => exact .inr (.inr ⟨by rw [List.isEmpty_iff.1 hnone]; rfl, rfl⟩)
  next =>
    rw [List.takeWhile_append]
    split
    next hall =>
      rw [(List.takeWhile_prefix _).eq_of_length hall]
      exact .inr (.inl rfl)
    next => exact .inl rfl

/-- Slashes behind a server end it, and slashes alone name none. -/
theorem serverOf_append_slashes (s : List Char) (n : Nat) :
    serverOf (s ++ List.replicate n '/') = serverOf s := by
  have hnone : serverOf (List.replicate n '/') = [] := by
    have hall : ∀ c ∈ List.replicate n '/', isAnySlash c = true := fun c hc => by
      rw [List.eq_of_mem_replicate hc]
      rfl
    rw [serverOf, List.dropWhile_eq_nil_iff.2 hall]
    rfl
  have hend : (List.replicate n '/').takeWhile (fun c => !endsAuthority true c) = [] := by
    cases n <;> rfl
  rcases serverOf_append s (List.replicate n '/') with hsame | hmore | ⟨hempty, hlater⟩
  · exact hsame
  · rw [hmore, hend, List.append_nil]
  · rw [hlater, hnone, hempty]

end Server

/-! ## Paths -/

section Paths

variable {c : Char} {s : List Char}

theorem path_of_mem_encode (h : c ∈ Percent.encode Percent.path s) : Percent.path c = false :=
  Percent.special_of_mem_encode (by decide) h

theorem mem_leave {done : List (List Char)} {segment : List Char} (h : segment ∈ leave done) :
    segment ∈ done := by
  cases done with
  | nil => cases h
  | cons first done =>
      rw [leave] at h
      split at h
      · exact h
      · exact List.mem_cons_of_mem _ h

/-- Resolved segments are encoded. -/
theorem path_of_mem_resolve {done segs : List (List Char)}
    (hdone : ∀ segment ∈ done, ∀ c ∈ segment, Percent.path c = false) :
    ∀ segment ∈ resolve done segs, ∀ c ∈ segment, Percent.path c = false := by
  induction segs generalizing done with
  | nil => exact hdone
  | cons first segs ih =>
      have hempty : ∀ done : List (List Char),
          (∀ segment ∈ done, ∀ c ∈ segment, Percent.path c = false) →
          ∀ segment ∈ [] :: done, ∀ c ∈ segment, Percent.path c = false := fun done h =>
        List.forall_mem_cons.2 ⟨fun _ hc => absurd hc List.not_mem_nil, h⟩
      have hleave : ∀ segment ∈ leave done, ∀ c ∈ segment, Percent.path c = false :=
        fun segment h => hdone segment (mem_leave h)
      rw [resolve]
      split
      · refine ih ?_
        split
        · exact hempty _ hleave
        · exact hleave
      split
      · refine ih ?_
        split
        · exact hempty _ hdone
        · exact hdone
      · exact ih (List.forall_mem_cons.2 ⟨fun c => path_of_mem_encode, hdone⟩)

theorem mem_readPath {special : Bool} (h : c ∈ readPath special s) :
    c = '/' ∨ Percent.path c = false := by
  rcases List.mem_cons.1 h with rfl | h
  · exact .inl rfl
  rcases mem_of_mem_joinWith h with hslash | ⟨segment, hsegment, hc⟩
  · exact .inl (List.mem_singleton.1 hslash)
  · exact .inr (path_of_mem_resolve (fun _ hnone => absurd hnone List.not_mem_nil) segment
      (List.mem_reverse.1 hsegment) c hc)

theorem mem_readPathAfterHost {special : Bool} (h : c ∈ readPathAfterHost special s) :
    c = '/' ∨ Percent.path c = false := by
  rw [readPathAfterHost.eq_def] at h
  split at h
  · split at h
    · exact .inl (List.mem_singleton.1 h)
    · cases h
  · split at h
    · exact mem_readPath h
    · exact mem_readPath h

theorem head?_readPathAfterHost (s : List Char) : (readPathAfterHost true s).head? = some '/' := by
  cases s with
  | nil => rfl
  | cons c s =>
      rw [readPathAfterHost]
      split <;> rfl

end Paths

/-! ## Addresses -/

section Addresses

variable {scheme s t : List Char} {u : Url}

/-- A web address as it is read: its path starts with a slash, and nothing in it is a blank. -/
structure Written (u : Url) (a : Authority) : Prop where
  web : WireRequest.isWebScheme u.scheme = true
  authority_eq : u.authority = some a
  server : a.Written u.scheme
  path : u.path.head? = some '/'
  visible : ∀ c ∈ u.path ++ u.query.getD [] ++ u.fragment.getD [], 0x20 < c.toNat

/-- Everything behind the server. -/
def tailText (u : Url) : List Char :=
  u.path ++ (match u.query with
    | none => []
    | some q => '?' :: q) ++ match u.fragment with
    | none => []
    | some f => '#' :: f

theorem Written.text_eq {a : Authority} (h : u.Written a) :
    u.text = u.scheme ++ ':' :: ('/' :: '/' :: (Authority.text a ++ u.tailText)) := by
  cases hquery : u.query <;> cases hfragment : u.fragment <;>
    simp [text, tailText, h.authority_eq, hquery, hfragment]

theorem Written.visible_tailText {a : Authority} (h : u.Written a) :
    ∀ c ∈ u.tailText, 0x20 < c.toNat := by
  intro c hc
  rw [tailText, List.mem_append, List.mem_append] at hc
  rcases hc with (hpath | hquery) | hfragment
  · exact h.visible c (by simp [hpath])
  · split at hquery
    · cases hquery
    next q hq =>
      rcases List.mem_cons.1 hquery with rfl | hquery
      · decide
      · exact h.visible c (by simp [hq, hquery])
  · split at hfragment
    · cases hfragment
    next f hf =>
      rcases List.mem_cons.1 hfragment with rfl | hfragment
      · decide
      · exact h.visible c (by simp [hf, hfragment])

theorem visible_eq_self (h : ∀ c ∈ s, 0x20 < c.toNat) : visible s = s := by
  have hblank : ∀ c : Char, 0x20 < c.toNat → isOuterBlank c = false := fun c hc => by
    simpa [isOuterBlank] using hc
  refine visible_eq_self_iff.2
    ⟨fun c hc => ?_, fun c hc => hblank c (h c (List.mem_of_getLast? hc))⟩
  have hne : ∀ d : Char, d.toNat ≤ 0x20 → c ≠ d := fun d hd heq => by
    have hlt := h c hc
    rw [heq] at hlt
    omega
  simp [isIgnored, hne '\t' (by decide), hne '\n' (by decide), hne '\r' (by decide)]

/-- The text of a web address is read as an address of the same server. -/
theorem Written.parse_text {a : Authority} (h : u.Written a) :
    ∃ v, parse u.text = .ok v ∧ v.scheme = u.scheme ∧ v.authority = u.authority := by
  have hclean : clean u.text
      = u.scheme ++ ':' :: ('/' :: '/' :: (Authority.text a ++ u.tailText)) := by
    rw [h.text_eq, clean_web h.web, visible_eq_self]
    intro c hc
    simp only [List.mem_cons, List.mem_append] at hc
    rcases hc with rfl | rfl | hc | hc
    · decide
    · decide
    · exact (h.server.visible_text hc).1
    · exact h.visible_tailText c hc
  have hserver : serverOf ('/' :: '/' :: (Authority.text a ++ u.tailText)) = Authority.text a := by
    have hends : ∀ c ∈ Authority.text a, endsAuthority true c = false := fun c hc =>
      (h.server.visible_text hc).2
    have hfirst : ∀ c ∈ (Authority.text a ++ u.tailText).head?, isAnySlash c = false := by
      intro c hc
      rcases List.exists_cons_of_ne_nil h.server.text_ne_nil with ⟨d, rest, htext⟩
      rw [htext] at hc hends
      obtain rfl : d = c := by simpa using hc
      exact isAnySlash_eq_false (hends d List.mem_cons_self)
    have htail : ∀ c ∈ u.tailText.head?, (!endsAuthority true c) = false := by
      intro c hc
      have hpath := h.path
      obtain rfl : '/' = c := by simpa [tailText, List.head?_append, hpath] using hc
      rfl
    have hslashes : '/' :: '/' :: (Authority.text a ++ u.tailText)
        = ['/', '/'] ++ (Authority.text a ++ u.tailText) := rfl
    rw [serverOf, hslashes, dropWhile_cut (by simp [isAnySlash]) hfirst,
      takeWhile_cut (fun c hc => by simp [hends c hc]) htail]
  rcases parse_serverOf h.web hclean with ⟨tail, hparse⟩
  rw [hserver, h.server.readAuthority_text (isSpecial_of_isWeb h.web)] at hparse
  exact ⟨_, hparse, rfl, h.authority_eq.symm⟩

/-- Query and fragment are encoded where they are given. -/
theorem special_of_mem_mark {special : Char → Bool} {mark : Option (List Char)} {c : Char}
    (hescape : ('%' :: Percent.hexDigits).all (fun c => !special c) = true)
    (h : c ∈ (mark.map (Percent.encode special)).getD []) : special c = false := by
  cases mark with
  | none => cases h
  | some s => exact Percent.special_of_mem_encode hescape h

/-- Web addresses are read so. -/
theorem exists_written_of_parse (hweb : WireRequest.isWebScheme scheme = true)
    (hclean : clean s = scheme ++ ':' :: t) (hparse : parse s = .ok u) :
    ∃ a, readAuthority scheme (serverOf t) = .ok a ∧ u.scheme = scheme ∧ u.Written a := by
  rcases parse_serverOf hweb hclean with ⟨tail, hread⟩
  rw [hparse] at hread
  cases ha : readAuthority scheme (serverOf t) with
  | error cause => simp [ha, Except.map] at hread
  | ok a =>
      rw [ha] at hread
      obtain rfl := Except.ok.inj hread
      refine ⟨a, rfl, rfl, hweb, rfl,
        Authority.written_of_readAuthority (isSpecial_of_isWeb hweb) ha,
        head?_readPathAfterHost tail, fun c hc => ?_⟩
      rw [List.mem_append, List.mem_append] at hc
      rcases hc with (hpath | hquery) | hfragment
      · rcases mem_readPathAfterHost hpath with rfl | hplain
        · decide
        · exact lt_of_path hplain
      · exact lt_of_specialQuery (special_of_mem_mark (by decide) hquery)
      · exact lt_of_fragment (special_of_mem_mark (by decide) hfragment)

theorem lt_of_mem_formEncode {c : Char} (h : c ∈ Percent.formEncode s) : 0x20 < c.toNat := by
  rcases Percent.mem_formEncode h with rfl | rfl | hplain
  · decide
  · decide
  · have hlow : ∀ n < 0x21, Percent.formPlain (Char.ofNat n) = false := by decide
    refine Nat.lt_of_not_le fun hle => ?_
    have hnot : Percent.formPlain c = false :=
      of_toNat_lt (P := fun d => Percent.formPlain d = false) hlow (Nat.lt_succ_of_le hle)
    rw [hplain] at hnot
    cases hnot

theorem mem_query_appendPair {c : Char} {name value : String}
    (h : c ∈ (u.appendPair name value).query.getD []) :
    c ∈ u.query.getD [] ∨ c = '&' ∨ c = '=' ∨ ∃ text, c ∈ Percent.formEncode text := by
  have hpair : ∀ c ∈ Percent.formEncode name.toList ++ '=' :: Percent.formEncode value.toList,
      c = '=' ∨ ∃ text, c ∈ Percent.formEncode text := by
    intro c hc
    rcases List.mem_append.1 hc with hc | hc
    · exact .inr ⟨_, hc⟩
    · rcases List.mem_cons.1 hc with rfl | hc
      · exact .inl rfl
      · exact .inr ⟨_, hc⟩
  rw [appendPair] at h
  cases hquery : u.query with
  | none => exact .inr (.inr (hpair c (by simpa [hquery] using h)))
  | some q =>
      cases q with
      | nil => exact .inr (.inr (hpair c (by simpa [hquery] using h)))
      | cons d q =>
          rw [hquery] at h
          rcases List.mem_append.1 h with hold | hnew
          · exact .inl hold
          · rcases List.mem_cons.1 hnew with rfl | hnew
            · exact .inr (.inl rfl)
            · exact .inr (.inr (hpair c hnew))

/-- Pairs are added to the query only. -/
theorem Written.appendPair {a : Authority} (h : u.Written a) (name value : String) :
    (u.appendPair name value).Written a where
  web := h.web
  authority_eq := h.authority_eq
  server := h.server
  path := h.path
  visible := by
    have hvisible := h.visible
    simp only [List.mem_append] at hvisible ⊢
    intro c hc
    rcases hc with (hpath | hquery) | hfragment
    · exact hvisible c (.inl (.inl hpath))
    · rcases mem_query_appendPair hquery with hold | rfl | rfl | ⟨text, hc⟩
      · exact hvisible c (.inl (.inr hold))
      · decide
      · decide
      · exact lt_of_mem_formEncode hc
    · exact hvisible c (.inr hfragment)

/-- Adds pairs to the query, one after the other. -/
def appendPairs (u : Url) (pairs : List (String × String)) : Url :=
  pairs.foldl (fun url p => url.appendPair p.1 p.2) u

theorem Written.appendPairs {a : Authority} (h : u.Written a) (pairs : List (String × String)) :
    (u.appendPairs pairs).Written a := by
  induction pairs generalizing u with
  | nil => exact h
  | cons pair pairs ih => exact ih (h.appendPair pair.1 pair.2)

theorem scheme_appendPairs (u : Url) (pairs : List (String × String)) :
    (u.appendPairs pairs).scheme = u.scheme := by
  induction pairs generalizing u with
  | nil => rfl
  | cons pair pairs ih => exact ih (u.appendPair pair.1 pair.2)

end Addresses

end Url

end StubConsole
