import StubConsole.Config
import StubConsole.Http.Wire
import StubConsole.Proofs.Url.Segments
import StubConsole.Proofs.Url.Servers

/-!
# Reading — the parts of a web address

Behind the scheme an address has slashes, a server and a path, up to the query.  Blanks count
between two characters, but not at the ends of an address.

* `Url.visible`, `Url.EndsVisibly` — what counts at the end of an address;
* `Url.splitTail_append` — path, query and fragment of what is appended;
* `Url.Lead` — slashes, server and path;
* `Url.parse_lead` — an address by these parts.
-/

namespace StubConsole

open Text

namespace Url

/-! ## What counts -/

section Visible

variable {front s : List Char}

/-- The characters that are not ignored. -/
def kept (s : List Char) : List Char := s.filter fun c => !isIgnored c

/-- What counts of the end of an address. -/
def visible (s : List Char) : List Char := kept (s.reverse.dropWhile isOuterBlank).reverse

/-- The last character that is not ignored is no blank either. -/
def EndsVisibly (s : List Char) : Prop := ∀ c ∈ (kept s).getLast?, 0x20 < c.toNat

@[simp] theorem kept_append (s t : List Char) : kept (s ++ t) = kept s ++ kept t :=
  List.filter_append ..

theorem clean_eq (s : List Char) : clean s = visible (s.dropWhile isOuterBlank) := rfl

theorem visible_sublist (s : List Char) : (visible s).Sublist s := by
  refine List.filter_sublist.trans ?_
  rw [← List.reverse_sublist, List.reverse_reverse]
  exact List.dropWhile_sublist _

theorem visible_cut (hfront : ∀ c ∈ front.getLast?, isOuterBlank c = false)
    {blanks : List Char} (hblanks : ∀ c ∈ blanks, isOuterBlank c = true) :
    visible (front ++ blanks) = kept front := by
  rw [visible, dropWhile_reverse_cut hfront hblanks]

theorem visible_append (hfront : ∀ c ∈ front.getLast?, isOuterBlank c = false) (s : List Char) :
    visible (front ++ s) = kept front ++ visible s := by
  rcases exists_cut_reverse isOuterBlank s with ⟨s', blanks, rfl, hs', hblanks⟩
  have hlast : ∀ c ∈ (front ++ s').getLast?, isOuterBlank c = false := by
    cases hcases : s'.getLast? with
    | none => simpa [List.getLast?_append, hcases] using hfront
    | some c => simpa [List.getLast?_append, hcases] using hs' c hcases
  rw [← List.append_assoc, visible_cut hlast hblanks, visible_cut hs' hblanks, kept_append]

/-- Blanks are all that does not count. -/
theorem exists_kept_eq (s : List Char) :
    ∃ blanks, kept s = visible s ++ blanks ∧ ∀ c ∈ blanks, c.toNat ≤ 0x20 := by
  rcases exists_cut_reverse isOuterBlank s with ⟨front, blanks, rfl, hfront, hblanks⟩
  refine ⟨kept blanks, by rw [visible_cut hfront hblanks, kept_append], fun c hc => ?_⟩
  simpa [isOuterBlank] using hblanks c (List.mem_of_mem_filter hc)

theorem kept_concat {c : Char} (hc : isOuterBlank c = false) (s : List Char) :
    kept (s ++ [c]) = kept s ++ [c] := by
  have hignored : isIgnored c = false := by
    rw [← Bool.not_eq_true]
    intro hignored
    simp only [isIgnored, Bool.or_eq_true, decide_eq_true_eq, or_assoc] at hignored
    rcases hignored with rfl | rfl | rfl
    all_goals cases hc
  simp [kept, hignored]

/-- A slash counts, wherever it stands. -/
theorem visible_slash (s more : List Char) :
    visible (s ++ '/' :: more) = kept s ++ '/' :: visible more := by
  have happend : s ++ '/' :: more = (s ++ ['/']) ++ more := by simp
  rw [happend, visible_append (by simp; rfl), kept_concat rfl, List.append_assoc]
  rfl

theorem endsVisibly_iff : EndsVisibly s ↔ kept s = visible s := by
  rcases exists_cut_reverse isOuterBlank s with ⟨front, blanks, rfl, hfront, hblanks⟩
  rw [EndsVisibly, visible_cut hfront hblanks, kept_append]
  refine ⟨fun hends => ?_, fun heq => ?_⟩
  -- all that is kept of the blanks are blanks, so the last of them would not count
  · rcases List.eq_nil_or_concat' (kept blanks) with hnil | ⟨more, c, hmore⟩
    · rw [hnil, List.append_nil]
    · have hc : c ∈ kept blanks := by simp [hmore]
      have hblank : c.toNat ≤ 0x20 := by
        simpa [isOuterBlank] using hblanks c (List.mem_of_mem_filter hc)
      have hvisible := hends c (by simp [hmore, ← List.append_assoc])
      omega
  · rw [heq]
    rcases List.eq_nil_or_concat' front with rfl | ⟨more, c, rfl⟩
    · exact fun c hc => nomatch hc
    · have hc := hfront c (by simp)
      rw [kept_concat hc]
      simpa [isOuterBlank] using hc

/-- Everything counts in a text without tabs and line ends that does not end with a blank. -/
theorem visible_eq_self_iff : visible s = s ↔
    (∀ c ∈ s, isIgnored c = false) ∧ ∀ c ∈ s.getLast?, isOuterBlank c = false := by
  refine ⟨fun h => ?_, fun ⟨hignored, hlast⟩ => ?_⟩
  · rcases exists_cut_reverse isOuterBlank s with ⟨front, blanks, rfl, hfront, hblanks⟩
    rw [visible_cut hfront hblanks] at h
    have hlength : (front ++ blanks).length ≤ front.length := by
      rw [← h]
      exact List.length_filter_le ..
    have hnil : blanks = [] := by
      rw [List.length_append] at hlength
      exact List.eq_nil_of_length_eq_zero (by omega)
    rw [hnil, List.append_nil] at h ⊢
    refine ⟨fun c hc => ?_, hfront⟩
    rw [← h] at hc
    simpa using (List.mem_filter.1 hc).2
  · have hcut : visible (s ++ []) = kept s := visible_cut hlast fun c hc => nomatch hc
    rw [List.append_nil] at hcut
    rw [hcut]
    exact List.filter_eq_self.2 fun c hc => by simp [hignored c hc]

/-- Either everything counts at the end of a text, where slashes may be left out, or blanks follow
what counts and nothing is left out. -/
theorem visible_cases (s : List Char) :
    (EndsVisibly s ∧ ∃ n, visible s = kept (dropSlashesEnd s) ++ List.replicate n '/')
      ∨ (¬EndsVisibly s ∧ ∃ front d, kept (dropSlashesEnd s) = visible s ++ (front ++ [d])
        ∧ ∀ c ∈ front ++ [d], c.toNat ≤ 0x20) := by
  rcases exists_slashes s with ⟨n, hn⟩
  by_cases hends : EndsVisibly s
  · refine .inl ⟨hends, n, ?_⟩
    have hslashes : kept (List.replicate n '/') = List.replicate n '/' :=
      List.filter_replicate_of_pos rfl
    rw [← endsVisibly_iff.1 hends, hn, kept_append, hslashes, ← hn]
  · rcases exists_kept_eq s with ⟨blanks, hblanks, hlow⟩
    rcases List.eq_nil_or_concat' blanks with rfl | ⟨front, d, rfl⟩
    · exact absurd (endsVisibly_iff.2 (by simpa using hblanks)) hends
    · refine .inr ⟨hends, front, d, ?_, hlow⟩
      -- a slash at the end would count
      cases n with
      | zero =>
          rw [List.replicate_zero, List.append_nil] at hn
          rw [← hn, hblanks]
      | succ n =>
          refine absurd (fun c hc => ?_) hends
          rw [hn, List.replicate_succ', ← List.append_assoc, kept_concat rfl,
            List.getLast?_concat] at hc
          cases hc
          decide

end Visible

/-! ## Scheme, query and fragment -/

section Parts

variable {scheme s t : List Char}

theorem isWeb_cases (h : WireRequest.isWebScheme scheme = true) :
    scheme = "http".toList ∨ scheme = "https".toList := by
  simpa [WireRequest.isWebScheme] using h

theorem isSpecial_of_isWeb (h : WireRequest.isWebScheme scheme = true) :
    isSpecial scheme = true := by
  rcases isWeb_cases h with rfl | rfl
  all_goals rfl

theorem readScheme?_web (h : WireRequest.isWebScheme scheme = true) (t : List Char) :
    readScheme? (scheme ++ ':' :: t) = some (scheme, t) := by
  rcases isWeb_cases h with rfl | rfl
  all_goals
    rw [readScheme?, splitAt?_cut (by decide)]
    rfl

/-- Only at its end a web address can hold what does not count. -/
theorem clean_web (h : WireRequest.isWebScheme scheme = true) (s : List Char) :
    clean (scheme ++ ':' :: s) = scheme ++ ':' :: visible s := by
  have happend : scheme ++ ':' :: s = (scheme ++ [':']) ++ s := by simp
  have hkept : kept (scheme ++ [':']) = scheme ++ [':'] := by
    rcases isWeb_cases h with rfl | rfl
    all_goals rfl
  have hblank : ((scheme ++ [':']) ++ s).dropWhile isOuterBlank = (scheme ++ [':']) ++ s := by
    rcases isWeb_cases h with rfl | rfl
    all_goals rfl
  rw [clean_eq, happend, hblank, visible_append (by simp; rfl), hkept, List.append_assoc]
  rfl

theorem endsVisibly_scheme (scheme s : List Char) :
    EndsVisibly (scheme ++ ':' :: s) ↔ EndsVisibly s := by
  have happend : scheme ++ ':' :: s = (scheme ++ [':']) ++ s := by simp
  rw [endsVisibly_iff, endsVisibly_iff, happend, visible_append (by simp; rfl), kept_append,
    List.append_cancel_left_eq]

/-- No query and no fragment starts in the text. -/
def NoMarks (s : List Char) : Prop := '?' ∉ s ∧ '#' ∉ s

instance (s : List Char) : Decidable (NoMarks s) := inferInstanceAs (Decidable (_ ∧ _))

theorem noMarks_append_low (h : NoMarks s) (hlow : ∀ c ∈ t, c.toNat ≤ 0x20) :
    NoMarks (s ++ t) := by
  have hne : ∀ d : Char, 0x20 < d.toNat → d ∉ t := fun d hd hmem =>
    Percent.ne_of_low (hlow d hmem) hd rfl
  simp [NoMarks, h.1, h.2, hne]

theorem splitTail_append (h : NoMarks s) (t : List Char) :
    splitTail (s ++ t) = (s ++ (splitTail t).1, (splitTail t).2) := by
  rw [splitTail, splitTail, splitAt?_append h.2]
  cases splitAt? '#' t with
  | none =>
      simp only [Option.map_none, splitAt?_append h.1]
      cases splitAt? '?' t <;> rfl
  | some cut =>
      simp only [Option.map_some, splitAt?_append h.1]
      cases splitAt? '?' cut.1 <;> rfl

theorem splitTail_of_noMarks (h : NoMarks s) : splitTail s = (s, none, none) := by
  simp only [splitTail, splitAt?_of_notMem h.2, splitAt?_of_notMem h.1]

theorem noMarks_of_splitTail (h : (splitTail s).2 = (none, none)) : NoMarks s := by
  rw [splitTail] at h
  cases hfragment : splitAt? '#' s with
  | none =>
      simp only [hfragment] at h
      cases hquery : splitAt? '?' s with
      | none => exact ⟨splitAt?_eq_none_iff.1 hquery, splitAt?_eq_none_iff.1 hfragment⟩
      | some cut => simp [hquery] at h
  | some cut =>
      simp only [hfragment] at h
      cases hquery : splitAt? '?' cut.1 <;> simp [hquery] at h

/-- The path is what stands in front of the first mark. -/
theorem exists_splitTail (s : List Char) :
    ∃ more, s = (splitTail s).1 ++ more ∧ (∀ c ∈ more.head?, c = '?' ∨ c = '#')
      ∧ NoMarks (splitTail s).1 := by
  rw [splitTail]
  cases hfragment : splitAt? '#' s with
  | none =>
      have hno := splitAt?_eq_none_iff.1 hfragment
      cases hquery : splitAt? '?' s with
      | none => exact ⟨[], by simp [hquery, NoMarks, splitAt?_eq_none_iff.1 hquery, hno]⟩
      | some cut =>
          rcases splitAt?_eq_some hquery with ⟨hs, hpath⟩
          refine ⟨'?' :: cut.2, by simpa [hquery] using hs, by simp, ?_⟩
          simpa [hquery] using ⟨hpath, fun h => hno (by rw [hs]; simp [h])⟩
  | some cut =>
      rcases splitAt?_eq_some hfragment with ⟨hs, hno⟩
      cases hquery : splitAt? '?' cut.1 with
      | none =>
          refine ⟨'#' :: cut.2, by simpa [hquery] using hs, by simp, ?_⟩
          simpa [hquery] using ⟨splitAt?_eq_none_iff.1 hquery, hno⟩
      | some path =>
          rcases splitAt?_eq_some hquery with ⟨hfront, hpath⟩
          refine ⟨'?' :: path.2 ++ '#' :: cut.2, ?_, by simp, ?_⟩
          · simp only [hquery]
            rw [hs, hfront, List.append_assoc, List.cons_append]
          · simpa [hquery] using ⟨hpath, fun h => hno (by rw [hfront]; simp [h])⟩

end Parts

/-! ## Slashes, server and path -/

/-- A text behind a scheme: slashes, a server, and a path that needs one. -/
structure Lead (text slashes server tail : List Char) : Prop where
  text_eq : text = slashes ++ (server ++ tail)
  isSlash : ∀ c ∈ slashes, c = '/' ∨ c = '\\'
  inServer : ∀ c ∈ server, endsAuthority true c = false
  beginsPath : BeginsPath tail
  tail_nil : server = [] → tail = []

section Hierarchy

variable {scheme text slashes server tail more : List Char}

theorem exists_lead (h : NoMarks text) : ∃ slashes server tail, Lead text slashes server tail := by
  rcases exists_cut (fun c => c = '/' || c = '\\') text with ⟨slashes, rest, rfl, hslashes, hrest⟩
  rcases exists_cut (fun c => !endsAuthority true c) rest with ⟨server, tail, rfl, hserver, htail⟩
  have hbegins : BeginsPath tail := by
    intro c hc
    have hmem : c ∈ slashes ++ (server ++ tail) := by simp [List.mem_of_mem_head? hc]
    have hquery : c ≠ '?' := fun heq => h.1 (heq ▸ hmem)
    have hfragment : c ≠ '#' := fun heq => h.2 (heq ▸ hmem)
    simpa [endsAuthority, hquery, hfragment, or_iff_not_imp_left] using htail c hc
  refine ⟨slashes, server, tail, rfl, by simpa using hslashes, by simpa using hserver, hbegins, ?_⟩
  rintro rfl
  cases tail with
  | nil => rfl
  | cons c tail =>
      have hslash : (decide (c = '/') || decide (c = '\\')) = false := hrest c rfl
      rcases hbegins c rfl with rfl | rfl
      all_goals cases hslash

theorem Lead.append (h : Lead text slashes server tail) (hserver : server ≠ [])
    (hmore : BeginsPath more) : Lead (text ++ more) slashes server (tail ++ more) where
  text_eq := by simp [h.text_eq]
  isSlash := h.isSlash
  inServer := h.inServer
  beginsPath := beginsPath_append h.beginsPath hmore
  tail_nil := fun hnil => absurd hnil hserver

/-- Blanks behind a server belong to its name. -/
theorem Lead.append_server (h : Lead text slashes server []) (hserver : server ≠ [])
    (hlow : ∀ c ∈ more, c.toNat ≤ 0x20) : Lead (text ++ more) slashes (server ++ more) [] where
  text_eq := by simp [h.text_eq]
  isSlash := h.isSlash
  inServer := by
    intro c hc
    rcases List.mem_append.1 hc with hc | hc
    · exact h.inServer c hc
    · have hne : ∀ d : Char, 0x20 < d.toNat → c ≠ d := fun d => Percent.ne_of_low (hlow c hc)
      simp [endsAuthority, hne]
  beginsPath := h.beginsPath
  tail_nil := fun hnil => absurd (List.append_eq_nil_iff.1 hnil).1 hserver

/-- Blanks behind a path belong to it. -/
theorem Lead.append_tail {c : Char} (h : Lead text slashes server (c :: tail)) (more : List Char) :
    Lead (text ++ more) slashes server (c :: tail ++ more) where
  text_eq := by simp [h.text_eq]
  isSlash := h.isSlash
  inServer := h.inServer
  beginsPath := h.beginsPath
  tail_nil := fun hnil => absurd (h.tail_nil hnil) (List.cons_ne_nil c tail)

theorem readHierarchy_lead (hweb : WireRequest.isWebScheme scheme = true)
    (h : Lead text slashes server tail) :
    readHierarchy scheme text
      = (readAuthority scheme server).map fun a => (some a, readPathAfterHost true tail) := by
  have hfile : isFile scheme = false := by
    rcases isWeb_cases hweb with rfl | rfl
    all_goals rfl
  have hrest : text.dropWhile (fun c => c = '/' || c = '\\') = server ++ tail := by
    rw [h.text_eq]
    refine dropWhile_cut (by simpa using h.isSlash) fun c hc => ?_
    cases server with
    | nil => simp [h.tail_nil rfl] at hc
    | cons d server =>
        have hd : d = c := by simpa using hc
        have hserver := h.inServer d List.mem_cons_self
        simp only [endsAuthority, Bool.true_and, Bool.or_eq_false_iff] at hserver
        rw [← hd, hserver.1.1.1, hserver.2]
        rfl
  have hends : ∀ c ∈ tail.head?, (!endsAuthority true c) = false := by
    intro c hc
    rcases h.beginsPath c hc with rfl | rfl
    all_goals rfl
  have hserver : ∀ c ∈ server, (!endsAuthority true c) = true := by simpa using h.inServer
  unfold readHierarchy
  rw [hfile, isSpecial_of_isWeb hweb, if_neg (by simp), if_pos rfl]
  simp only [hrest, takeWhile_cut hserver hends, dropWhile_cut hserver hends]
  cases readAuthority scheme server <;> rfl

end Hierarchy

/-! ## Addresses -/

section Addresses

variable {scheme s t text slashes server tail : List Char} {u : Url}

/-- A web address by its server and what follows: a path, and the texts of query and fragment. -/
def ofParts (scheme tail : List Char) (marks : Option (List Char) × Option (List Char))
    (server : Authority) : Url where
  scheme := scheme
  authority := some server
  path := readPathAfterHost true tail
  query := marks.1.map (Percent.encode Percent.specialQuery)
  fragment := marks.2.map (Percent.encode Percent.fragment)

theorem parse_lead (hweb : WireRequest.isWebScheme scheme = true)
    (hclean : clean s = scheme ++ ':' :: t) (h : Lead (splitTail t).1 slashes server tail) :
    parse s = (readAuthority scheme server).map (ofParts scheme tail (splitTail t).2) := by
  simp only [parse, hclean, readScheme?_web hweb, readHierarchy_lead hweb h,
    isSpecial_of_isWeb hweb, if_true]
  cases readAuthority scheme server <;> rfl

theorem noMarks_of_parse (hweb : WireRequest.isWebScheme scheme = true)
    (hclean : clean s = scheme ++ ':' :: t) (hparse : parse s = .ok u) (hquery : u.query = none)
    (hfragment : u.fragment = none) : NoMarks t := by
  refine noMarks_of_splitTail ?_
  simp only [parse, hclean, readScheme?_web hweb] at hparse
  cases hparts : readHierarchy scheme (splitTail t).1 with
  | error cause => simp [hparts, bind, Except.bind] at hparse
  | ok parts =>
      simp only [hparts, bind, Except.bind, pure, Except.pure, Except.ok.injEq] at hparse
      subst hparse
      exact Prod.ext (Option.map_eq_none_iff.1 hquery) (Option.map_eq_none_iff.1 hfragment)

/-- The server of an address that can be read, also when slashes behind it are left out. -/
theorem exists_lead_of_parse (hweb : WireRequest.isWebScheme scheme = true) {n : Nat}
    (hclean : clean s = scheme ++ ':' :: (text ++ List.replicate n '/')) (hparse : parse s = .ok u)
    (hquery : u.query = none) (hfragment : u.fragment = none) :
    ∃ slashes server tail a, NoMarks text ∧ Lead text slashes server tail ∧ server ≠ []
      ∧ readAuthority scheme server = .ok a
      ∧ u = ofParts scheme (tail ++ List.replicate n '/') (none, none) a := by
  have hspecial := isSpecial_of_isWeb hweb
  have hmarks := noMarks_of_parse hweb hclean hparse hquery hfragment
  have htext : NoMarks text :=
    ⟨fun h => hmarks.1 (List.mem_append_left _ h), fun h => hmarks.2 (List.mem_append_left _ h)⟩
  have hsplit := splitTail_of_noMarks hmarks
  rcases exists_lead htext with ⟨slashes, server, tail, hlead⟩
  have hserver : server ≠ [] := by
    rintro rfl
    -- slashes alone lead to no server
    have hslashes : Lead (text ++ List.replicate n '/') (slashes ++ List.replicate n '/') [] [] := {
      text_eq := by simp [hlead.text_eq, hlead.tail_nil rfl]
      isSlash := by
        intro c hc
        rcases List.mem_append.1 hc with hc | hc
        · exact hlead.isSlash c hc
        · exact .inl (List.eq_of_mem_replicate hc)
      inServer := fun c hc => nomatch hc
      beginsPath := fun c hc => nomatch hc
      tail_nil := fun _ => rfl }
    rw [parse_lead hweb hclean (by rwa [hsplit]), readAuthority_nil hspecial] at hparse
    cases hparse
  have hall := hlead.append hserver (beginsPath_slashes n)
  rw [parse_lead hweb hclean (by rwa [hsplit]), hsplit] at hparse
  cases ha : readAuthority scheme server with
  | error cause => simp [ha, Except.map] at hparse
  | ok a =>
      rw [ha] at hparse
      exact ⟨slashes, server, tail, a, htext, hlead, hserver, ha, (Except.ok.inj hparse).symm⟩

/-- An accepted address is one of the web. -/
theorem exists_of_checkUrl {base : String} (h : checkUrl base = .ok ()) :
    ∃ scheme rest b, WireRequest.isWebScheme scheme = true ∧ base.toList = scheme ++ ':' :: rest
      ∧ parse base.toList = .ok b := by
  rw [checkUrl] at h
  split at h
  · cases h
  split at h
  · cases h
  next hscheme =>
    split at h
    next b hparse =>
      rw [Bool.and_eq_true, Bool.not_eq_true', Bool.not_eq_true', not_and_or, Bool.not_eq_false,
        Bool.not_eq_false] at hscheme
      rcases hscheme with hhttp | hhttps
      · rcases exists_of_startsWith hhttp with ⟨rest, hrest⟩
        exact ⟨"http".toList, _, b, rfl, hrest, hparse⟩
      · rcases exists_of_startsWith hhttps with ⟨rest, hrest⟩
        exact ⟨"https".toList, _, b, rfl, hrest, hparse⟩
    next => cases h

end Addresses

end Url

end StubConsole
