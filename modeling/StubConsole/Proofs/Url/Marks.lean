import StubConsole.Proofs.Url.Written

/-!
# Marks — where the query of an address starts

Nothing in front of the query is written with a question mark or a number sign: where one was
typed it is encoded, or ended the part.  So the query of any address, of whatever scheme, starts at
the first question mark of its text.

* `Url.front` — the text of an address up to its query;
* `Url.noMarks_of_readHierarchy` — servers and paths;
* `Url.marks_of_parse` — addresses without marks have neither query nor fragment;
* `Url.noMarks_front_of_parse` — what is written in front of the query.
-/

namespace StubConsole

open Text
open Json (exists_of_bind_eq_ok)

namespace Url

section Marks

variable {scheme s path : List Char} {u : Url} {authority : Option Authority}

theorem noMarks_of_forall (h : ∀ c ∈ s, c ≠ '?' ∧ c ≠ '#') : NoMarks s :=
  ⟨fun hmem => (h _ hmem).1 rfl, fun hmem => (h _ hmem).2 rfl⟩

theorem NoMarks.ne (h : NoMarks s) {c : Char} (hc : c ∈ s) : c ≠ '?' ∧ c ≠ '#' :=
  ⟨fun heq => h.1 (heq ▸ hc), fun heq => h.2 (heq ▸ hc)⟩

theorem NoMarks.of_subset {t : List Char} (h : NoMarks s) (hsubset : t ⊆ s) : NoMarks t :=
  ⟨fun hmem => h.1 (hsubset hmem), fun hmem => h.2 (hsubset hmem)⟩

theorem noMarks_append {t : List Char} (hs : NoMarks s) (ht : NoMarks t) : NoMarks (s ++ t) :=
  ⟨by simp [hs.1, ht.1], by simp [hs.2, ht.2]⟩

theorem noMarks_encode {special : Char → Bool}
    (h : ∀ c ∈ s, special c = false → c ≠ '?' ∧ c ≠ '#') : NoMarks (Percent.encode special s) :=
  noMarks_of_forall fun c hc => by
    rcases Percent.mem_encode hc with (rfl | hhex) | ⟨hmem, hplain⟩
    · decide
    · simpa using Percent.of_isHex (p := fun c => c ≠ '?' && c ≠ '#') (by decide) hhex
    · exact h c hmem hplain

/-! ## Hosts -/

theorem noMarks_of_written {host : List Char} (h : Host.Written host) : NoMarks host :=
  noMarks_of_forall fun c hc => by
    rcases standsInServer_iff.1 (standsInServer_of_mem_host h hc) with ⟨-, hends, -⟩
    exact ⟨ne_of_test hends rfl, ne_of_test hends rfl⟩

theorem noMarks_of_readHost {host : List Char} (h : readHost scheme s = .ok host) :
    NoMarks host := by
  rw [readHost] at h
  split at h
  · split at h
    · cases h
    · exact noMarks_of_written (Host.written_of_read h)
  · rw [Host.readOpaque] at h
    split at h
    · rcases Host.exists_of_readBracketed h with ⟨numbers, hlength, hlt, rfl⟩
      exact noMarks_of_written (.eight hlength hlt)
    split at h
    · cases h
    next hallowed =>
      obtain rfl := Except.ok.inj h
      rw [Bool.not_eq_true, List.any_eq_false] at hallowed
      refine noMarks_encode fun c hc _ => ?_
      have hplain := Bool.eq_false_iff.2 (hallowed c hc)
      exact ⟨ne_of_test hplain (by decide), ne_of_test hplain (by decide)⟩

theorem noMarks_of_readAuthority {a : Authority} (h : readAuthority scheme s = .ok a) :
    NoMarks (Authority.text a) := by
  rcases Authority.exists_readFrom h with ⟨info, host, hfrom⟩
  have hhost := noMarks_of_readHost hfrom.host
  refine noMarks_of_forall fun c hc => ?_
  rcases Authority.mem_text hfrom.user hc with hinfo | rfl | rfl | hmem | hdigit
  · exact ⟨ne_of_test hinfo rfl, ne_of_test hinfo rfl⟩
  · decide
  · decide
  · exact hhost.ne hmem
  · have hplain := (Host.small_of_isDigit hdigit).2
    exact ⟨ne_of_test hplain (by decide), ne_of_test hplain (by decide)⟩

theorem noMarks_readPath {special : Bool} (s : List Char) :
    NoMarks (readPathAfterHost special s) ∧ NoMarks (readPath special s) := by
  have hplain : ∀ c : Char, c = '/' ∨ Percent.path c = false → c ≠ '?' ∧ c ≠ '#' := by
    rintro c (rfl | hc)
    · decide
    · exact ⟨ne_of_test hc rfl, ne_of_test hc rfl⟩
  exact ⟨noMarks_of_forall fun c hc => hplain c (mem_readPathAfterHost hc),
    noMarks_of_forall fun c hc => hplain c (mem_readPath hc)⟩

/-! ## Servers and paths -/

/-- Server and path of an address are written without question marks and number signs. -/
structure NoMarksIn (authority : Option Authority) (path : List Char) : Prop where
  server : ∀ a ∈ authority, NoMarks (Authority.text a)
  path : NoMarks path

theorem noMarks_of_readFile (h : readFile s = .ok (authority, path)) :
    NoMarksIn authority path := by
  have hserver : ∀ host, NoMarks host →
      ∀ a ∈ some (⟨[], none, host, none⟩ : Authority), NoMarks (Authority.text a) := by
    rintro host hhost a ⟨⟩
    simpa [Authority.text] using hhost
  have hempty : NoMarks [] := by decide
  have hlocal : ∀ {host}, NoMarks host →
      NoMarks (if host = "localhost".toList then [] else host) := by
    intro host hhost
    split
    · exact hempty
    · exact hhost
  rw [readFile.eq_def] at h
  dsimp only at h
  split at h
  next first second rest =>
    split at h
    · split at h
      · obtain ⟨rfl, rfl⟩ := Prod.mk.inj (Except.ok.inj h)
        exact ⟨hserver [] hempty, (noMarks_readPath rest).2⟩
      split at h
      · rcases exists_of_bind_eq_ok h with ⟨written, hwritten, hrest⟩
        obtain rfl := Except.ok.inj hwritten
        obtain ⟨rfl, rfl⟩ := Prod.mk.inj (Except.ok.inj hrest)
        exact ⟨hserver _ (hlocal hempty), (noMarks_readPath _).1⟩
      · rcases exists_of_bind_eq_ok h with ⟨written, hwritten, hrest⟩
        obtain ⟨rfl, rfl⟩ := Prod.mk.inj (Except.ok.inj hrest)
        have hhost := noMarks_of_written (Host.written_of_read hwritten)
        exact ⟨hserver _ (hlocal hhost), (noMarks_readPath _).1⟩
    · obtain ⟨rfl, rfl⟩ := Prod.mk.inj (Except.ok.inj h)
      exact ⟨hserver [] hempty, (noMarks_readPath _).1⟩
  next =>
    obtain ⟨rfl, rfl⟩ := Prod.mk.inj (Except.ok.inj h)
    exact ⟨hserver [] hempty, (noMarks_readPath _).1⟩

theorem noMarks_of_readHierarchy (hs : NoMarks s)
    (h : readHierarchy scheme s = .ok (authority, path)) : NoMarksIn authority path := by
  have hserver : ∀ {text : List Char} {a : Authority}, readAuthority scheme text = .ok a →
      ∀ b ∈ some a, NoMarks (Authority.text b) := by
    rintro text a ha b ⟨⟩
    exact noMarks_of_readAuthority ha
  rw [readHierarchy.eq_def] at h
  split at h
  · exact noMarks_of_readFile h
  split at h
  · rcases exists_of_bind_eq_ok h with ⟨a, ha, hrest⟩
    obtain ⟨rfl, rfl⟩ := Prod.mk.inj (Except.ok.inj hrest)
    exact ⟨hserver ha, (noMarks_readPath _).1⟩
  split at h
  · rcases exists_of_bind_eq_ok h with ⟨a, ha, hrest⟩
    obtain ⟨rfl, rfl⟩ := Prod.mk.inj (Except.ok.inj hrest)
    exact ⟨hserver ha, (noMarks_readPath _).1⟩
  · obtain ⟨rfl, rfl⟩ := Prod.mk.inj (Except.ok.inj h)
    exact ⟨(fun _ hnone => nomatch hnone), (noMarks_readPath _).2⟩
  · obtain ⟨rfl, rfl⟩ := Prod.mk.inj (Except.ok.inj h)
    exact ⟨(fun _ hnone => nomatch hnone), noMarks_encode fun c hc _ => hs.ne hc⟩

/-! ## Addresses -/

theorem noMarks_of_readScheme? {rest : List Char} (h : readScheme? s = some (scheme, rest)) :
    NoMarks scheme := by
  rw [readScheme?] at h
  split at h
  · cases h
  dsimp only at h
  split at h
  next hplain =>
    obtain ⟨rfl, rfl⟩ := Prod.mk.inj (Option.some.inj h)
    rw [Bool.and_eq_true, List.all_eq_true] at hplain
    refine noMarks_of_forall fun c hc => ?_
    rcases List.mem_map.1 hc with ⟨d, hd, rfl⟩
    have hletter := hplain.2 d hd
    -- only a letter has a small form of its own
    by_cases hupper : d.isUpper = true
    · have hbounds := toNat_of_isUpper hupper
      have hlower := toNat_toLower_of_isUpper hupper
      have hne : ∀ e : Char, e.toNat < 97 → d.toLower ≠ e := fun e he heq => by
        rw [← heq] at he
        omega
      exact ⟨hne '?' (by decide), hne '#' (by decide)⟩
    · rw [toLower_of_not_isUpper (Bool.eq_false_iff.2 hupper)]
      constructor
      · rintro rfl
        revert hletter
        decide
      · rintro rfl
        revert hletter
        decide
  next => cases h

theorem clean_subset (s : List Char) : clean s ⊆ s := by
  rw [clean_eq]
  exact List.Subset.trans (visible_sublist _).subset (List.dropWhile_sublist _).subset

/-- Query and fragment start with a mark. -/
theorem marks_of_parse (hs : NoMarks s) (h : parse s = .ok u) :
    u.query = none ∧ u.fragment = none := by
  rw [parse] at h
  split at h
  · cases h
  next scheme rest hscheme =>
    have hrest : NoMarks rest := by
      refine (hs.of_subset (clean_subset s)).of_subset ?_
      rw [readScheme?] at hscheme
      split at hscheme
      · cases hscheme
      next front behind hcut =>
        dsimp only at hscheme
        split at hscheme
        · obtain ⟨-, rfl⟩ := Prod.mk.inj (Option.some.inj hscheme)
          rw [(splitAt?_eq_some hcut).1]
          simp
        · cases hscheme
    rw [splitTail_of_noMarks hrest] at h
    rcases exists_of_bind_eq_ok h with ⟨parts, -, hparts⟩
    obtain rfl := Except.ok.inj hparts
    exact ⟨rfl, rfl⟩

/-- The address up to its query. -/
def front (u : Url) : List Char :=
  let server := match u.authority with
    | some a => ['/', '/'] ++ Authority.text a
    | none => if u.path.take 2 = ['/', '/'] then ['/', '.'] else []
  u.scheme ++ [':'] ++ server ++ u.path

/-- No question mark and no number sign is written in front of the query. -/
theorem noMarks_front_of_parse (h : parse s = .ok u) : NoMarks u.front := by
  rw [parse] at h
  split at h
  · cases h
  next scheme rest hscheme =>
    rcases exists_of_bind_eq_ok h with ⟨⟨authority, path⟩, hparts, hrest⟩
    rcases exists_splitTail rest with ⟨-, -, -, hmarks⟩
    have hwritten := noMarks_of_readHierarchy hmarks hparts
    obtain rfl := Except.ok.inj hrest
    have hcolon : NoMarks [':'] := by decide
    have hlead := noMarks_append (noMarks_of_readScheme? hscheme) hcolon
    refine noMarks_append (noMarks_append hlead ?_) hwritten.path
    dsimp only
    split
    next a => exact noMarks_append (by decide) (hwritten.server a rfl)
    next =>
      split
      · decide
      · decide

end Marks

end Url

end StubConsole
