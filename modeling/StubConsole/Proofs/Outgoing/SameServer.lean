import Mathlib.Data.List.Basic
import StubConsole.Editor
import StubConsole.Proofs.Json.Delivered
import StubConsole.Proofs.Url.Written

/-!
# SameServer — a stub that is tried stays with the mock server

The address of a request is put together from two texts that a user types, the base and the address
of the stub, and is read as a whole.  A slash stands between them, so nothing of the second text
can belong to the server; blanks that stood behind the base are no part of any server.

* `Url.exists_joinPath` — base and path with the slash between them;
* `Url.serverOf_joinPath` — the server of both is the one of the base;
* `addressOf_sameServer` — the address of a request, with its parameters;
* `StubKind.outgoing_sameServer` — requests of all kinds of stubs.
-/

namespace StubConsole

open Text
open Json (exists_of_bind_eq_ok)

namespace Url

section JoinPath

variable {scheme rest path : List Char} {a a' : Authority}

theorem exists_joinPath (hpath : path ≠ []) (scheme rest : List Char) :
    ∃ more, joinPath (scheme ++ ':' :: rest) path
      = scheme ++ ':' :: (dropSlashesEnd rest ++ '/' :: more) := by
  have hslash : ∃ more, (if path.isEmpty || path.head? = some '/' then path else '/' :: path)
      = '/' :: more := by
    cases path with
    | nil => exact absurd rfl hpath
    | cons c path =>
        by_cases hc : c = '/'
        · exact ⟨path, by simp [hc]⟩
        · exact ⟨c :: path, by simp [hc]⟩
  rcases hslash with ⟨more, hmore⟩
  refine ⟨more, ?_⟩
  rw [joinPath, dropSlashesEnd_append _ _ (by decide), hmore, List.append_assoc, List.cons_append]

theorem serverOf_ne_nil (hweb : WireRequest.isWebScheme scheme = true) {t : List Char}
    (h : readAuthority scheme (serverOf t) = .ok a) : serverOf t ≠ [] := by
  intro hnil
  rw [hnil, readAuthority_nil (isSpecial_of_isWeb hweb)] at h
  cases h

/-- If base and path together name a server, it is the one that the base names. -/
theorem serverOf_joinPath (hweb : WireRequest.isWebScheme scheme = true) (more : List Char)
    (hbase : readAuthority scheme (serverOf (visible rest)) = .ok a)
    (hall : readAuthority scheme (serverOf (kept (dropSlashesEnd rest) ++ '/' :: more)) = .ok a') :
    serverOf (kept (dropSlashesEnd rest) ++ '/' :: more) = serverOf (visible rest) := by
  have hserver := serverOf_ne_nil hweb hbase
  rcases visible_cases rest with ⟨-, n, hvisible⟩ | ⟨-, front, d, hkept, hlow⟩
  · -- slashes were left out at the end of the base, and one is put back
    rw [hvisible, serverOf_append_slashes] at hserver ⊢
    rcases serverOf_append (kept (dropSlashesEnd rest)) ('/' :: more) with hsame | hmore | hlater
    · exact hsame
    · rw [hmore]
      exact List.append_nil _
    · exact absurd hlater.1 hserver
  · -- blanks were left out, and would belong to the server
    have hblanks : (front ++ [d] ++ '/' :: more).takeWhile (fun c => !endsAuthority true c)
        = front ++ [d] := by
      refine takeWhile_cut (fun c hc => ?_) (by simp [endsAuthority])
      have hne : ∀ e : Char, 0x20 < e.toNat → c ≠ e := fun e => Percent.ne_of_low (hlow c hc)
      simp [endsAuthority, hne]
    rw [hkept, List.append_assoc] at hall ⊢
    rcases serverOf_append (visible rest) (front ++ [d] ++ '/' :: more) with hsame | hmore | hlater
    · exact hsame
    · rw [hmore, hblanks, ← List.append_assoc] at hall
      rcases readAuthority_concat_low (isSpecial_of_isWeb hweb) (hlow d (by simp))
        (serverOf (visible rest) ++ front) with ⟨cause, hcause⟩
      rw [hcause] at hall
      cases hall
    · exact absurd hlater.1 hserver

end JoinPath

end Url

/-! ## Addresses of requests -/

section Addresses

variable {base path : String} {parameters : SortedMap String} {u : Url} {a : Authority}

/-- The address of a request speaks to the server of the base. -/
theorem addressOf_sameServer (hbase : checkUrl base = .ok ()) (hpath : path ≠ "")
    (h : addressOf base path parameters = .ok u) :
    ∃ b a, Url.parse base.toList = .ok b ∧ b.Written a ∧ u.Written a ∧ u.scheme = b.scheme := by
  rcases Url.exists_of_checkUrl hbase with ⟨scheme, rest, b, hweb, hchars, hparse⟩
  have hpath : path.toList ≠ [] := by simpa using hpath
  rcases Url.exists_joinPath hpath scheme rest with ⟨more, hjoin⟩
  rw [← hchars] at hjoin
  rcases exists_of_bind_eq_ok h with ⟨joined, hjoined, hpairs⟩
  obtain rfl := Except.ok.inj hpairs
  have hclean : Url.clean base.toList = scheme ++ ':' :: Url.visible rest := by
    rw [hchars, Url.clean_web hweb]
  have hcleanAll : Url.clean (joinPath base.toList path.toList)
      = scheme ++ ':' :: (Url.kept (dropSlashesEnd rest) ++ '/' :: Url.visible more) := by
    rw [hjoin, Url.clean_web hweb, Url.visible_slash]
  rcases Url.exists_written_of_parse hweb hclean hparse with ⟨a, ha, hscheme, hwritten⟩
  rcases Url.exists_written_of_parse hweb hcleanAll hjoined with ⟨a', ha', hscheme', hwritten'⟩
  have hserver := Url.serverOf_joinPath hweb _ ha ha'
  obtain rfl : a = a' := by
    rw [hserver, ha] at ha'
    exact Except.ok.inj ha'
  exact ⟨b, a, hparse, hwritten, hwritten'.appendPairs _,
    (Url.scheme_appendPairs joined _).trans (hscheme'.trans hscheme.symm)⟩

end Addresses

/-! ## Requests of stubs -/

theorem GraphQlStub.urlText_of_outgoing {s : GraphQlStub} {base : String} {request : Outgoing}
    (h : s.outgoing base = .ok request) : urlText base "/graphql" ∅ = .ok request.url := by
  rw [outgoing] at h
  split at h
  · rcases exists_of_bind_eq_ok h with ⟨bindings, -, h⟩
    rcases exists_of_bind_eq_ok h with ⟨url, hurl, hrequest⟩
    obtain rfl := Except.ok.inj hrequest
    exact hurl
  · split at h
    · rcases exists_of_bind_eq_ok h with ⟨bindings, -, h⟩
      rcases exists_of_bind_eq_ok h with ⟨url, hurl, hrequest⟩
      obtain rfl := Except.ok.inj hrequest
      exact hurl
    · cases h

namespace StubKind

variable {base : String} {request : Outgoing}

/-- The address of every request is put together from the base and a path. -/
theorem exists_urlText (kind : StubKind) (item : kind.Item)
    (h : kind.outgoing base item = .ok request) :
    ∃ path parameters, path ≠ "" ∧ urlText base path parameters = .ok request.url := by
  match kind with
  | .rest =>
      rw [outgoing, Stub.outgoing] at h
      split at h
      · cases h
      split at h
      · cases h
      next urlKind value _ hvalue =>
        split at h
        · cases h
        · rcases exists_of_bind_eq_ok h with ⟨url, hurl, hrequest⟩
          obtain rfl := Except.ok.inj hrequest
          exact ⟨value, _, hvalue, hurl⟩
  | .graphQl =>
      exact ⟨"/graphql", ∅, by decide, GraphQlStub.urlText_of_outgoing h⟩
  | .soap =>
      rcases exists_of_bind_eq_ok h with ⟨url, hurl, hrequest⟩
      obtain rfl := Except.ok.inj hrequest
      exact ⟨_, _, by decide, hurl⟩

/-- A stub that is tried is sent to the server that the base names, whatever its address and its
parameters say. -/
theorem outgoing_sameServer (kind : StubKind) (item : kind.Item) (base : String)
    (request : Outgoing) (hbase : checkUrl base = .ok ())
    (h : kind.outgoing base item = .ok request) :
    ∃ b u host,
      Url.parse base.toList = .ok b ∧ Url.parse request.url.toList = .ok u ∧
      u.scheme = b.scheme ∧
      b.host? = some host ∧ u.host? = some host ∧
      u.port? = b.port? ∧
      ∀ wire, request.onWire? = some wire →
        wire.origin = String.ofList (WireRequest.originText b) := by
  rcases exists_urlText kind item h with ⟨path, parameters, hpath, hurl⟩
  rw [urlText] at hurl
  split at hurl
  next u haddress =>
    rcases addressOf_sameServer hbase hpath haddress with ⟨b, a, hparse, hb, hu, hscheme⟩
    rcases hu.parse_text with ⟨v, hv, hvscheme, hvserver⟩
    have hread : Url.parse request.url.toList = .ok v := by
      rw [← Except.ok.inj hurl, String.toList_ofList, hv]
    have hsame : v.authority = b.authority := by
      rw [hvserver, hu.authority_eq, hb.authority_eq]
    have hsolid : a.host.isEmpty = false := by simpa using Url.host_ne_nil hb.server.host
    have hhost : b.host? = some a.host := by simp [Url.host?, hb.authority_eq, hsolid]
    refine ⟨b, v, a.host, hparse, hread, hvscheme.trans hscheme, hhost, ?_, ?_, ?_⟩
    · rw [← hhost, Url.host?, Url.host?, hsame]
    · rw [Url.port?, Url.port?, hsame]
    · intro wire hwire
      simp only [Outgoing.onWire?, hread, Option.ite_none_right_eq_some] at hwire
      obtain rfl := Option.some.inj hwire.2
      rw [WireRequest.originText, WireRequest.originText, hsame, hvscheme, hscheme]
  next => cases hurl

/-- A stub whose address looks like that of another server, and a parameter that does too. -/
def straying : Stub :=
  { Stub.fresh with
    request := { Stub.fresh.request with
      urlPath := some "\\\\evil.test:1\t/@other/../x"
      queryParameters := SortedMap.ofList [("@", .ofValue "//evil.test")] } }

theorem outgoing_sameServer_straying :
    let base := "http://User:pw@Mock.Test:8080"
    checkUrl base = .ok () ∧
    ∃ request u, StubKind.rest.outgoing base straying = .ok request ∧
      Url.parse request.url.toList = .ok u ∧
      u.host? = some "mock.test".toList ∧ u.port? = some 8080 := by
  have hbase : checkUrl "http://User:pw@Mock.Test:8080" = .ok () := by decide +kernel
  have hserver : (Url.parse "http://User:pw@Mock.Test:8080".toList).map
      (fun b => (b.host?, b.port?)) = .ok (some "mock.test".toList, some 8080) := by
    decide +kernel
  have hsent : (StubKind.rest.outgoing "http://User:pw@Mock.Test:8080" straying).map (·.url)
      = .ok "http://User:pw@mock.test:8080///evil.test:1/x?%40=%2F%2Fevil.test" := by
    decide +kernel
  cases hrequest : StubKind.rest.outgoing "http://User:pw@Mock.Test:8080" straying with
  | error cause => simp [hrequest, Except.map] at hsent
  | ok request =>
      rcases outgoing_sameServer .rest straying _ request hbase hrequest with
        ⟨b, u, host, hb, hu, -, hhost, huhost, huport, -⟩
      simp only [hb, Except.map, Except.ok.injEq, Prod.mk.injEq] at hserver
      refine ⟨hbase, request, u, hrequest, hu, ?_, ?_⟩
      · rw [huhost, ← hhost, hserver.1]
      · rw [huport, hserver.2]

end StubKind

end StubConsole
