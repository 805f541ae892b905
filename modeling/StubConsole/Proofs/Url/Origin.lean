import StubConsole.Proofs.Url.Written

/-!
# Origin — the server of an address and nothing else

Where no mock server is set, it is taken to answer at the origin of the admin API.  An origin is an
address itself: it has the scheme, the host and the port of the address it comes from, but no user,
path, query or fragment.

* `Authority.anonymous` — a server without its user;
* `IsOrigin` — a text that is the origin of an address;
* `isOrigin_originOf` — every accepted address has an origin, and `originOf` finds it.
-/

namespace StubConsole

open Text

/-! ## Servers without a user -/

namespace Authority

variable {scheme : List Char} {a : Authority}

def anonymous (a : Authority) : Authority := { a with username := [], password := none }

theorem Written.anonymous (h : a.Written scheme) : a.anonymous.Written scheme where
  username := fun _ hc => absurd hc List.not_mem_nil
  password := fun _ hp => nomatch hp
  host := h.host
  port := h.port

end Authority

/-- The text is written as scheme, host and port of the address, and it is read as an address of
that server with nothing else in it. -/
def IsOrigin (address origin : String) : Prop :=
  ∃ u host, Url.parse address.toList = .ok u ∧ u.host? = some host ∧
    origin.toList = u.scheme ++ "://".toList ++ host
      ++ (match u.port? with
        | none => []
        | some n => ':' :: decimal n) ∧
    Url.parse origin.toList = .ok ⟨u.scheme, some ⟨[], none, host, u.port?⟩, ['/'], none, none⟩

namespace Url

variable {u : Url} {a : Authority}

theorem Written.host?_eq (h : u.Written a) : u.host? = some a.host := by
  have hhost : a.host.isEmpty = false := by simpa using host_ne_nil h.server.host
  simp [host?, h.authority_eq, hhost]

theorem Written.port?_eq (h : u.Written a) : u.port? = a.port := by
  rw [port?, h.authority_eq, Option.bind_some]

/-- A server is read from its text alone, and the path that is missing behind it is a slash. -/
theorem Written.parse_hostText (h : u.Written a) :
    parse (u.scheme ++ "://".toList ++ a.hostText)
      = .ok ⟨u.scheme, some a.anonymous, ['/'], none, none⟩ := by
  have hserver := h.server.anonymous
  have hvisible : ∀ c ∈ a.hostText, 0x20 < c.toNat ∧ endsAuthority true c = false := fun c hc =>
    hserver.visible_text hc
  have hclean : clean (u.scheme ++ "://".toList ++ a.hostText)
      = u.scheme ++ ':' :: ('/' :: '/' :: a.hostText) := by
    have htext : u.scheme ++ "://".toList ++ a.hostText
        = u.scheme ++ ':' :: ('/' :: '/' :: a.hostText) := by simp
    rw [htext, clean_web h.web, visible_eq_self]
    intro c hc
    simp only [List.mem_cons] at hc
    rcases hc with rfl | rfl | hc
    · decide
    · decide
    · exact (hvisible c hc).1
  have hmarks : NoMarks ('/' :: '/' :: a.hostText) := by
    have hnone : ∀ d, endsAuthority true d = true → d ∉ a.hostText := fun d hd hmem => by
      rw [(hvisible d hmem).2] at hd
      cases hd
    simp [NoMarks, hnone '?' rfl, hnone '#' rfl]
  have hsplit := splitTail_of_noMarks hmarks
  have hlead : Lead ('/' :: '/' :: a.hostText) ['/', '/'] a.hostText [] := {
    text_eq := by simp
    isSlash := by simp
    inServer := fun c hc => (hvisible c hc).2
    beginsPath := fun c hc => absurd hc (Option.not_mem_none c)
    tail_nil := fun _ => rfl }
  have hread : readAuthority u.scheme a.hostText = .ok a.anonymous :=
    hserver.readAuthority_text (isSpecial_of_isWeb h.web)
  rw [parse_lead h.web hclean (by rwa [hsplit]), hsplit, hread]
  rfl

end Url

/-- An accepted address has an origin: its scheme, host and port, without anything else. -/
theorem isOrigin_originOf {address : String} (h : checkUrl address = .ok ()) :
    IsOrigin address (originOf address) := by
  rcases Url.exists_of_checkUrl h with ⟨scheme, rest, u, hweb, hchars, hparse⟩
  have hclean : Url.clean address.toList = scheme ++ ':' :: Url.visible rest := by
    rw [hchars, Url.clean_web hweb]
  rcases Url.exists_written_of_parse hweb hclean hparse with ⟨a, -, -, hwritten⟩
  have htext : (originOf address).toList = u.scheme ++ "://".toList ++ a.hostText := by
    simp only [originOf, hparse, hwritten.host?_eq, hwritten.port?_eq, Option.getD_some,
      String.toList_ofList]
    exact List.append_assoc _ _ _
  refine ⟨u, a.host, hparse, hwritten.host?_eq, htext.trans ?_, ?_⟩
  · rw [hwritten.port?_eq]
    exact (List.append_assoc _ _ _).symm
  · rw [htext, hwritten.port?_eq]
    exact hwritten.parse_hostText

example : originOf "http://user@Mock.test:8080/api?x=1" = "http://mock.test:8080" := by
  decide +kernel

end StubConsole
