import StubConsole.Proofs.Json.Delivered
import StubConsole.Proofs.Url.Hosts
import StubConsole.Url.Basic

/-!
# Authorities — a server that was written is read as itself

A server is written with its user in front and its port behind.  No part is written with the
characters that cut the text, and each part is read as it is written, so the text of a server is
read as that server.

* `Url.standsInServer` — the characters of user, host and port;
* `Url.splitHost_host`, `Url.readPort_decimal` — host and port;
* `Authority.Written`, `Authority.written_of_readAuthority` — a server as an address of one is read;
* `Authority.Written.readAuthority_text` — its text read again.
-/

namespace StubConsole

open Text
open Json (exists_of_bind_eq_ok)

namespace Url

/-! ## Characters of the normal form -/

section Characters

variable {c : Char} {s : List Char}

theorem lt_of_control (h : Percent.control c = false) (hspace : c ≠ ' ') : 0x20 < c.toNat := by
  have hbounds : 0x20 ≤ c.toNat ∧ c.toNat < 0x7F := by
    simpa [Percent.control] using h
  have hne : c.toNat ≠ ' '.toNat := fun heq => hspace (Char.toNat_inj.1 heq)
  change c.toNat ≠ 32 at hne
  omega

theorem lt_of_fragment (h : Percent.fragment c = false) : 0x20 < c.toNat := by
  simp only [Percent.fragment, Bool.or_eq_false_iff, decide_eq_false_iff_not] at h
  exact lt_of_control h.1.1.1.1.1 h.1.1.1.1.2

theorem lt_of_path (h : Percent.path c = false) : 0x20 < c.toNat := by
  simp only [Percent.path, Bool.or_eq_false_iff] at h
  exact lt_of_fragment h.1.1.1.1

theorem lt_of_specialQuery (h : Percent.specialQuery c = false) : 0x20 < c.toNat := by
  simp only [Percent.specialQuery, Percent.query, Bool.or_eq_false_iff,
    decide_eq_false_iff_not] at h
  exact lt_of_control h.1.1.1.1.1.1 h.1.1.1.1.1.2

/-- A character that may stand in the text of a server, and next to its user. -/
def standsInServer (c : Char) : Bool :=
  decide (0x20 < c.toNat) && !endsAuthority true c && c ≠ '@'

theorem standsInServer_iff : standsInServer c = true ↔
    0x20 < c.toNat ∧ endsAuthority true c = false ∧ c ≠ '@' := by
  simp [standsInServer, and_assoc]

theorem standsInServer_of_userInfo (h : Percent.userInfo c = false) :
    standsInServer c = true := by
  have hpath : Percent.path c = false := by
    simp only [Percent.userInfo, Bool.or_eq_false_iff] at h
    exact h.1.1.1.1.1.1.1.1.1.1
  rw [standsInServer_iff]
  refine ⟨lt_of_path hpath, ?_, ne_of_test h rfl⟩
  simp [endsAuthority, ne_of_test h (d := '/') rfl, ne_of_test h (d := '?') rfl,
    ne_of_test h (d := '#') rfl, ne_of_test h (d := '\\') rfl]

theorem standsInServer_of_not_forbidden (h : Host.forbidden c = false) :
    standsInServer c = true := by
  have hlow : 0x20 < c.toNat := by
    simp only [Host.forbidden, Bool.or_eq_false_iff, decide_eq_false_iff_not] at h
    exact Nat.lt_of_not_le h.1.1
  rw [standsInServer_iff]
  refine ⟨hlow, ?_, ne_of_test h (by decide)⟩
  simp [endsAuthority, ne_of_test h (d := '/') (by decide), ne_of_test h (d := '?') (by decide),
    ne_of_test h (d := '#') (by decide), ne_of_test h (d := '\\') (by decide)]

theorem standsInServer_of_isHex (h : Percent.isHex c = true) : standsInServer c = true :=
  Percent.of_isHex (by decide) h

theorem userInfo_of_mem_encode (h : c ∈ Percent.encode Percent.userInfo s) :
    Percent.userInfo c = false :=
  Percent.special_of_mem_encode (by decide) h

end Characters

/-! ## Hosts and ports -/

section Hosts

variable {scheme host rest : List Char}

theorem standsInServer_of_mem_host {c : Char} (h : Host.Written host) (hc : c ∈ host) :
    standsInServer c = true := by
  cases h with
  | name hne hsmall hnumber => exact standsInServer_of_not_forbidden (hsmall c hc).2
  | four hlt =>
      rcases Host.mem_writeIpv4 hc with rfl | hdigit
      · decide
      · exact standsInServer_of_not_forbidden (Host.small_of_isDigit hdigit).2
  | eight hlength hlt =>
      simp only [List.mem_cons, List.mem_append, List.not_mem_nil, or_false] at hc
      rcases hc with rfl | hc | rfl
      · decide
      · rcases Host.mem_writeIpv6 hc with rfl | hhex
        · decide
        · exact standsInServer_of_isHex hhex
      · decide

theorem host_ne_nil (h : Host.Written host) : host ≠ [] := by
  rintro rfl
  have hread := h.read_eq
  cases hread

/-- Text that neither opens nor closes brackets. -/
theorem splitHost_append {inBrackets : Bool} {s : List Char}
    (hcolon : inBrackets = true ∨ ':' ∉ s) (hopen : '[' ∉ s) (hclose : ']' ∉ s) (t : List Char) :
    splitHost inBrackets (s ++ t)
      = (s ++ (splitHost inBrackets t).1, (splitHost inBrackets t).2) := by
  induction s with
  | nil => rfl
  | cons c s ih =>
      rw [List.mem_cons, not_or] at hcolon hopen hclose
      have hkept : (decide (c = ':') && !inBrackets) = false := by
        rcases hcolon with htrue | hne
        · simp [htrue]
        · simp [Ne.symm hne.1]
      simp [splitHost, hkept, Ne.symm hopen.1, Ne.symm hclose.1,
        ih (hcolon.imp_right And.right) hopen.2 hclose.2]

/-- The colons of a host are in brackets. -/
theorem splitHost_host (h : Host.Written host) (t : List Char) :
    splitHost false (host ++ t) = (host ++ (splitHost false t).1, (splitHost false t).2) := by
  have hplain : (∀ c ∈ host, Host.forbidden c = false) →
      splitHost false (host ++ t) = (host ++ (splitHost false t).1, (splitHost false t).2) := by
    intro hallowed
    have hnot : ∀ d, Host.forbidden d = true → d ∉ host := fun d hd hmem =>
      ne_of_test (hallowed d hmem) hd rfl
    exact splitHost_append (.inr (hnot ':' (by decide))) (hnot '[' (by decide))
      (hnot ']' (by decide)) t
  cases h with
  | name hne hsmall hnumber => exact hplain fun c hc => (hsmall c hc).2
  | four hlt =>
      refine hplain fun c hc => ?_
      rcases Host.mem_writeIpv4 hc with rfl | hdigit
      · decide
      · exact (Host.small_of_isDigit hdigit).2
  | @eight numbers hlength hlt =>
      have hnot : ∀ d : Char, d ≠ ':' → Percent.isHex d = false → d ∉ Host.writeIpv6 numbers := by
        intro d hcolon hhex hmem
        rcases Host.mem_writeIpv6 hmem with rfl | hd
        · exact hcolon rfl
        · rw [hhex] at hd
          cases hd
      have hinner := splitHost_append (.inl rfl) (hnot '[' (by decide) rfl)
        (hnot ']' (by decide) rfl) (']' :: t)
      simp [splitHost, hinner]

theorem readPort_decimal {n : Nat} (hle : n ≤ 65535) (hdefault : defaultPort? scheme ≠ some n) :
    readPort scheme (decimal n) = .ok (some n) := by
  have hdigits : (decimal n).all Char.isDigit = true :=
    List.all_eq_true.2 fun _ hc => isDigit_of_mem_decimal hc
  have hempty : (decimal n).isEmpty = false := by simpa using decimal_ne_nil n
  simp [readPort, hempty, natUpTo?_decimal hle, hdigits, hdefault]

theorem port_of_readPort {s : List Char} {port : Option Nat} (h : readPort scheme s = .ok port) :
    ∀ n ∈ port, n ≤ 65535 ∧ defaultPort? scheme ≠ some n := by
  rw [readPort] at h
  split at h
  · obtain rfl := Except.ok.inj h
    exact fun _ hn => nomatch hn
  split at h
  · cases h
  next n hvalue =>
    split at h
    · cases h
    split at h
    · obtain rfl := Except.ok.inj h
      exact fun _ hn => nomatch hn
    next hdefault =>
      obtain rfl := Except.ok.inj h
      rintro m ⟨⟩
      exact ⟨by simpa using (Option.filter_eq_some_iff.1 hvalue).2, hdefault⟩

end Hosts

end Url

/-! ## Servers -/

namespace Authority

open Url

variable {scheme s host : List Char} {digits : Option (List Char)} {a : Authority}

/-- A server by its user and by the texts of host and port. -/
def readServer (scheme : List Char) (user : List Char × Option (List Char)) (host : List Char)
    (digits : Option (List Char)) : Except UrlError Authority := do
  let written ← readHost scheme host
  if written.isEmpty && digits.isSome then .error .emptyHost
  else
    let port ← match digits with
      | none => Except.ok none
      | some digits => readPort scheme digits
    if written.isEmpty && !(user.1.isEmpty && user.2.isNone) then .error .emptyHost
    else return ⟨user.1, user.2, written, port⟩

theorem readAuthority_of_splitAtLastAt {info server : List Char}
    (h : splitAtLastAt s = some (info, server)) :
    readAuthority scheme s = if server.isEmpty then .error .emptyHost
      else readServer scheme (readUserInfo info) (splitHost false server).1
        (splitHost false server).2 := by
  simp only [readAuthority, h, Option.isSome_some, Bool.true_and]
  rfl

theorem readAuthority_of_none (h : splitAtLastAt s = none) :
    readAuthority scheme s
      = readServer scheme ([], none) (splitHost false s).1 (splitHost false s).2 := by
  simp only [readAuthority, h]
  rfl

/-- A server as an address of one is read. -/
structure Written (scheme : List Char) (a : Authority) : Prop where
  username : ∀ c ∈ a.username, Percent.userInfo c = false
  password : ∀ p ∈ a.password, p ≠ [] ∧ ∀ c ∈ p, Percent.userInfo c = false
  host : Host.Written a.host
  port : ∀ n ∈ a.port, n ≤ 65535 ∧ defaultPort? scheme ≠ some n

/-- The texts that user, host and port are read from. -/
structure ReadFrom (scheme info host : List Char) (a : Authority) : Prop where
  user : readUserInfo info = (a.username, a.password)
  host : readHost scheme host = .ok a.host
  port : a.port = none ∨ ∃ digits, readPort scheme digits = .ok a.port

theorem readFrom_of_readServer {info : List Char}
    (h : readServer scheme (readUserInfo info) host digits = .ok a) :
    ReadFrom scheme info host a := by
  rcases exists_of_bind_eq_ok h with ⟨written, hhost, h⟩
  split at h
  · cases h
  cases digits with
  | none =>
      rcases exists_of_bind_eq_ok h with ⟨port, hport, h⟩
      split at h
      · cases h
      · obtain rfl := Except.ok.inj h
        exact ⟨rfl, hhost, .inl (Except.ok.inj hport).symm⟩
  | some digits =>
      rcases exists_of_bind_eq_ok h with ⟨port, hport, h⟩
      split at h
      · cases h
      · obtain rfl := Except.ok.inj h
        exact ⟨rfl, hhost, .inr ⟨digits, hport⟩⟩

theorem exists_readFrom (h : readAuthority scheme s = .ok a) :
    ∃ info host, ReadFrom scheme info host a := by
  cases hcut : splitAtLastAt s with
  | none =>
      rw [readAuthority_of_none hcut] at h
      exact ⟨[], _, readFrom_of_readServer h⟩
  | some cut =>
      rw [readAuthority_of_splitAtLastAt hcut] at h
      split at h
      · cases h
      · exact ⟨cut.1, _, readFrom_of_readServer h⟩

theorem userInfo_of_readUserInfo {info username : List Char} {password : Option (List Char)}
    (h : readUserInfo info = (username, password)) :
    (∀ c ∈ username, Percent.userInfo c = false)
      ∧ ∀ p ∈ password, p ≠ [] ∧ ∀ c ∈ p, Percent.userInfo c = false := by
  rw [readUserInfo] at h
  split at h
  next =>
    obtain ⟨rfl, rfl⟩ := Prod.mk.inj h
    exact ⟨fun c => userInfo_of_mem_encode, fun _ hp => nomatch hp⟩
  next name pass _ =>
    obtain ⟨rfl, rfl⟩ := Prod.mk.inj h
    refine ⟨fun c => userInfo_of_mem_encode, fun p hp => ?_⟩
    split at hp
    · cases hp
    next hsolid =>
      obtain rfl := Option.some.inj hp
      exact ⟨Percent.encode_ne_nil _ (by simpa using hsolid), fun c => userInfo_of_mem_encode⟩

theorem written_of_readAuthority (hscheme : isSpecial scheme = true)
    (h : readAuthority scheme s = .ok a) : a.Written scheme := by
  rcases exists_readFrom h with ⟨info, host, hfrom⟩
  rcases userInfo_of_readUserInfo hfrom.user with ⟨husername, hpassword⟩
  refine ⟨husername, hpassword, ?_, ?_⟩
  · have hhost := hfrom.host
    rw [readHost, if_pos hscheme] at hhost
    split at hhost
    · cases hhost
    · exact Host.written_of_read hhost
  · rcases hfrom.port with hnone | ⟨digits, hport⟩
    · rw [hnone]
      exact fun _ hn => nomatch hn
    · exact port_of_readPort hport

/-! ### The text of a server -/

/-- User name and password as they are written. -/
def infoText (a : Authority) : List Char :=
  a.username ++ match a.password with
    | none => []
    | some p => ':' :: p

/-- Host and port as they are written. -/
def hostText (a : Authority) : List Char :=
  a.host ++ match a.port with
    | none => []
    | some n => ':' :: decimal n

theorem text_eq (a : Authority) :
    Authority.text a
      = if a.infoText.isEmpty then a.hostText else a.infoText ++ '@' :: a.hostText := by
  have hshape : Authority.text a
      = (if a.infoText.isEmpty then [] else a.infoText ++ ['@']) ++ a.hostText := by
    rw [Authority.text, hostText, ← List.append_assoc]
    rfl
  rw [hshape]
  split
  · exact List.nil_append _
  · rw [List.append_assoc, List.singleton_append]

theorem mem_hostText {c : Char} (h : c ∈ a.hostText) :
    c ∈ a.host ∨ c = ':' ∨ c.isDigit = true := by
  rw [hostText, List.mem_append] at h
  rcases h with hhost | hport
  · exact .inl hhost
  · split at hport
    · cases hport
    · rcases List.mem_cons.1 hport with rfl | hdigit
      · exact .inr (.inl rfl)
      · exact .inr (.inr (isDigit_of_mem_decimal hdigit))

/-- User and password are encoded, and between the parts stand colons and one `@`. -/
theorem mem_text {c : Char} {info : List Char}
    (huser : readUserInfo info = (a.username, a.password)) (h : c ∈ Authority.text a) :
    Percent.userInfo c = false ∨ c = ':' ∨ c = '@' ∨ c ∈ a.host ∨ c.isDigit = true := by
  rcases userInfo_of_readUserInfo huser with ⟨husername, hpassword⟩
  have hhost : c ∈ a.hostText →
      Percent.userInfo c = false ∨ c = ':' ∨ c = '@' ∨ c ∈ a.host ∨ c.isDigit = true := fun hc => by
    rcases mem_hostText hc with hc | hc | hc
    · exact .inr (.inr (.inr (.inl hc)))
    · exact .inr (.inl hc)
    · exact .inr (.inr (.inr (.inr hc)))
  rw [text_eq] at h
  split at h
  · exact hhost h
  rcases List.mem_append.1 h with hinfo | hrest
  · rw [infoText, List.mem_append] at hinfo
    rcases hinfo with hname | hpass
    · exact .inl (husername c hname)
    · split at hpass
      · cases hpass
      next p hp =>
        rcases List.mem_cons.1 hpass with hcolon | hpass
        · exact .inr (.inl hcolon)
        · exact .inl ((hpassword p hp).2 c hpass)
  · rcases List.mem_cons.1 hrest with hat | hrest
    · exact .inr (.inr (.inl hat))
    · exact hhost hrest

variable (h : a.Written scheme)

include h

theorem Written.readUserInfo_infoText : readUserInfo a.infoText = (a.username, a.password) := by
  have husername := Percent.encode_eq_self h.username
  have hcolon : ':' ∉ a.username := fun hmem => ne_of_test (h.username _ hmem) rfl rfl
  cases hpassword : a.password with
  | none =>
      simp only [infoText, hpassword, List.append_nil, readUserInfo, splitAt?_of_notMem hcolon,
        husername]
  | some p =>
      rcases h.password p hpassword with ⟨hne, hplain⟩
      have hempty : p.isEmpty = false := by simpa using hne
      simp only [infoText, hpassword, readUserInfo, splitAt?_cut hcolon, husername, hempty,
        Percent.encode_eq_self hplain, Bool.false_eq_true, if_false]

theorem Written.standsInServer_of_mem_hostText {c : Char} (hc : c ∈ a.hostText) :
    standsInServer c = true := by
  rcases mem_hostText hc with hhost | rfl | hdigit
  · exact standsInServer_of_mem_host h.host hhost
  · decide
  · exact standsInServer_of_not_forbidden (Host.small_of_isDigit hdigit).2

theorem Written.splitHost_hostText :
    splitHost false a.hostText = (a.host, a.port.map decimal) := by
  rw [hostText, splitHost_host h.host]
  cases a.port <;> simp [splitHost]

theorem Written.readServer_hostText (hscheme : isSpecial scheme = true) :
    readServer scheme (a.username, a.password) a.host (a.port.map decimal) = .ok a := by
  have hempty : a.host.isEmpty = false := by simpa using host_ne_nil h.host
  have hhost : readHost scheme a.host = .ok a.host := by
    rw [readHost, if_pos hscheme, hempty, h.host.read_eq]
    rfl
  cases hport : a.port with
  | none =>
      simp only [readServer, hhost, hempty, bind, Except.bind, Option.map_none, Bool.false_and,
        Bool.false_eq_true, if_false]
      rw [← hport]
      rfl
  | some n =>
      rcases h.port n hport with ⟨hle, hdefault⟩
      simp only [readServer, hhost, hempty, bind, Except.bind, Option.map_some, Bool.false_and,
        Bool.false_eq_true, if_false, readPort_decimal hle hdefault]
      rw [← hport]
      rfl

theorem Written.hostText_ne_nil : a.hostText ≠ [] := by
  simp [hostText, host_ne_nil h.host]

theorem Written.text_ne_nil : Authority.text a ≠ [] := by
  rw [text_eq]
  split
  · exact h.hostText_ne_nil
  · simp

/-- A server is read as it is written. -/
theorem Written.readAuthority_text (hscheme : isSpecial scheme = true) :
    readAuthority scheme (Authority.text a) = .ok a := by
  have hat : '@' ∉ a.hostText := fun hmem => by
    cases h.standsInServer_of_mem_hostText hmem
  have hserver := h.readServer_hostText hscheme
  have hinfo := h.readUserInfo_infoText
  rw [text_eq]
  split
  next hnone =>
    have hcut : splitAtLastAt a.hostText = none := by
      rw [splitAtLastAt, splitAt?_of_notMem (by simpa using hat)]
    rw [List.isEmpty_iff] at hnone
    rw [hnone] at hinfo
    have hnobody : ([], none) = (a.username, a.password) := hinfo
    rw [readAuthority_of_none hcut, h.splitHost_hostText, hnobody]
    exact hserver
  next =>
    have hcut : splitAtLastAt (a.infoText ++ '@' :: a.hostText)
        = some (a.infoText, a.hostText) := by
      have hreverse : (a.infoText ++ '@' :: a.hostText).reverse
          = a.hostText.reverse ++ '@' :: a.infoText.reverse := by simp
      rw [splitAtLastAt, hreverse, splitAt?_cut (by simpa using hat)]
      simp
    have hne : a.hostText.isEmpty = false := by simpa using h.hostText_ne_nil
    rw [readAuthority_of_splitAtLastAt hcut, hne, h.splitHost_hostText, hinfo]
    exact hserver

/-- No character of the text ends the server. -/
theorem Written.visible_text {c : Char} (hc : c ∈ Authority.text a) :
    0x20 < c.toNat ∧ endsAuthority true c = false := by
  have hstands : standsInServer c = true → 0x20 < c.toNat ∧ endsAuthority true c = false :=
    fun hstands => ⟨(standsInServer_iff.1 hstands).1, (standsInServer_iff.1 hstands).2.1⟩
  rcases mem_text h.readUserInfo_infoText hc with hinfo | rfl | rfl | hhost | hdigit
  · exact hstands (standsInServer_of_userInfo hinfo)
  · decide
  · decide
  · exact hstands (standsInServer_of_mem_host h.host hhost)
  · exact hstands (standsInServer_of_not_forbidden (Host.small_of_isDigit hdigit).2)

end Authority

end StubConsole
