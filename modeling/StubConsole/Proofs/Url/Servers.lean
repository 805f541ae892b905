import StubConsole.Proofs.Url.Escapes
import StubConsole.Url.Basic

/-!
# Servers — what names none

Controls and spaces are kept in a name until it is checked, and no name of a server holds one.  So
an address whose server is empty, or ends with a control or a space, cannot be read.

* `Host.mem_asciiName` — the written form of a name keeps its controls and spaces;
* `Host.read_concat_low` — a host that ends so;
* `Url.readAuthority_nil`, `Url.readAuthority_concat_low` — a server without a name, and one that
  ends so.
-/

namespace StubConsole

open Text

namespace Host

variable {d : Char} {s : List Char}

theorem mem_lowerFrom (hd : d.toNat ≤ 0x20) (before : List Char) (h : d ∈ s) :
    d ∈ lowerFrom before s := by
  induction s generalizing before with
  | nil => cases h
  | cons c s ih =>
      rw [lowerFrom, List.mem_append]
      rcases List.mem_cons.1 h with rfl | hrest
      · left
        have hcapital : ¬ 65 ≤ d.toNat := by omega
        have hlower : lowerChar d = d := by
          rw [lowerChar, if_pos (Nat.lt_of_le_of_lt hd (by decide))]
          unfold Char.toLower
          rw [dif_neg fun h => hcapital h.1]
        rw [if_neg (by omega), if_neg (by omega), hlower]
        exact List.mem_singleton_self d
      · exact .inr (ih _ hrest)

theorem mem_normalName (hd : d.toNat ≤ 0x20) (h : d ∈ s) : d ∈ normalName s := by
  have hkept : inRanges ignored d = false := by
    rw [ignored, inRanges, if_pos (by omega)]
  have hnarrow : narrowForm d = d := by
    have hdot : (d.toNat = 0x3002 || d.toNat = 0xFF61) = false := by simp; omega
    have hwide : (0xFF01 ≤ d.toNat && d.toNat ≤ 0xFF5E) = false := by simp; omega
    simp [narrowForm, hdot, hwide]
  refine mem_lowerFrom hd [] (List.mem_map.2 ⟨d, ?_, hnarrow⟩)
  simp [h, hkept]

theorem mem_asciiLabel (hd : d.toNat ≤ 0x20) (h : d ∈ s) : d ∈ asciiLabel s := by
  rw [asciiLabel]
  split
  · exact h
  · have hascii : d ∈ s.filter fun c => c.toNat < 0x80 := by
      simp [h, Nat.lt_of_le_of_lt hd (by decide : 0x20 < 0x80)]
    simp [Punycode.encode, hascii]

theorem mem_asciiName (hd : d.toNat ≤ 0x20) (h : d ∈ s) : d ∈ asciiName s := by
  have hdot : d ≠ '.' := Percent.ne_of_low hd (by decide)
  rcases exists_mem_splitOn hdot (mem_normalName hd h) with ⟨label, hlabel, hmem⟩
  exact mem_joinWith ['.'] (List.mem_map_of_mem hlabel) (mem_asciiLabel hd hmem)

theorem readBracketed_concat_low (hd : d.toNat ≤ 0x20) (s : List Char) :
    ∃ cause, readBracketed (s ++ [d]) = .error cause := by
  unfold readBracketed
  split
  next rest heq =>
    have hlast : rest.getLast? ≠ some ']' := by
      cases s with
      | nil => exact absurd (List.cons.inj heq).1 (Percent.ne_of_low hd (by decide))
      | cons c s =>
          have hrest : s ++ [d] = rest := (List.cons.inj heq).2
          rw [← hrest, List.getLast?_concat, Ne, Option.some.injEq]
          exact Percent.ne_of_low hd (by decide)
    exact ⟨_, if_neg hlast⟩
  next => exact ⟨_, rfl⟩

/-- A host that ends with a control or a space is none. -/
theorem read_concat_low (hd : d.toNat ≤ 0x20) (s : List Char) :
    ∃ cause, read (s ++ [d]) = .error cause := by
  rw [read]
  split
  · exact readBracketed_concat_low hd s
  split
  · exact ⟨_, rfl⟩
  next decoded hdecoded =>
    have hbytes := bytes_of_fromUTF8? hdecoded
    have hmem : d ∈ decoded.toList := by
      refine mem_of_mem_bytes (Nat.lt_of_le_of_lt hd (by decide)) ?_
      rw [hbytes, Percent.decode_concat_low s hd]
      simp
    have hforbidden : (asciiName decoded.toList).any forbidden = true :=
      List.any_eq_true.2 ⟨d, mem_asciiName hd hmem, by simp [forbidden, hd]⟩
    exact ⟨_, if_pos hforbidden⟩

end Host

namespace Url

variable {d : Char} {scheme : List Char}

theorem splitHost_concat_low (hd : d.toNat ≤ 0x20) (inBrackets : Bool) (s : List Char) :
    splitHost inBrackets (s ++ [d]) = match splitHost inBrackets s with
      | (host, none) => (host ++ [d], none)
      | (host, some port) => (host, some (port ++ [d])) := by
  induction s generalizing inBrackets with
  | nil =>
      have hcolon : d ≠ ':' := Percent.ne_of_low hd (by decide)
      simp [splitHost, hcolon]
  | cons c s ih =>
      rw [List.cons_append, splitHost, splitHost]
      split
      · rfl
      · simp only [ih]
        split
        next host heq => rw [heq]; rfl
        next host port heq => rw [heq]

theorem readPort_concat_low (hd : d.toNat ≤ 0x20) (scheme s : List Char) :
    ∃ cause, readPort scheme (s ++ [d]) = .error cause := by
  have hdigit : d.isDigit = false := by
    have hlow : ¬ 48 ≤ d.toNat := by omega
    rw [← Bool.not_eq_true, Char.isDigit, Bool.and_eq_true, decide_eq_true_eq]
    exact fun h => hlow h.1
  rw [readPort, if_neg (by simp)]
  split
  · exact ⟨_, rfl⟩
  · exact ⟨_, if_pos (by simp [hdigit])⟩

theorem readHost_concat_low (hscheme : isSpecial scheme = true) (hd : d.toNat ≤ 0x20)
    (s : List Char) : ∃ cause, readHost scheme (s ++ [d]) = .error cause := by
  rw [readHost, if_pos hscheme, if_neg (by simp)]
  exact Host.read_concat_low hd s

/-- An address of a server names one. -/
theorem readAuthority_nil (hscheme : isSpecial scheme = true) :
    readAuthority scheme [] = .error .emptyHost := by
  have hhost : readHost scheme [] = .error .emptyHost := by
    rw [readHost, if_pos hscheme]
    rfl
  simp [readAuthority, splitAtLastAt, splitAt?, splitHost, hhost]
  rfl

theorem splitAtLastAt_concat_low (hd : d.toNat ≤ 0x20) (s : List Char) :
    splitAtLastAt (s ++ [d]) = (splitAtLastAt s).map fun cut => (cut.1, cut.2 ++ [d]) := by
  have hat : d ≠ '@' := Percent.ne_of_low hd (by decide)
  rw [splitAtLastAt, splitAtLastAt, List.reverse_append, List.reverse_singleton,
    splitAt?_append (by simp [hat.symm])]
  cases splitAt? '@' s.reverse with
  | none => rfl
  | some cut => simp

/-- What follows the user is no host, or has no port. -/
theorem server_concat_low (hscheme : isSpecial scheme = true) (hd : d.toNat ≤ 0x20)
    {server host : List Char} {port : Option (List Char)}
    (h : splitHost false (server ++ [d]) = (host, port)) :
    (∃ cause, readHost scheme host = .error cause)
      ∨ ∃ digits cause, port = some digits ∧ readPort scheme digits = .error cause := by
  rw [splitHost_concat_low hd] at h
  split at h
  next front heq =>
    cases h
    exact .inl (readHost_concat_low hscheme hd front)
  next front digits heq =>
    cases h
    rcases readPort_concat_low hd scheme digits with ⟨cause, hcause⟩
    exact .inr ⟨_, cause, rfl, hcause⟩

/-- A server that ends with a control or a space is none. -/
theorem readAuthority_concat_low (hscheme : isSpecial scheme = true) (hd : d.toNat ≤ 0x20)
    (s : List Char) : ∃ cause, readAuthority scheme (s ++ [d]) = .error cause := by
  have hat := splitAtLastAt_concat_low hd s
  cases hsplit : splitAtLastAt s
  all_goals
    rw [hsplit] at hat
    simp only [readAuthority, hat, Option.map_none, Option.map_some]
    generalize hserver : splitHost false _ = parts
    rcases parts with ⟨host, port⟩
    rcases server_concat_low hscheme hd hserver with ⟨cause, hhost⟩ | ⟨digits, cause, rfl, hport⟩
    · exact ⟨cause, by simp [hhost, bind, Except.bind]⟩
    · cases hhost : readHost scheme host with
      | error cause => exact ⟨cause, by simp [bind, Except.bind]⟩
      | ok written =>
          by_cases hwritten : written.isEmpty = true
          · exact ⟨.emptyHost, by simp [bind, Except.bind, hwritten]⟩
          · exact ⟨cause, by simp [bind, Except.bind, hwritten, hport]⟩

end Url

end StubConsole
