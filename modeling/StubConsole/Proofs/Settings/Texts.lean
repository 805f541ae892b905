import StubConsole.Config
import StubConsole.Proofs.Form.Rows
import StubConsole.Proofs.Url.Origin

/-!
# Texts — settings as the user types them

Four texts are typed on the settings page.  They are read from the top, and the first one that is
refused decides what the page says.  When none is refused, the settings are what the texts say and
nothing else, so that showing them and storing what is shown changes nothing any more.

* `SettingsTexts.NamesInterval` — the number that a text names;
* `SettingsTexts.Refused` — a text that is refused, with the reason;
* `SettingsTexts.Read` — settings that were read from texts;
* `Config.withTexts_stable` — the outcome for any texts.
-/

namespace StubConsole

open Text

namespace SettingsTexts

/-! ## One text -/

/-- The text is a plus sign or nothing, then decimal digits, with blanks around; the number fits
64 bits and is not zero. -/
def NamesInterval (text : String) (n : Nat) : Prop :=
  ∃ sign digits, trimChars text.toList = sign ++ digits ∧ (sign = [] ∨ sign = ['+']) ∧
    digits ≠ [] ∧ (∀ c ∈ digits, c.isDigit = true) ∧ n = Nat.ofDigitChars 10 digits 0 ∧
    1 ≤ n ∧ n ≤ Json.maxWord

theorem natUpTo?_eq_some_iff {max n : Nat} {s : List Char} :
    natUpTo? max s = some n ↔
      ∃ sign digits, s = sign ++ digits ∧ (sign = [] ∨ sign = ['+']) ∧
        readDigits? digits = some n ∧ n ≤ max := by
  unfold natUpTo?
  simp only [Option.filter_eq_some_iff, decide_eq_true_eq]
  split
  next rest =>
    constructor
    · rintro ⟨hread, hle⟩
      exact ⟨['+'], rest, rfl, .inr rfl, hread, hle⟩
    · rintro ⟨sign, digits, hs, rfl | rfl, hread, hle⟩
      · -- a plus sign is no digit
        obtain rfl : '+' :: rest = digits := hs
        have hdigit := (readDigits?_eq_some_iff.1 hread).2.1 '+' List.mem_cons_self
        cases hdigit
      · obtain rfl : rest = digits := List.tail_eq_of_cons_eq hs
        exact ⟨hread, hle⟩
  next hplus =>
    constructor
    · rintro ⟨hread, hle⟩
      exact ⟨[], s, rfl, .inl rfl, hread, hle⟩
    · rintro ⟨sign, digits, rfl, rfl | rfl, hread, hle⟩
      · exact ⟨hread, hle⟩
      · exact absurd rfl (hplus digits)

theorem interval?_eq_some_iff {text : String} {n : Nat} :
    Config.interval? (trim text) = some n ↔ NamesInterval text n := by
  simp only [Config.interval?, Option.filter_eq_some_iff, natUpTo?_eq_some_iff, trim,
    String.toList_ofList, readDigits?_eq_some_iff, decide_eq_true_eq, NamesInterval]
  constructor
  · rintro ⟨⟨sign, digits, hs, hsign, ⟨hne, hall, hn⟩, hle⟩, hpos⟩
    exact ⟨sign, digits, hs, hsign, hne, hall, hn, hpos, hle⟩
  · rintro ⟨sign, digits, hs, hsign, hne, hall, hn, hpos, hle⟩
    exact ⟨⟨sign, digits, hs, hsign, ⟨hne, hall, hn⟩, hle⟩, hpos⟩

/-- The mock server need not be given. -/
def checkMock (t : SettingsTexts) : Except UrlFault Unit :=
  if trim t.mockServerUrl = "" then .ok () else checkUrl (trim t.mockServerUrl)

/-- A text that is refused, whatever the other texts are. -/
inductive Refused (t : SettingsTexts) : Setting → SettingsError → Prop where
  | apiUrl {cause : UrlFault} (h : checkUrl (trim t.apiBaseUrl) = .error cause) :
      Refused t .apiBaseUrl (.apiUrl cause)
  | mockUrl {cause : UrlFault} (h : t.checkMock = .error cause) :
      Refused t .mockServerUrl (.mockUrl cause)
  | interval (h : ∀ n, ¬ NamesInterval t.pollInterval n) : Refused t .pollInterval .interval

/-- The first text that is refused, in the order of the page. -/
def FirstRefused (t : SettingsTexts) (e : SettingsError) : Prop :=
  ∃ above setting below, Setting.all = above ++ setting :: below ∧ Refused t setting e ∧
    ∀ earlier ∈ above, ∀ cause, ¬ Refused t earlier cause

/-! ## All texts -/

/-- Settings that say what the texts say. -/
structure Read (t : SettingsTexts) (c : Config) : Prop where
  accepted : ∀ setting cause, ¬ Refused t setting cause
  interval : NamesInterval t.pollInterval c.pollInterval
  texts : c.texts =
    ⟨trim t.apiBaseUrl, trim t.mockServerUrl, ofNat c.pollInterval, trim t.exportDirectory⟩
  apiBase : c.apiBase = trim t.apiBaseUrl
  mockBase : trim t.mockServerUrl ≠ "" → c.mockBase = trim t.mockServerUrl
  mockOrigin : trim t.mockServerUrl = "" → IsOrigin (trim t.apiBaseUrl) c.mockBase
  exportDir : c.exportDir = if trim t.exportDirectory = "" then "." else trim t.exportDirectory

/-- The settings for texts that name an interval. -/
def config (t : SettingsTexts) (interval : Nat) : Config where
  apiBaseUrl := some (trim t.apiBaseUrl)
  mockServerUrl := Config.optional (trim t.mockServerUrl)
  pollIntervalSecs := interval
  exportDirectory := Config.optional (trim t.exportDirectory)

/-- The addresses can be read, and an interval is named. -/
structure Accepted (t : SettingsTexts) (interval : Nat) : Prop where
  api : checkUrl (trim t.apiBaseUrl) = .ok ()
  mock : t.checkMock = .ok ()
  interval : NamesInterval t.pollInterval interval

variable {t : SettingsTexts} {n : Nat}

theorem getD_optional (s fallback : String) :
    (Config.optional s).getD fallback = if s = "" then fallback else s := by
  unfold Config.optional
  split
  · rfl
  · rfl

theorem getD_optional_empty (s : String) : (Config.optional s).getD "" = s := by
  rw [getD_optional]
  split
  next hempty => exact hempty.symm
  next => rfl

theorem namesInterval_ofNat (hpos : 1 ≤ n) (hmax : n ≤ Json.maxWord) :
    NamesInterval (ofNat n) n := by
  have hread := readDigits?_eq_some_iff.1 (readDigits?_decimal n)
  refine ⟨[], decimal n, ?_, .inl rfl, hread.1, hread.2.1, hread.2.2, hpos, hmax⟩
  rw [ofNat, String.toList_ofList, trimChars_of_trimmed (Rows.trimmed_decimal n)]
  rfl

theorem NamesInterval.bounds {text : String} (h : NamesInterval text n) :
    1 ≤ n ∧ n ≤ Json.maxWord := by
  obtain ⟨-, -, -, -, -, -, -, hpos, hmax⟩ := h
  exact ⟨hpos, hmax⟩

/-- The three checks, one behind the other. -/
theorem withTexts_eq (c : Config) (t : SettingsTexts) :
    c.withTexts t =
      match checkUrl (trim t.apiBaseUrl) with
      | .error cause => .error (.apiUrl cause)
      | .ok _ =>
          match t.checkMock with
          | .error cause => .error (.mockUrl cause)
          | .ok _ =>
              match Config.interval? (trim t.pollInterval) with
              | none => .error .interval
              | some n => .ok (t.config n) := by
  dsimp only [Config.withTexts, checkMock]
  cases checkUrl (trim t.apiBaseUrl) with
  | error cause => rfl
  | ok _ =>
      by_cases hgiven : trim t.mockServerUrl = ""
      · rw [if_neg (not_not.2 hgiven), if_pos hgiven]
        cases Config.interval? (trim t.pollInterval) <;> rfl
      · rw [if_pos hgiven, if_neg hgiven]
        cases checkUrl (trim t.mockServerUrl) with
        | error cause => rfl
        | ok _ => cases Config.interval? (trim t.pollInterval) <;> rfl

namespace Accepted

theorem withTexts_eq_ok (h : t.Accepted n) (c : Config) : c.withTexts t = .ok (t.config n) := by
  rw [withTexts_eq, h.api, h.mock, interval?_eq_some_iff.2 h.interval]

theorem not_refused (h : t.Accepted n) (setting : Setting) (cause : SettingsError) :
    ¬ t.Refused setting cause := by
  rintro (hurl | hurl | hnone)
  · rw [h.api] at hurl
    cases hurl
  · rw [h.mock] at hurl
    cases hurl
  · exact hnone n h.interval

theorem pollInterval_config (h : t.Accepted n) : (t.config n).pollInterval = n :=
  Nat.max_eq_left h.interval.bounds.1

theorem texts_config (h : t.Accepted n) :
    (t.config n).texts =
      ⟨trim t.apiBaseUrl, trim t.mockServerUrl, ofNat n, trim t.exportDirectory⟩ := by
  rw [Config.texts, h.pollInterval_config, config, getD_optional_empty, getD_optional_empty]
  rfl

theorem read (h : t.Accepted n) : t.Read (t.config n) where
  accepted := h.not_refused
  interval := h.pollInterval_config.symm ▸ h.interval
  texts := h.pollInterval_config.symm ▸ h.texts_config
  apiBase := rfl
  mockBase := fun hgiven => by rw [Config.mockBase, config, getD_optional, if_neg hgiven]
  mockOrigin := fun hnone => by
    rw [Config.mockBase, config, getD_optional, if_pos hnone]
    exact isOrigin_originOf h.api
  exportDir := by rw [Config.exportDir, config, getD_optional]

/-- What is shown of such settings is accepted again, and read as they are. -/
theorem withTexts_texts (h : t.Accepted n) (c : Config) :
    c.withTexts (t.config n).texts = .ok (t.config n) := by
  have hshown : (t.config n).texts.Accepted n := by
    rw [h.texts_config]
    refine ⟨?_, ?_, namesInterval_ofNat h.interval.bounds.1 h.interval.bounds.2⟩
    · simpa only [trim_trim] using h.api
    · simpa only [checkMock, trim_trim] using h.mock
  have hsame : (t.config n).texts.config n = t.config n := by
    rw [h.texts_config]
    simp only [config, trim_trim]
  rw [hshown.withTexts_eq_ok c, hsame]

end Accepted

/-- Texts are accepted, or the first one that is refused says why. -/
theorem accepted_or_refused (t : SettingsTexts) :
    (∃ n, t.Accepted n) ∨ ∃ e, t.FirstRefused e ∧ ∀ c : Config, c.withTexts t = .error e := by
  cases hapi : checkUrl (trim t.apiBaseUrl) with
  | error cause =>
      refine .inr ⟨.apiUrl cause, ⟨[], _, _, rfl, .apiUrl hapi, nofun⟩, fun c => ?_⟩
      rw [withTexts_eq, hapi]
  | ok _ =>
      have hfirst : ∀ cause, ¬ t.Refused .apiBaseUrl cause := by
        rintro _ ⟨h⟩
        rw [hapi] at h
        cases h
      cases hmock : t.checkMock with
      | error cause =>
          refine .inr ⟨.mockUrl cause,
            ⟨[.apiBaseUrl], _, _, rfl, .mockUrl hmock, by simpa using hfirst⟩, fun c => ?_⟩
          rw [withTexts_eq, hapi, hmock]
      | ok _ =>
          have hsecond : ∀ cause, ¬ t.Refused .mockServerUrl cause := by
            rintro _ (_ | h)
            rw [hmock] at h
            cases h
          cases hinterval : Config.interval? (trim t.pollInterval) with
          | some n => exact .inl ⟨n, hapi, hmock, interval?_eq_some_iff.1 hinterval⟩
          | none =>
              have hnone : ∀ n, ¬ NamesInterval t.pollInterval n := by
                intro n hn
                rw [interval?_eq_some_iff.2 hn] at hinterval
                cases hinterval
              refine .inr ⟨.interval, ⟨[.apiBaseUrl, .mockServerUrl], _, _, rfl, .interval hnone,
                by simpa using ⟨hfirst, hsecond⟩⟩, fun c => ?_⟩
              rw [withTexts_eq, hapi, hmock, hinterval]

end SettingsTexts

/-- Settings that were read from texts say what the texts say, show it, are read from what they
show as they are, and do not depend on the settings before.  Texts that are refused are refused
whatever the settings were, for the reason of the first one. -/
theorem Config.withTexts_stable (c : Config) (t : SettingsTexts) :
    match c.withTexts t with
    | .ok settings =>
        t.Read settings ∧ settings.withTexts settings.texts = .ok settings ∧
          ∀ other : Config, other.withTexts t = .ok settings
    | .error cause =>
        t.FirstRefused cause ∧ ∀ other : Config, other.withTexts t = .error cause := by
  rcases t.accepted_or_refused with ⟨n, haccepted⟩ | ⟨cause, hfirst, hrefused⟩
  · rw [haccepted.withTexts_eq_ok c]
    exact ⟨haccepted.read, haccepted.withTexts_texts _, haccepted.withTexts_eq_ok⟩
  · rw [hrefused c]
    exact ⟨hfirst, hrefused⟩

end StubConsole
