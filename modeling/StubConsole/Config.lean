import StubConsole.Toml.Printer
import StubConsole.Toml.Reader
import StubConsole.Url.Basic

/-!
# Config — the settings of the console

The settings name the admin API, the mock server, the interval between looks at the recorder and
the directory for exports.  They live in a file and are edited as four texts.

* `Config` — the settings as they are stored; what is not set has a fallback;
* `Config.texts`, `Config.withTexts` — the four texts and back;
* `Config.file`, `Config.ofFile?` — the text of the file and back;
* `checkUrl` — which addresses are accepted.
-/

namespace StubConsole

/-! ## Addresses -/

inductive UrlFault where
  | empty
  | noHttp
  | malformed
  deriving DecidableEq, Repr

def UrlFault.message : UrlFault → String
  | .empty => "URL cannot be empty"
  | .noHttp => "URL must start with http:// or https://"
  | .malformed => "Invalid URL format"

/-- Nothing is wrong with an address that starts with `http://` or `https://` and can be read. -/
def checkUrl (url : String) : Except UrlFault Unit :=
  if url = "" then .error .empty
  else if !Text.beginsWith url "http://" && !Text.beginsWith url "https://" then .error .noHttp
  else
    match Url.parse url.toList with
    | .ok _ => .ok ()
    | .error _ => .error .malformed

/-- Scheme, host and port of an address; a text that is none is left as it is. -/
def originOf (url : String) : String :=
  match Url.parse url.toList with
  | .error _ => url
  | .ok u =>
      let host := u.host?.getD "localhost".toList
      let port := match u.port? with
        | none => []
        | some n => ':' :: Text.decimal n
      String.ofList (u.scheme ++ "://".toList ++ host ++ port)

/-! ## Settings -/

structure Config where
  apiBaseUrl : Option String
  mockServerUrl : Option String
  pollIntervalSecs : Nat
  exportDirectory : Option String
  deriving DecidableEq, Repr

/-- What the settings page lets the user edit. -/
inductive Setting where
  | apiBaseUrl
  | mockServerUrl
  | pollInterval
  | exportDirectory
  deriving DecidableEq, Repr

namespace Setting

/-- All settings, in the order of the page. -/
def all : List Setting := [.apiBaseUrl, .mockServerUrl, .pollInterval, .exportDirectory]

def label : Setting → String
  | .apiBaseUrl => "Admin API URL"
  | .mockServerUrl => "Mock Server URL"
  | .pollInterval => "Recording Poll Interval (s)"
  | .exportDirectory => "Export Directory"

/-- The setting below on the page, the last one below itself. -/
def below : Setting → Setting
  | .apiBaseUrl => .mockServerUrl
  | .mockServerUrl => .pollInterval
  | .pollInterval | .exportDirectory => .exportDirectory

/-- The setting above on the page, the first one above itself. -/
def above : Setting → Setting
  | .apiBaseUrl | .mockServerUrl => .apiBaseUrl
  | .pollInterval => .mockServerUrl
  | .exportDirectory => .pollInterval

end Setting

/-- The settings as the user sees and types them. -/
structure SettingsTexts where
  apiBaseUrl : String
  mockServerUrl : String
  pollInterval : String
  exportDirectory : String
  deriving DecidableEq, Repr

namespace SettingsTexts

def get (t : SettingsTexts) : Setting → String
  | .apiBaseUrl => t.apiBaseUrl
  | .mockServerUrl => t.mockServerUrl
  | .pollInterval => t.pollInterval
  | .exportDirectory => t.exportDirectory

def set (t : SettingsTexts) (text : String) : Setting → SettingsTexts
  | .apiBaseUrl => { t with apiBaseUrl := text }
  | .mockServerUrl => { t with mockServerUrl := text }
  | .pollInterval => { t with pollInterval := text }
  | .exportDirectory => { t with exportDirectory := text }

end SettingsTexts

inductive SettingsError where
  | apiUrl (cause : UrlFault)
  | mockUrl (cause : UrlFault)
  | interval
  deriving DecidableEq, Repr

def SettingsError.message : SettingsError → String
  | .apiUrl cause => "Admin API URL: " ++ cause.message
  | .mockUrl cause => "Mock server URL: " ++ cause.message
  | .interval => "Poll interval must be a whole number of seconds, at least 1"

/-- Why settings were not stored: a text was refused, or the file could not be written. -/
inductive SettingsFault where
  | refused (cause : SettingsError)
  | unwritten (detail : String)
  deriving DecidableEq, Repr

def SettingsFault.message : SettingsFault → String
  | .refused cause => cause.message
  | .unwritten detail => "Failed to save settings: " ++ detail

namespace Config

/-- Where the admin API is unless the settings say otherwise. -/
def defaultApiBase : String := "http://localhost:8080/api"

def default : Config := ⟨none, none, 2, none⟩

instance : Inhabited Config := ⟨default⟩

def apiBase (c : Config) : String := c.apiBaseUrl.getD defaultApiBase

/-- The mock server answers at the origin of the admin API unless it is set. -/
def mockBase (c : Config) : String := c.mockServerUrl.getD (originOf c.apiBase)

/-- The interval is at least one second. -/
def pollInterval (c : Config) : Nat := max c.pollIntervalSecs 1

def exportDir (c : Config) : String := c.exportDirectory.getD "."

/-- The settings as texts; what is not set shows its fallback, or nothing where the fallback
depends on other settings. -/
def texts (c : Config) : SettingsTexts :=
  ⟨c.apiBase, c.mockServerUrl.getD "", Text.ofNat c.pollInterval, c.exportDirectory.getD ""⟩

/-- A whole number of seconds, at least one, that fits 64 bits. -/
def interval? (s : String) : Option Nat :=
  (Text.natUpTo? Json.maxWord s.toList).filter (· ≥ 1)

def optional (s : String) : Option String := if s = "" then none else some s

/-- The settings with those that the texts name, blanks around them aside.  Nothing is changed if
one of them is refused. -/
def withTexts (c : Config) (t : SettingsTexts) : Except SettingsError Config := do
  let api := Text.trim t.apiBaseUrl
  let mock := Text.trim t.mockServerUrl
  (checkUrl api).mapError .apiUrl
  if mock ≠ "" then (checkUrl mock).mapError .mockUrl
  match interval? (Text.trim t.pollInterval) with
  | none => .error .interval
  | some secs =>
      return { c with
        apiBaseUrl := some api
        mockServerUrl := optional mock
        pollIntervalSecs := secs
        exportDirectory := optional (Text.trim t.exportDirectory) }

/-! ## The file -/

/-- Where the file is, seen from the home directory. -/
def relativePath : String := ".config/wiremock-tui/config.toml"

def entry (key : String) (value : List Char) : List Char :=
  key.toList ++ " = ".toList ++ value ++ ['\n']

def textEntry (key : String) : Option String → List Char
  | none => []
  | some value => entry key (Toml.quoted value.toList)

/-- The text of the file: three tables with a blank line between them; keys that are not set are
left out. -/
def file (c : Config) : String :=
  String.ofList <|
    "[server]\n".toList ++ textEntry "api_base_url" c.apiBaseUrl
      ++ textEntry "mock_server_url" c.mockServerUrl
      ++ "\n[recording]\n".toList ++ entry "poll_interval_secs" (Text.decimal c.pollIntervalSecs)
      ++ "\n[export]\n".toList ++ textEntry "directory" c.exportDirectory

/-- The values of a table's keys.  An array stands for the values in their order and has to give
all of them. -/
def values? (keys : List String) : Toml → Option (List (Option Toml))
  | .table entries => some (keys.map fun key => entries.lookup key)
  | .array items =>
      if items.length < keys.length then none else some ((items.take keys.length).map some)
  | _ => none

def text? : Option Toml → Option (Option String)
  | none => some none
  | some (.text s) => some (some s)
  | some _ => none

def server? : Option Toml → Option (Option String × Option String)
  | none => some (none, none)
  | some table => do
      match ← values? ["api_base_url", "mock_server_url"] table with
      | [api, mock] => return (← text? api, ← text? mock)
      | _ => none

/-- The interval has to be given once its table is. -/
def recording? : Option Toml → Option Nat
  | none => some default.pollIntervalSecs
  | some table => do
      match ← values? ["poll_interval_secs"] table with
      | [some (.whole n)] => if 0 ≤ n && n ≤ (Json.maxWord : Int) then some n.toNat else none
      | _ => none

def export? : Option Toml → Option (Option String)
  | none => some none
  | some table => do
      match ← values? ["directory"] table with
      | [directory] => text? directory
      | _ => none

/-- The settings in the text of a file; unknown keys do not matter. -/
def ofFile? (text : String) : Option Config := do
  let doc ← Toml.parse? text
  let (api, mock) ← server? (doc.get? "server")
  return ⟨api, mock, ← recording? (doc.get? "recording"), ← export? (doc.get? "export")⟩

end Config

end StubConsole
