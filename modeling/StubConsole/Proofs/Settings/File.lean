import StubConsole.Disk
import StubConsole.Proofs.Settings.Texts
import StubConsole.Proofs.Toml.Document

/-!
# File — settings that are stored are loaded again

The file of the settings lists three tables.  What a text holds does not matter, since it is quoted
and read back; a key that is not set is left out and read as not set, while its table keeps its
header, so that the interval is always given.

* `Config.tables` — the file as a list of tables;
* `Config.HasHome` — a disk with a place for the file;
* `Config.ofFile?_file` — any settings with an interval that fits are read back;
* `Config.stored_and_loaded` — so are the settings that were read from texts, by way of the disk.
-/

namespace StubConsole

/-! ## What is on a disk -/

namespace Disk

theorem lookup_filter_ne (entries : List (Place × DiskEntry)) (place other : Place) :
    (entries.filter fun e => e.1 ≠ place).lookup other
      = if other = place then none else entries.lookup other := by
  induction entries with
  | nil => simp
  | cons e entries ih =>
      by_cases hplace : e.1 = place
      · rw [List.filter_cons_of_neg (by simpa using hplace), ih]
        split
        next => rfl
        next hother =>
          have hne : (other == e.1) = false := by
            rw [hplace]
            simpa using hother
          rw [List.lookup_cons, hne]
      · rw [List.filter_cons_of_pos (by simpa using hplace), List.lookup_cons, ih, List.lookup_cons]
        by_cases hother : other = e.1
        · simp [hother, hplace]
        · have hne : (other == e.1) = false := by simpa using hother
          simp only [hne]

theorem at?_put (d : Disk) {place : Place} (hplace : place ≠ []) (entry : DiskEntry)
    (other : Place) :
    (d.put place entry).at? other = if other = place then some entry else d.at? other := by
  cases other with
  | nil => rw [if_neg hplace.symm]; rfl
  | cons name names =>
      have hput : (d.put place entry).at? (name :: names)
          = (d.entries.filter (fun e => e.1 ≠ place) ++ [(place, entry)]).lookup (name :: names) :=
        rfl
      rw [hput, List.lookup_append, lookup_filter_ne]
      by_cases hother : name :: names = place
      · simp [hother]
      · have hne : (name :: names == place) = false := by simpa using hother
        rw [if_neg hother, if_neg hother, List.lookup_cons, hne]
        exact Option.or_none

end Disk

namespace Config

/-! ## Tables -/

def textEntries (key : String) (bare : Toml.BareKey key) (value : Option String) :
    List Toml.Entry :=
  (value.map fun s => ⟨key, Toml.quoted s.toList, .text s, bare, Toml.spells_quoted s⟩).toList

def serverTable (c : Config) : Toml.Table where
  name := "server"
  entries := textEntries "api_base_url" (by decide) c.apiBaseUrl
    ++ textEntries "mock_server_url" (by decide) c.mockServerUrl
  bare := by decide
  distinct := by cases c.apiBaseUrl <;> cases c.mockServerUrl <;> simp [textEntries]

def recordingTable (c : Config) : Toml.Table where
  name := "recording"
  entries := [⟨"poll_interval_secs", Text.decimal c.pollIntervalSecs, .whole c.pollIntervalSecs,
    by decide, Toml.spells_decimal _⟩]
  bare := by decide
  distinct := List.nodup_singleton _

def exportTable (c : Config) : Toml.Table where
  name := "export"
  entries := textEntries "directory" (by decide) c.exportDirectory
  bare := by decide
  distinct := by cases c.exportDirectory <;> simp [textEntries]

def tables (c : Config) : List Toml.Table := [c.serverTable, c.recordingTable, c.exportTable]

theorem flatMap_textEntries (key : String) (bare : Toml.BareKey key) (value : Option String) :
    (textEntries key bare value).flatMap Toml.Entry.chars = textEntry key value := by
  cases value with
  | none => rfl
  | some s => simp [textEntry, textEntries, entry, Toml.Entry.chars]

theorem chars_serverTable (c : Config) :
    c.serverTable.chars = "[server]\n".toList ++ (textEntry "api_base_url" c.apiBaseUrl
      ++ textEntry "mock_server_url" c.mockServerUrl) := by
  simp [Toml.Table.chars, Toml.Table.header, serverTable, flatMap_textEntries]

theorem chars_recordingTable (c : Config) :
    c.recordingTable.chars = "[recording]\n".toList
      ++ entry "poll_interval_secs" (Text.decimal c.pollIntervalSecs) := by
  simp [Toml.Table.chars, Toml.Table.header, recordingTable, Toml.Entry.chars, entry]

theorem chars_exportTable (c : Config) :
    c.exportTable.chars = "[export]\n".toList ++ textEntry "directory" c.exportDirectory := by
  simp [Toml.Table.chars, Toml.Table.header, exportTable, flatMap_textEntries]

theorem chars_tables (c : Config) :
    Toml.chars c.tables
      = c.serverTable.chars ++ '\n' :: (c.recordingTable.chars ++ '\n' :: c.exportTable.chars) := by
  simp [Toml.chars, tables, Text.joinWith]

theorem file_eq (c : Config) : c.file = String.ofList (Toml.chars c.tables) := by
  rw [chars_tables, chars_serverTable, chars_recordingTable, chars_exportTable]
  unfold file
  simp

/-! ## Reading back -/

theorem server?_value (c : Config) :
    server? (some c.serverTable.value) = some (c.apiBaseUrl, c.mockServerUrl) := by
  -- each of the two keys is either written or left out
  cases hapi : c.apiBaseUrl <;> cases hmock : c.mockServerUrl <;>
    simp [serverTable, Toml.Table.value, textEntries, hapi, hmock, server?, values?,
      List.lookup_cons, text?]

theorem recording?_value {c : Config} (h : c.pollIntervalSecs ≤ Json.maxWord) :
    recording? (some c.recordingTable.value) = some c.pollIntervalSecs := by
  have hfits : (c.pollIntervalSecs : Int) ≤ Json.maxWord := Int.ofNat_le.2 h
  simp [recordingTable, Toml.Table.value, recording?, values?, List.lookup_cons, hfits]

theorem export?_value (c : Config) :
    export? (some c.exportTable.value) = some c.exportDirectory := by
  cases hdir : c.exportDirectory <;>
    simp [exportTable, Toml.Table.value, textEntries, hdir, export?, values?, List.lookup_cons,
      text?]

theorem ofFile?_file {c : Config} (h : c.pollIntervalSecs ≤ Json.maxWord) :
    ofFile? c.file = some c := by
  have hparse : Toml.parse? c.file = some (.table [("server", c.serverTable.value),
      ("recording", c.recordingTable.value), ("export", c.exportTable.value)]) := by
    rw [file_eq]
    exact Toml.parse?_chars (by simp [tables, serverTable, recordingTable, exportTable])
  simp [ofFile?, hparse, Toml.get?, List.lookup_cons, server?_value, recording?_value h,
    export?_value]

/-! ## The file on a disk -/

/-- The file, name by name from the home directory. -/
def place : Place := [".config", "wiremock-tui", "config.toml"]

theorem at?_put_place (d : Disk) (text : String) (other : Place) :
    (d.put place (.file text)).at? other
      = if other = place then some (.file text) else d.at? other :=
  d.at?_put (List.cons_ne_nil _ _) _ other

/-- The directory of the file is there, and no directory stands in the file's place. -/
structure HasHome (d : Disk) : Prop where
  outer : d.at? [".config"] = some .directory
  inner : d.at? [".config", "wiremock-tui"] = some .directory
  free : d.at? place ≠ some .directory

namespace HasHome

variable {d : Disk}

theorem walk_inner (h : HasHome d) :
    d.walk [] [".config", "wiremock-tui"] = .ok [".config", "wiremock-tui"] := by
  have htop : d.at? [] = some .directory := rfl
  simp [Disk.walk, htop, h.outer]

theorem walk_place (h : HasHome d) : d.walk [] place = .ok place := by
  have htop : d.at? [] = some .directory := rfl
  simp [place, Disk.walk, htop, h.outer, h.inner]

/-- The directory is not made again, and the file is put into it. -/
theorem write_eq (h : HasHome d) (text : String) :
    d.write ".config/wiremock-tui" "config.toml" text = (.ok (), d.put place (.file text)) := by
  have hnames : Disk.namesOf ".config/wiremock-tui" = [".config", "wiremock-tui"] := by
    decide +kernel
  have htaken : d.make [".config", "wiremock-tui"] = .error .taken := by
    rw [Disk.make, h.walk_inner]
    simp only [bind, Except.bind, h.inner]
    rfl
  have hthere : d.isDirectory [".config", "wiremock-tui"] = true := by
    simp [Disk.isDirectory, h.walk_inner, h.inner]
  have hmade : d.makeAll ".config/wiremock-tui" = .ok d := by
    simp [Disk.makeAll, hnames, Disk.makeAllFrom, Disk.ensure, htaken, hthere]
  have hplace : d.walk [] ([".config", "wiremock-tui"] ++ ["config.toml"]) = .ok place :=
    h.walk_place
  simp only [Disk.write, hmade, hnames, hplace, h.free, if_false]

theorem put (h : HasHome d) (text : String) : HasHome (d.put place (.file text)) := by
  refine ⟨?_, ?_, ?_⟩
  · rw [at?_put_place, if_neg (by decide), h.outer]
  · rw [at?_put_place, if_neg (by decide), h.inner]
  · rw [at?_put_place, if_pos rfl]
    exact nofun

theorem read_put (h : HasHome d) (text : String) :
    (d.put place (.file text)).read relativePath = .ok text := by
  have hnames : Disk.namesOf relativePath = place := by decide +kernel
  have hgiven : relativePath ≠ "" := by decide
  have hfile : Disk.asksDirectory relativePath = false := by decide +kernel
  have hat : (d.put place (.file text)).at? place = some (.file text) := by
    rw [at?_put_place, if_pos rfl]
  rw [Disk.read, if_neg hgiven, hnames, (h.put text).walk_place]
  simp only [bind, Except.bind, hat, hfile]
  rfl

end HasHome

/-- Settings that were read from texts are stored, and loaded as they are: whatever the texts hold,
and whatever else is on the disk. -/
theorem stored_and_loaded {c settings : Config} {t : SettingsTexts}
    (h : c.withTexts t = .ok settings) :
    ofFile? settings.file = some settings ∧
      ∀ d : Disk, HasHome d → ∃ after,
        d.write ".config/wiremock-tui" "config.toml" settings.file = (.ok (), after) ∧
          after.read relativePath = .ok settings.file := by
  have hfits : settings.pollIntervalSecs ≤ Json.maxWord := by
    rcases t.accepted_or_refused with ⟨n, haccepted⟩ | ⟨cause, -, hrefused⟩
    · rw [haccepted.withTexts_eq_ok c] at h
      obtain rfl := Except.ok.inj h
      exact haccepted.interval.bounds.2
    · rw [hrefused c] at h
      cases h
  exact ⟨ofFile?_file hfits, fun d hhome => ⟨_, hhome.write_eq _, hhome.read_put _⟩⟩

/-- Quotes of both kinds, backslashes, control characters and line feeds, and the longest
interval. -/
theorem stored_and_loaded_quoting :
    let texts : SettingsTexts :=
      ⟨" https://h/a\"b'c\\d ", "http://h/\tx\x01", "+18446744073709551615", "é\nof \"today\""⟩
    let settings : Config :=
      ⟨some "https://h/a\"b'c\\d", some "http://h/\tx\x01", 18446744073709551615,
        some "é\nof \"today\""⟩
    let disk : Disk :=
      ⟨[([".config"], .directory), ([".config", "wiremock-tui"], .directory)]⟩
    Config.default.withTexts texts = .ok settings ∧ ofFile? settings.file = some settings ∧
      ∃ after, disk.write ".config/wiremock-tui" "config.toml" settings.file = (.ok (), after) ∧
        after.read relativePath = .ok settings.file := by
  intro texts settings disk
  have hread : Config.default.withTexts texts = .ok settings := by
    decide +kernel
  obtain ⟨hloaded, hstored⟩ := stored_and_loaded hread
  exact ⟨hread, hloaded, hstored disk ⟨rfl, rfl, by decide⟩⟩

end Config

end StubConsole
