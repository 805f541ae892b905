import StubConsole.Console.Basic
import StubConsole.View.Parts

/-!
# StubList — the lists of stubs and of scenarios
-/

namespace StubConsole

namespace View

/-! ## Stubs -/

/-- A status as wide as the column of statuses. -/
def statusSpan (status : Nat) : Span :=
  .colored (Palette.status status) (Text.padEnd 4 (Text.ofNat status))

/-- What a row shows of a stub besides method, name and secondary text. -/
def stubColumns : (kind : StubKind) → kind.Item → Line
  | .rest, stub =>
      statusSpan stub.response.status :: disabledMark stub.isEnabled
  | .graphQl, stub =>
      .colored .magenta (Text.padEnd 13 (stub.operationType?.getD "operation"))
        :: disabledMark stub.enabled
  | .soap, stub =>
      .colored .magenta (Text.padEnd 5 stub.soapVersion.name) :: disabledMark stub.isEnabled
where
  disabledMark (enabled : Bool) : Line :=
    if enabled then [] else [⟨Palette.muted, "(disabled) "⟩]

/-- A method as wide as the column of methods. -/
def methodSpan (method : String) : Span :=
  ⟨(Style.colored (Palette.method method)).strong, Text.padEnd 7 method⟩

def stubEntry (kind : StubKind) (confirm : DeleteConfirm) (item : kind.Item) : Entry :=
  let armed := confirm.isArmed (Listed.id item)
  let warning : Line :=
    if armed then [⟨(Style.colored .red).strong, "  Press d again to delete"⟩] else []
  ⟨((Listed.method? item).map methodSpan).toList ++ stubColumns kind item
      ++ [.colored .white (Listed.name item), .plain "  ", ⟨Palette.muted, Listed.secondary item⟩]
      ++ warning,
    if armed then Palette.armed else .plain⟩

/-- The title of a list, with the last failure. -/
def listTitle (title : String) (error : Option String) : String :=
  match error with
  | some error => title ++ "- " ++ error ++ " "
  | none => title

def stubRows (kind : StubKind) (s : Console) (turn : Nat) : Drawing :=
  let cache := s.cacheOf kind
  let view := s.viewOf kind
  let shown := view.filter cache.items
  let filter := match view.method with
    | some method => " [" ++ method ++ "]"
    | none => ""
  let title := " " ++ kind.page.title ++ filter ++ " "
  if cache.isLoading && cache.items.isEmpty then loading title turn
  else if cache.items.isEmpty then
    placeholder title cache.error "No stubs yet\n\nPress [n] to create one"
  else if shown.isEmpty then
    emptiness title "No matching stubs\n\nPress [Esc] or [Ctrl+L] to clear search"
  else
    page (listTitle title cache.error)
      (Listing.withCursor (shown.map (stubEntry kind view.confirm)) view.selected)

def stubPage (kind : StubKind) (s : Console) (turn : Nat) : Drawing :=
  let view := s.viewOf kind
  let items := (s.cacheOf kind).items
  .above 3
    (searchBox view.search (s.mode = .searching) (view.filter items).length items.length)
    (stubRows kind s turn)

/-! ## Scenarios -/

def scenarioEntry (scenario : Scenario) : Entry :=
  .plain [.colored .white (Text.padEnd 30 scenario.name),
    ⟨(Style.colored .green).strong, "[" ++ scenario.state ++ "]"⟩, .plain "  ",
    ⟨Palette.muted, Text.join " | " scenario.possibleStates⟩]

def scenarioPage (s : Console) (turn : Nat) : Drawing :=
  let title := " Scenarios "
  let cache := s.scenarios
  if cache.isLoading && cache.items.isEmpty then loading title turn
  else if cache.items.isEmpty then placeholder title cache.error "No scenarios defined"
  else
    page (listTitle title cache.error)
      (Listing.withCursor (cache.items.map scenarioEntry) s.scenarioPage.selected)

end View

end StubConsole
