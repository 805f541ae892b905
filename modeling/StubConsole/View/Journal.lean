import StubConsole.Console.Basic
import StubConsole.Json.Reformat
import StubConsole.View.StubList

/-!
# Journal — the page of the request journal

The logs are on the left; next to them, if they are wanted, the details of the one under the
cursor.
-/

namespace StubConsole

namespace View

/-! ## Rows -/

def logEntry (log : RequestLog) : Entry :=
  let matched : Span := if log.wasMatched then .colored .green "✓" else .colored .red "✗"
  .plain [⟨Palette.muted, Text.padEnd 25 log.timestamp⟩, methodSpan log.request.method,
    statusSpan log.responseDefinition.status, matched, .plain " ", .plain log.request.url]

/-- The filters and the order, in words. -/
def journalTitle (view : JournalView) : String :=
  let status := match view.statusPrefix with
    | some digit => digit ++ "xx"
    | none => "all"
  " Request Journal [method: " ++ view.method.getD "all" ++ "] [status: " ++ status ++ "] ["
    ++ view.order.arrow ++ "] "

/-! ## Details -/

/-- The lines of a body; JSON is shown in pretty form. -/
def bodyLines (body : String) : List String := Text.lines (Json.reformat body)

def nonEmpty? (text : Option String) : Option String := text.filter (· ≠ "")

def requestLines (r : LoggedRequest) : List Line :=
  let part (title : String) (rows : List String) : List Line :=
    Line.styled Palette.heading title :: rows.map Line.ofText
  let headers := r.headers.entries.map fun (name, values) =>
    "  " ++ name ++ ": " ++ Text.join ", " values
  let query := r.queryParams.entries.map fun (name, values) =>
    "  " ++ name ++ "=" ++ Text.join "," values
  part "Request headers" headers
    ++ (if query.isEmpty then [] else part "Query parameters" query)
    ++ match nonEmpty? r.body with
      | some body => part "Request body" (bodyLines body)
      | none => []

def responseLines (r : LoggedResponse) : List Line :=
  [⟨Palette.heading, "Response "⟩, .colored (Palette.status r.status) (Text.ofNat r.status)]
    :: (r.headers.entries.map fun (name, value) => Line.ofText ("  " ++ name ++ ": " ++ value))
    ++ match nonEmpty? r.body, r.bodyFileName with
      | some body, _ => (bodyLines body).map Line.ofText
      | none, some file => [Line.styled Palette.muted ("(body from file " ++ file ++ ")")]
      | none, none => []

def logLines (log : RequestLog) : List Line :=
  let origin : List Line := match log.stubMapping with
    | some stub => [[⟨Palette.muted, "Matched stub: "⟩, .plain stub]]
    | none => if log.wasMatched then [] else [Line.colored .red "No stub matched"]
  [[.colored (Palette.method log.request.method) (log.request.method ++ " "),
      .plain (log.request.absoluteUrl.getD log.request.url)],
    Line.styled Palette.muted log.timestamp]
    ++ origin ++ [[]] ++ requestLines log.request ++ [[]] ++ responseLines log.responseDefinition

def logDetails (log : Option RequestLog) : Drawing :=
  let inner := match log with
    | some log => Paragraph.wrapped (logLines log) 0
    | none => note (.colored .darkGray) "No request selected"
  inner.framed " Details " Palette.unfocused

/-! ## The page -/

def journalRows (s : Console) (turn : Nat) : Drawing :=
  let view := s.journal
  let cache := s.requests
  let shown := view.shown cache.items
  let title := journalTitle view
  let beside (list details : Drawing) : Drawing :=
    if view.showDetails then .beside 50 list details else list
  if cache.isLoading && cache.items.isEmpty then beside (loading title turn) .blank
  else if shown.isEmpty then beside (placeholder title cache.error "No requests recorded") .blank
  else
    beside (page title (Listing.withCursor (shown.map logEntry) view.selected))
      (logDetails (view.selectedEntry? cache.items))

def journalPage (s : Console) (turn : Nat) : Drawing :=
  let view := s.journal
  let items := s.requests.items
  .above 3
    (searchBox view.search (s.mode = .searching) (view.shown items).length items.length)
    (journalRows s turn)

end View

end StubConsole
