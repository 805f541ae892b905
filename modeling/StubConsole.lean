import StubConsole.AdminApi
import StubConsole.ApiError
import StubConsole.Cache
import StubConsole.Choices
import StubConsole.Config
import StubConsole.Console.Action
import StubConsole.Console.Basic
import StubConsole.Console.Begin
import StubConsole.Console.Command
import StubConsole.Console.Keys
import StubConsole.Console.Task
import StubConsole.Dashboard
import StubConsole.Decimal.Fixed
import StubConsole.Decimal.Reading
import StubConsole.Decimal.Shortest
import StubConsole.Disk
import StubConsole.Draft
import StubConsole.Editor
import StubConsole.Execution
import StubConsole.Form.Basic
import StubConsole.Form.GraphQl
import StubConsole.Form.Rest
import StubConsole.Form.Rows
import StubConsole.Form.Soap
import StubConsole.GraphQlStub
import StubConsole.Http.Reply
import StubConsole.Http.Wire
import StubConsole.Instant
import StubConsole.JournalView
import StubConsole.Json.Basic
import StubConsole.Json.Printer
import StubConsole.Json.Reader
import StubConsole.Json.Record
import StubConsole.Json.Reformat
import StubConsole.Key
import StubConsole.ListView
import StubConsole.Notice
import StubConsole.Outgoing
import StubConsole.Page
import StubConsole.Proofs.Admin.RecordAddress
import StubConsole.Proofs.Cache.OrderedMap
import StubConsole.Proofs.Cache.Refetch
import StubConsole.Proofs.Console.Acknowledged
import StubConsole.Proofs.Console.Armed
import StubConsole.Proofs.Console.Cursor
import StubConsole.Proofs.Console.Dialog
import StubConsole.Proofs.Console.Failures
import StubConsole.Proofs.Console.Fetches
import StubConsole.Proofs.Console.FieldEdit
import StubConsole.Proofs.Console.Focus
import StubConsole.Proofs.Console.Formatting
import StubConsole.Proofs.Console.Holdings
import StubConsole.Proofs.Console.InFlight
import StubConsole.Proofs.Console.Keys
import StubConsole.Proofs.Console.LateAnswers
import StubConsole.Proofs.Console.Modes
import StubConsole.Proofs.Console.OneCall
import StubConsole.Proofs.Console.Pane
import StubConsole.Proofs.Console.PickedState
import StubConsole.Proofs.Console.Quiet
import StubConsole.Proofs.Console.Reached
import StubConsole.Proofs.Console.SaveUnderWay
import StubConsole.Proofs.Console.ScenarioMoves
import StubConsole.Proofs.Console.Steps
import StubConsole.Proofs.Console.TwoPresses
import StubConsole.Proofs.Console.Typing
import StubConsole.Proofs.Decimal.Exact
import StubConsole.Proofs.Form.Address
import StubConsole.Proofs.Form.Apart
import StubConsole.Proofs.Form.HiddenRules
import StubConsole.Proofs.Form.Plain
import StubConsole.Proofs.Form.RowGrammar
import StubConsole.Proofs.Form.Rows
import StubConsole.Proofs.Form.ScenarioStates
import StubConsole.Proofs.Form.Shown
import StubConsole.Proofs.Form.Unedited
import StubConsole.Proofs.Journal.Calendar
import StubConsole.Proofs.Journal.Instants
import StubConsole.Proofs.Journal.Order
import StubConsole.Proofs.Json.Deeper
import StubConsole.Proofs.Json.Delivered
import StubConsole.Proofs.Json.ReadBack
import StubConsole.Proofs.Json.Scalars
import StubConsole.Proofs.Json.Skipping
import StubConsole.Proofs.Json.Sorting
import StubConsole.Proofs.Json.Spelling
import StubConsole.Proofs.Json.Value
import StubConsole.Proofs.ListView.Search
import StubConsole.Proofs.Outgoing.EmptyInFront
import StubConsole.Proofs.Outgoing.Operation
import StubConsole.Proofs.Outgoing.Parameters
import StubConsole.Proofs.Outgoing.SameServer
import StubConsole.Proofs.Record.LogCodec
import StubConsole.Proofs.Record.PatternCodec
import StubConsole.Proofs.Record.RoundTrip
import StubConsole.Proofs.Record.Rules
import StubConsole.Proofs.Record.Slots
import StubConsole.Proofs.Record.StubCodec
import StubConsole.Proofs.Record.Values
import StubConsole.Proofs.Session.Built
import StubConsole.Proofs.Session.Coherent
import StubConsole.Proofs.Session.Edits
import StubConsole.Proofs.Session.Formatted
import StubConsole.Proofs.Session.SameDocument
import StubConsole.Proofs.Session.SaveTarget
import StubConsole.Proofs.Session.Steps
import StubConsole.Proofs.Session.Toggle
import StubConsole.Proofs.Session.Unmodelled
import StubConsole.Proofs.Settings.File
import StubConsole.Proofs.Settings.Texts
import StubConsole.Proofs.SortedMap
import StubConsole.Proofs.Text.Cuts
import StubConsole.Proofs.Text.Lowercase
import StubConsole.Proofs.TextBuffer.CursorDrawn
import StubConsole.Proofs.TextBuffer.Editing
import StubConsole.Proofs.TextBuffer.Halves
import StubConsole.Proofs.TextBuffer.LineInView
import StubConsole.Proofs.TextBuffer.Lines
import StubConsole.Proofs.TextBuffer.Offsets
import StubConsole.Proofs.TextBuffer.Vertical
import StubConsole.Proofs.Toml.Document
import StubConsole.Proofs.Toml.Quoted
import StubConsole.Proofs.Url.Authorities
import StubConsole.Proofs.Url.Escapes
import StubConsole.Proofs.Url.Hosts
import StubConsole.Proofs.Url.Marks
import StubConsole.Proofs.Url.Numerals
import StubConsole.Proofs.Url.Origin
import StubConsole.Proofs.Url.Reading
import StubConsole.Proofs.Url.Segments
import StubConsole.Proofs.Url.Servers
import StubConsole.Proofs.Url.Written
import StubConsole.Recording
import StubConsole.RequestLog
import StubConsole.Scenario
import StubConsole.ScenarioDialog
import StubConsole.Screen.Line
import StubConsole.Screen.Listing
import StubConsole.Screen.Paragraph
import StubConsole.Screen.Picture
import StubConsole.Screen.Style
import StubConsole.Session
import StubConsole.SoapStub
import StubConsole.SortedMap
import StubConsole.Stub.Basic
import StubConsole.Stub.Codec
import StubConsole.Stub.Pattern
import StubConsole.Stub.Response
import StubConsole.StubKind
import StubConsole.Text.Blank
import StubConsole.Text.Cluster
import StubConsole.Text.Integer
import StubConsole.Text.Lines
import StubConsole.Text.Lowercase
import StubConsole.Text.Property
import StubConsole.Text.Ranges
import StubConsole.Text.Utf8
import StubConsole.Text.Width
import StubConsole.TextBuffer
import StubConsole.Toml.Basic
import StubConsole.Toml.Printer
import StubConsole.Toml.Reader
import StubConsole.Transfer
import StubConsole.Url.Basic
import StubConsole.Url.Host
import StubConsole.Url.Percent
import StubConsole.Url.Punycode
import StubConsole.Validation
import StubConsole.View.Bars
import StubConsole.View.Dialogs
import StubConsole.View.Editor
import StubConsole.View.Journal
import StubConsole.View.Pages
import StubConsole.View.Palette
import StubConsole.View.Parts
import StubConsole.View.StubList
