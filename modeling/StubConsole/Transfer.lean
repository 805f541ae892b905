import StubConsole.ApiError
import StubConsole.Notice

/-!
# Transfer — reading specifications and writing stubs to files

A specification is read from a file and sent to the server, which makes stubs of it.  The stubs of
the server are written to a file of a fixed name in a directory.

* `ImportFormat` — the formats to choose from; the server reads one of them;
* `ImportOutcome`, `ImportError`, `ExportError` — how a transfer ends, in words.
-/

namespace StubConsole

inductive ImportFormat where
  | openApi
  | postman
  | har
  deriving DecidableEq, Repr

namespace ImportFormat

def all : List ImportFormat := [.openApi, .postman, .har]

def label : ImportFormat → String
  | .openApi => "OpenAPI / Swagger"
  | .postman => "Postman Collection"
  | .har => "HAR File"

def next : ImportFormat → ImportFormat
  | .openApi => .postman
  | .postman => .har
  | .har => .openApi

def isSupported (format : ImportFormat) : Bool := format = .openApi

end ImportFormat

/-! ## Import -/

inductive ImportOutcome where
  | imported (created : Nat)
  | unsupported
  deriving DecidableEq, Repr

def ImportOutcome.message : ImportOutcome → String
  | .imported created =>
      "Successfully imported OpenAPI specification (" ++ Text.ofNat created ++ " stubs created)"
  | .unsupported => "This import type is not yet implemented"

inductive ImportError where
  | unreadable (path detail : String)
  | rejected (cause : ApiError)
  deriving DecidableEq, Repr

def ImportError.message : ImportError → String
  | .unreadable path detail => "Import failed: could not read " ++ path ++ ": " ++ detail
  | .rejected cause => "Import failed: server rejected the specification: " ++ cause.text

/-- What the import page says of a finished import. -/
def ImportOutcome.notice : Except ImportError ImportOutcome → Notice
  | .ok (.imported created) => .success (ImportOutcome.imported created).message
  | .ok .unsupported => .info ImportOutcome.unsupported.message
  | .error e => .error e.message

/-! ## Export -/

/-- The name of the file that an export writes. -/
def exportFileName : String := "wiremock-stubs.json"

inductive ExportError where
  | notFetched (cause : ApiError)
  | noDirectory (dir detail : String)
  | notWritten (file detail : String)
  deriving DecidableEq, Repr

def ExportError.message : ExportError → String
  | .notFetched cause => "Export failed: could not fetch stubs: " ++ cause.text
  | .noDirectory dir detail => "Export failed: could not create " ++ dir ++ ": " ++ detail
  | .notWritten file detail => "Export failed: could not write " ++ file ++ ": " ++ detail

/-- What the import page says of a finished export, which names the file that was written. -/
def exportNotice : Except ExportError String → Notice
  | .ok file => .success ("Exported stubs to " ++ file)
  | .error e => .error e.message

end StubConsole
