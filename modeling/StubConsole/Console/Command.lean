import StubConsole.Console.Basic

/-!
# Command — what a key asks of the world

A command needs the server, the disk, the clipboard or the settings file.  The keys only name it.
-/

namespace StubConsole

/-- What can be copied to the clipboard. -/
inductive CopySource where
  | stub
  | response
  deriving DecidableEq, Repr

def CopySource.noun : CopySource → String
  | .stub => "stub JSON"
  | .response => "response body"

inductive Command where
  /-- Fetches what the page shows. -/
  | refresh
  | delete (kind : StubKind) (id : String)
  | saveEditor
  | executeEditor
  | validateWsdl
  | setScenarioState (id state : String)
  | resetScenarios
  | clearJournal
  | recording (action : RecordingAction)
  | importSpec
  | exportStubs
  | saveSettings
  | copy (source : CopySource) (text : String)
  deriving DecidableEq, Repr

/-- What the user is told of a copy to the clipboard. -/
def Console.copyFinished (s : Console) (source : CopySource) : Except String Unit → Console
  | .ok () =>
      { s with
        copied := true
        notice := some (.info ("Copied " ++ source.noun ++ " to clipboard")) }
  | .error detail =>
      { s with notice := some (.error ("Failed to copy " ++ source.noun ++ ": " ++ detail)) }

end StubConsole
