import StubConsole.Console.Basic
import StubConsole.View.Parts

/-!
# Bars — what stands around every page

* `header` — the address of the admin API, and whether something is under way;
* `sidebar` — the pages with their digits;
* `footer` — the last notice, or the keys that mean something at the moment.
-/

namespace StubConsole

/-- Something is under way. -/
def Console.isBusy (s : Console) : Bool :=
  (Collection.all.any fun c => (s.collection c).isLoading)
    || s.dashboard.loading || s.editor.executing || s.recording.busy || s.transfer.busy
    || s.scenarioPage.busy

namespace Page

/-- The keys of a page. -/
def help : Page → String
  | .dashboard => "1-9:Page  Tab:Next page  Ctrl+R:Refresh  q:Quit"
  | .stubs | .graphQl | .soap =>
      "j/k:Nav  /:Search  m:Method  n:New  e:Edit  d:Delete  y:Yank  Ctrl+R:Refresh  q:Quit"
  | .scenarios => "j/k:Nav  Enter:Set state  R:Reset all  Ctrl+R:Refresh  q:Quit"
  | .requests =>
      "j/k:Nav  /:Search  m:Method  s:Status  o:Order  Enter:Details  C:Clear  q:Quit"
  | .recording =>
      "e:Target URL  r:Record  s:Stop recording  p:Play  P:Stop playback  q:Quit"
  | .importExport => "t:Type  e:File path  i:Import  x:Export  q:Quit"
  | .settings => "j/k:Nav  e:Edit  s:Save  q:Quit"

end Page

/-- The keys that mean something at the moment. -/
def Console.help (s : Console) : String :=
  match s.mode with
  | .searching => "Type to filter  Enter:Keep  Esc:Clear  Ctrl+L:Clear"
  | .editingField => "Enter:Store  Ctrl+S:Store multi-line  Esc:Cancel"
  | .editingJson => "Ctrl+S:Save  Ctrl+F:Format  Esc:Stop editing"
  | .dialog => "↑/↓:Choose state  Enter:Apply  Esc:Cancel"
  | .normal =>
      if s.editor.isOpen then
        "Tab/h/l:Tab  j/k:Field  Enter:Edit  J:JSON  x:Execute  y:Yank  Ctrl+S:Save  Esc:Close"
      else s.page.help

namespace View

def header (s : Console) (apiBase : String) (turn : Nat) : Drawing :=
  let activity := if s.isBusy then spinner turn ++ " working" else "idle"
  message "" ("wiremock tui - " ++ apiBase ++ " [" ++ activity ++ "]") .cyan

def sidebarEntry (current p : Page) : Entry :=
  .plain [⟨Palette.muted, "[" ++ Text.ofNat (p.index + 1) ++ "] "⟩,
    ⟨if p = current then Palette.chosen else .colored .white, p.title⟩]

def sidebar (current : Page) : Drawing :=
  (Listing.plain (Page.all.map (sidebarEntry current))).framed " Pages " Palette.unfocused

def footer (s : Console) : Drawing :=
  match s.notice with
  | some notice => message "Commands" notice.text (Palette.tone notice.tone)
  | none => message "Commands" s.help .yellow

end View

end StubConsole
