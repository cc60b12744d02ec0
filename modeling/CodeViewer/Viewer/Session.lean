import CodeViewer.Viewer.Basic

/-!
# Sessions

A session draws the viewer, waits for an event and acts on it, until an event ends the program.
-/

namespace CodeViewer

/-- How a session ends. -/
inductive SessionEnd where
  | finished
  /-- The terminal cannot be used, for the given reason. -/
  | noTerminal (reason : String)
  | fault (fault : Fault)
  deriving DecidableEq, Repr

/-- What a session leaves behind. -/
structure Session where
  outcome : SessionEnd
  /-- The screens that were drawn, each before an event was waited for. -/
  frames : List Screen
  /-- The number of events that were acted on. -/
  used : Nat
  clipboard : Clipboard
  counters : Counters
  log : Log

namespace Session

/-- The end of a session in a state of the viewer. -/
def ending (v : Viewer) (outcome : SessionEnd) : Session :=
  ⟨outcome, [], 0, v.clipboard, v.counters, v.log⟩

/-- A session in which a frame was drawn before everything else. -/
def withFrame (s : Session) (frame : Screen) : Session := { s with frames := frame :: s.frames }

/-- A session in which an event was acted on before everything else. -/
def withEvent (s : Session) : Session := { s with used := s.used + 1 }

/-- Draw, and act on the events in turn. A session that no event has ended ends with them. -/
def run (v : Viewer) : List Event → Session
  | [] =>
    match v.draw with
    | .error f => ending v (.fault f)
    | .ok v => (ending v .finished).withFrame v.screen
  | e :: es =>
    match v.draw with
    | .error f => ending v (.fault f)
    | .ok v =>
      match v.step e with
      | .error f => (ending v (.fault f)).withEvent.withFrame v.screen
      | .ok none => (ending v .finished).withEvent.withFrame v.screen
      | .ok (some next) => (run next es).withEvent.withFrame v.screen

/-- The keys that end every session: the first one may only close the prompt. -/
def farewell : List Event := [.ofKey .escape, .ofKey .escape]

/-- The report that the clipboard of the system is not used. -/
def clipboardReport (e : ClipboardError) : LogEntry :=
  ⟨.info, "system clipboard unavailable, copying internally: " ++ e.message⟩

/-- A whole session on a terminal: choose a clipboard, open the viewer, act on the events and
then end the program. -/
def start (terminal : Except String Screen) (files : List SourceFile) (maxDepth : Int)
    (clipboard : Clipboard) (events : List Event) : Session :=
  match terminal with
  | .error reason => ⟨.noTerminal reason, [], 0, clipboard, Counters.empty, []⟩
  | .ok screen =>
    let (clipboard, e) := clipboard.choose
    let log := [clipboardReport e]
    match Viewer.new files maxDepth screen clipboard Counters.empty log with
    | .error f => ⟨.fault f, [], 0, clipboard, Counters.empty, log⟩
    | .ok v =>
      let s := run v (events ++ farewell)
      { s with used := min s.used events.length }

end Session

end CodeViewer
