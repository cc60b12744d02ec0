import CodeViewer.Metrics.Counters
import CodeViewer.Viewer.Copy
import CodeViewer.Viewer.Status
import CodeViewer.Widget.LinePrompt
import CodeViewer.Widget.StatusBar

/-!
# The viewer

The viewer shows one of several files, with a status bar in the last row of the screen. The
prompt for a line takes the place of the status bar while it is open, and all keys with it.
-/

namespace CodeViewer

/-- The parts of the viewer that can have the focus. -/
inductive Focus where
  | view
  | prompt
  deriving DecidableEq, Repr

/-- The state of the viewer between two events. -/
structure Viewer where
  files : List SourceFile
  maxDepth : Int
  screen : Screen
  /-- The size of the screen when it was last looked up. -/
  width : Nat
  height : Nat
  /-- The index of the file that is shown. -/
  current : Nat
  view : CodeView
  /-- The prompt, while it is open. -/
  prompt : Option LinePrompt
  /-- The part that has the focus, which gets the keys the viewer itself has no use for. -/
  focus : Focus
  bar : StatusBar
  /-- What stands in place of the left status text until the next key; empty for nothing. -/
  message : String
  clipboard : Clipboard
  counters : Counters
  log : Log

namespace Viewer

/-! ## Files -/

/-- The row below the view. -/
def lastRow (width height : Nat) : Bounds := ⟨0, (height : Int) - 1, width, 1⟩

/-- The rows above the last one. -/
def upperRows (width height : Nat) : Bounds := ⟨0, 0, width, (height : Int) - 1⟩

/-- A view of a file that has neither the focus nor a scan yet. -/
def viewOf (f : SourceFile) (maxDepth : Int) (width height : Nat) : CodeView :=
  let cv := CodeView.new f.path f.contents f.language
  { cv with
    bounds := upperRows width height
    highlighter := { cv.highlighter with maxDepth := maxDepth, observing := true } }

/-- The tokens that are observed in the later of two states of a view. -/
def newlyObserved (before after : CodeView) : List Token :=
  (after.highlighter.observed.toList).drop before.highlighter.observed.size

/-- Put an updated view in the place of the old one and count the tokens it has scanned. -/
def withView (v : Viewer) (cv : CodeView) : Viewer :=
  { v with
    view := cv
    counters := v.counters.countTokens (Language.title cv.language) (newlyObserved v.view cv) }

/-! ## Focus -/

/-- Take the focus from the part that has it. -/
def dropFocus (v : Viewer) : Except Fault Viewer := do
  match v.focus, v.prompt with
  | .view, _ =>
    let (cv, screen) ← v.view.setFocused false v.screen
    return { v with view := cv, screen := screen }
  | .prompt, some p =>
    let (field, screen) := p.field.setFocused false v.screen
    return { v with prompt := some ⟨field⟩, screen := screen }
  | .prompt, none => return v

/-- Give the focus to the view. -/
def focusView (v : Viewer) : Except Fault Viewer := do
  let (cv, screen) ← v.view.setFocused true v.screen
  return { v with view := cv, focus := .view, screen := screen }

/-- Give the focus to a prompt, which is open then. -/
def focusPrompt (v : Viewer) (p : LinePrompt) : Viewer :=
  let (field, screen) := p.field.setFocused true v.screen
  { v with prompt := some ⟨field⟩, focus := .prompt, screen := screen }

/-! ## Showing files -/

/-- Show a file in a view of its own. The view gets the focus and is scanned at once; an error
of the scan goes to the log and to the status bar. -/
def display (v : Viewer) (f : SourceFile) : Except Fault Viewer := do
  let v ← focusView { v with view := viewOf f v.maxDepth v.width v.height }
  let scanned := v.withView (← v.view.highlight)
  let error := scanned.view.highlighter.error
  return { scanned with
    counters := scanned.counters.countScan f.grammarName (error.map Failure.scan)
    log := scanned.log ++
      (error.map (fun e ↦ LogEntry.mk .error (f.path ++ ": " ++ e.message))).toList
    bar := { scanned.bar with error := error.map ScanError.message } }

/-- Switch to the file of an index. -/
def switchTo (v : Viewer) (i : Nat) : Except Fault Viewer := do
  match v.files[i]? with
  | none => throw .outOfRange
  | some f =>
    let v ← v.dropFocus
    display { v with current := i } f

/-- A viewer on a screen, which shows the first of its files. -/
def new (files : List SourceFile) (maxDepth : Int) (screen : Screen) (clipboard : Clipboard)
    (counters : Counters) (log : Log) : Except Fault Viewer := do
  match files[0]? with
  | none => throw .outOfRange
  | some f =>
    display
      { files := files
        maxDepth := maxDepth
        screen := screen
        width := screen.width
        height := screen.height
        current := 0
        view := viewOf f maxDepth screen.width screen.height
        prompt := none
        focus := .view
        bar := { StatusBar.new none with bounds := lastRow screen.width screen.height }
        message := ""
        clipboard := clipboard
        counters := counters
        log := log }
      f

/-! ## Drawing -/

/-- Bring the texts of the status bar up to date. -/
def updateBar (v : Viewer) : Except Fault Viewer := do
  let (cv, left, right) ← v.view.status
  let v := v.withView cv
  return { v with
    bar := { v.bar with left := if v.message = "" then left else v.message, right := right } }

/-- Draw the prompt, if it is open, or else the status bar. -/
def drawLastRow (v : Viewer) : Except Fault Viewer := do
  match v.prompt with
  | some p =>
    let (field, screen) ← p.field.draw v.screen
    return { v with prompt := some ⟨field⟩, screen := screen }
  | none =>
    let screen ← v.bar.draw v.screen
    return { v with screen := screen }

/-- Draw everything. -/
def draw (v : Viewer) : Except Fault Viewer := do
  let v ← v.updateBar
  let (cv, screen) ← v.view.draw v.screen.clear
  drawLastRow { v.withView cv with screen := screen }

/-! ## Events -/

/-- Open the prompt, which takes the focus from the view. -/
def openPrompt (v : Viewer) : Except Fault Viewer := do
  let field := { (LinePrompt.new none).field with bounds := lastRow v.width v.height }
  let v ← v.dropFocus
  return v.focusPrompt ⟨field⟩

/-- Close the prompt, which gives the focus back to the view. -/
def closePrompt (v : Viewer) : Except Fault Viewer := do
  let v ← v.dropFocus
  focusView { v with prompt := none }

/-- Pass a key on to the open prompt and act on its answer. -/
def promptKey (v : Viewer) (p : LinePrompt) (k : Key) : Except Fault Viewer := do
  let (_, p, screen, answer?) := p.handleKey k v.screen
  let v := { v with prompt := some p, screen := screen }
  match answer? with
  | none => return v
  | some .cancelled => v.closePrompt
  | some (.chosen line) =>
    let (cv, screen) ← v.view.gotoLine line v.screen
    closePrompt { v.withView cv with screen := screen }

/-- Take over what copying has led to. -/
def afterCopy (v : Viewer) (r : CopyResult) : Viewer :=
  { v.withView r.view with
    clipboard := r.clipboard
    message := r.message
    log := v.log ++ r.log }

/-- Pass a key on to the part that has the focus. -/
def focusedKey (v : Viewer) (k : KeyPress) : Except Fault Viewer := do
  match v.focus, v.prompt with
  | .view, _ =>
    let (_, cv, screen) ← v.view.handleKey k v.screen
    return { v.withView cv with screen := screen }
  | .prompt, some p => v.promptKey p k.key
  | .prompt, none => return v

/-- Act on a key while no prompt is open; the answer is nothing if the key ends the program. -/
def viewKey (v : Viewer) (k : KeyPress) : Except Fault (Option Viewer) := do
  let n := v.files.length
  match k.key with
  | .escape => return none
  | .control 'q' => return none
  | .control 'n' => return some (← v.switchTo ((v.current + 1) % n))
  | .control 'p' => return some (← v.switchTo ((v.current + n - 1) % n))
  | .control 'c' => return some (v.afterCopy (← v.view.copyToken v.clipboard))
  | .control 'l' => return some (v.afterCopy (← v.view.copyLine v.clipboard))
  | .control 'g' => return some (← v.openPrompt)
  | _ => return some (← v.focusedKey k)

/-- Fit everything into the screen. -/
def refit (v : Viewer) : Except Fault Viewer := do
  let width := v.screen.width
  let height := v.screen.height
  let bounds := v.view.bounds.withSize width ((height : Int) - 1)
  let cv ← { v.view with bounds := bounds }.scrollToCursor
  return { v.withView cv with
    width := width
    height := height
    bar := { v.bar with bounds := lastRow width height }
    prompt := v.prompt.map (fun p ↦ ⟨{ p.field with bounds := lastRow width height }⟩) }

/-- Act on an event; the answer is nothing if the event ends the program. -/
def step (v : Viewer) : Event → Except Fault (Option Viewer)
  | .resize size => do
    let screen := size.elim v.screen (fun (width, height) ↦ v.screen.resize width height)
    return some (← refit { v with screen := screen })
  | .key k => do
    let v := { v with message := "" }
    match v.prompt with
    | some p => return some (← v.promptKey p k.key)
    | none => v.viewKey k

end Viewer

end CodeViewer
