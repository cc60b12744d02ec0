import CodeViewer.CommandLine.Run
import CodeViewer.Terminal.Keys
import CodeViewer.Terminal.Picture
import CodeViewer.Viewer.Session

/-!
# The program

Reads the files that the command line names, carries the command line out, and writes what comes
of it. Files that are to be shown are shown on the terminal, one frame for each event.
-/

namespace CodeViewer.Program

/-- The location that a path names by itself, without regard to what is there. -/
def locationOf (path : String) : Location :=
  match Directory.parts path with
  | "" :: rest => Directory.root ++ rest
  | parts => parts

/-- Look up a file. -/
def addFile (d : Directory) (path : String) : IO Directory := do
  try
    let contents ← IO.FS.readBinFile path
    return { d with files := d.files ++ [(locationOf path, contents)] }
  catch
    | .inappropriateType .. => return { d with directories := d.directories ++ [locationOf path] }
    | _ => return d

/-- Look up a file that is added to; it is created if that is possible. -/
def addLog (d : Directory) (path : String) : IO Directory := do
  if ["", "stderr", "stdout", "null", "syslog"].contains path then return d
  try
    let _ ← IO.FS.Handle.mk path .append
    addFile d path
  catch
    | .inappropriateType .. => return { d with directories := d.directories ++ [locationOf path] }
    | _ => return d

/-- All files that a command line names. -/
def gather (arguments : List String) : IO Directory := do
  match Options.parse arguments with
  | .error _ => return ⟨[], []⟩
  | .ok o =>
    let d ← [o.errorLog, o.infoLog, o.debugLog].foldlM addLog ⟨[], []⟩
    o.arguments.foldlM addFile d

/-- Add to a file what is new at its end. -/
def store (before : Directory) (path : String) (after : Directory) : IO Unit := do
  match before.file? (locationOf path), after.file? (locationOf path) with
  | some old, some new =>
    if old.size < new.size then
      let h ← IO.FS.Handle.mk path .append
      h.write (new.extract old.size new.size)
  | _, _ => return

/-- Write what a console holds. -/
def flush (before : Directory) (logs : List String) (c : Console) : IO Unit := do
  IO.print c.stdout
  IO.eprint c.stderr
  for path in logs.eraseDups do
    store before path c.directory

/-- A number from the environment. -/
def numberFrom (name : String) (otherwise : Nat) : IO Nat := do
  let value ← IO.getEnv name
  return (value.bind String.toNat?).getD otherwise

/-- Draw and act on keys until one ends the program. The end of the input closes the viewer. -/
partial def interact (v : Viewer) (pending : List KeyPress) : IO (Viewer × Option Fault) := do
  match v.draw with
  | .error f => return (v, some f)
  | .ok v =>
    let out ← IO.getStdout
    out.putStr (Terminal.picture v.screen)
    out.flush
    let pending ←
      if pending.isEmpty then do
        let sent ← (← IO.getStdin).read 64
        pure (Terminal.keys (Text.chars sent).toList)
      else pure pending
    match pending with
    | [] => return (v, none)
    | k :: pending =>
      match v.step (.key k) with
      | .error f => return (v, some f)
      | .ok none => return (v, none)
      | .ok (some next) => interact next pending

/-- Show files on the terminal. -/
def view (files : List SourceFile) (maxDepth : Int) : IO (Log × UInt32) := do
  let width ← numberFrom "COLUMNS" 80
  let height ← numberFrom "LINES" 24
  let (clipboard, e) := Clipboard.empty.choose
  let log := [Session.clipboardReport e]
  match Viewer.new files maxDepth (Screen.empty width height) clipboard Counters.empty log with
  | .error f =>
    IO.eprintln f.message
    return (log, 2)
  | .ok v =>
    let (v, fault?) ← interact v []
    IO.print Terminal.farewell
    match fault? with
    | none => return (v.log, 0)
    | some f =>
      IO.eprintln f.message
      return (v.log, 2)

/-- Carry out a command line; the answer is the exit status. -/
def run (arguments : List String) : IO UInt32 := do
  let before ← gather arguments
  let (c, ending) := CommandLine.run Registry.bundled before arguments
  let logs :=
    match Options.parse arguments with
    | .ok o => [o.errorLog, o.infoLog, o.debugLog]
    | .error _ => []
  match ending with
  | .exit status =>
    flush before logs c
    return status.toUInt32
  | .view files maxDepth targets =>
    let (log, status) ← view files maxDepth
    flush before logs (log.foldl (·.log targets) c)
    return status

end CodeViewer.Program

/-- The command line of the program. -/
def main (arguments : List String) : IO UInt32 := CodeViewer.Program.run arguments
