import CodeViewer.Fault

/-!
# The clipboard

Copied text goes to the clipboard of the system or, where that cannot be had, to one of the
program's own, which other programs do not see.
-/

namespace CodeViewer

/-- Which clipboard is in use. -/
inductive ClipboardMethod where
  | system
  | internal
  /-- A code that stands for no clipboard. -/
  | undefined
  deriving DecidableEq, Repr

namespace ClipboardMethod

/-- The method of a code. -/
def ofCode (code : UInt8) : ClipboardMethod :=
  match code with
  | 0 => system
  | 1 => internal
  | _ => undefined

end ClipboardMethod

/-- Why the clipboard of the system cannot be used. -/
inductive ClipboardError where
  /-- No program that serves the clipboard was found. -/
  | notFound
  /-- The program that was to serve the clipboard is missing. -/
  | missingProgram (program : String)
  deriving DecidableEq, Repr

/-- The report of a clipboard error. -/
def ClipboardError.message : ClipboardError → String
  | .notFound => "System clipboard not found, install xclip/xsel"
  | .missingProgram program =>
    "exec: \"" ++ program ++ "\": executable file not found in $PATH"

/-- The clipboard of the system. -/
inductive SystemClipboard where
  /-- The program that serves it is not there. -/
  | missing (program : String)
  | holding (text : ByteArray)

/-- Both clipboards and which of them is in use. -/
structure Clipboard where
  method : ClipboardMethod
  internal : ByteArray
  system : SystemClipboard

namespace Clipboard

/-- An empty clipboard of the program's own. -/
def empty : Clipboard := ⟨.internal, ByteArray.empty, .missing "clip.exe"⟩

/-- Choose a clipboard. The program starts no other programs to look for the clipboard of the
system, so it always uses its own and says why. -/
def choose (c : Clipboard) : Clipboard × ClipboardError :=
  ({ c with method := .internal }, .notFound)

/-- Replace the copied text. -/
def write (c : Clipboard) (text : ByteArray) : Except Fault (Clipboard × Option ClipboardError) :=
  match c.method with
  | .internal => .ok ({ c with internal := text }, none)
  | .system =>
    match c.system with
    | .missing program => .ok (c, some (.missingProgram program))
    | .holding _ => .ok ({ c with system := .holding text }, none)
  | .undefined => .error .unknownClipboard

/-- The copied text. -/
def read (c : Clipboard) : Except Fault (ByteArray × Option ClipboardError) :=
  match c.method with
  | .internal => .ok (c.internal, none)
  | .system =>
    match c.system with
    | .missing program => .ok (ByteArray.empty, some (.missingProgram program))
    | .holding text => .ok (text, none)
  | .undefined => .error .unknownClipboard

end Clipboard

end CodeViewer
