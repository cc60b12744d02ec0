import CodeViewer.Log
import CodeViewer.Metrics.Counters
import CodeViewer.SourceFile

/-!
# Dumps

A dump lists the tokens of a text, one to a line: the offsets of its first byte and of the byte
behind it, its class and its quoted text, with tabs between them.
-/

namespace CodeViewer

/-- Where a dump goes. -/
inductive Sink where
  | working
  /-- Nothing can be written, for the given reason. -/
  | failing (reason : String)
  deriving DecidableEq, Repr

/-- Why a dump is not complete. -/
inductive DumpError where
  | scan (error : ScanError)
  | write (reason : String)
  | fault (fault : Fault)
  deriving DecidableEq, Repr

/-- The report of an incomplete dump. -/
def DumpError.message : DumpError → String
  | .scan e => e.message
  | .write reason => reason
  | .fault f => f.message

/-- What a dump writes or reports, in order. -/
inductive DumpEvent where
  | output (text : String)
  | log (entry : LogEntry)
  deriving DecidableEq, Repr

namespace Dump

/-- The line of a token. -/
def tokenLine (t : Token) : String :=
  toString t.start ++ "\t" ++ toString t.stop ++ "\t" ++ t.cls ++ "\t" ++ Text.quote t.text
    ++ "\n"

/-- The lines of tokens. -/
def render (tokens : List Token) : String := String.join (tokens.map tokenLine)

/-- What comes of dumping one text. -/
structure Result where
  /-- What was written. -/
  text : String
  error : Option DumpError
  counters : Counters

/-- Dump a text and count its tokens. Tokens before a scan error are written. A text without
tokens writes nothing, so it does not notice a sink that fails. A scan that meets a fault does
not count. -/
def text (sink : Sink) (g : CompiledGrammar) (maxDepth : Int) (source : ByteArray)
    (c : Counters) : Result :=
  let (tokens, error) := scan g maxDepth source
  let c := c.countTokens g.name tokens.toList
  match error.bind ScanError.fault? with
  | some fault => ⟨"", some (.fault fault), c⟩
  | none =>
    let c := c.countScan g.name (error.map Failure.scan)
    match sink with
    | .working => ⟨render tokens.toList, error.map DumpError.scan, c⟩
    | .failing reason =>
      if tokens.isEmpty then ⟨"", error.map DumpError.scan, c⟩ else ⟨"", some (.write reason), c⟩

/-- The line in front of the tokens of a file, where there are several files. -/
def header (path : String) : String := "==> " ++ path ++ " <==\n"

/-- An error report about a file. -/
def report (path message : String) : DumpEvent := .log ⟨.error, path ++ ": " ++ message⟩

/-- Dump a file: what is written and reported, whether it failed, and what was counted. -/
def file (sink : Sink) (maxDepth : Int) (f : SourceFile) (c : Counters) :
    Except Fault (List DumpEvent × Bool × Counters) :=
  match f.language with
  | none => .ok ([report f.path "no grammar for this file, use -grammar"], true, c)
  | some l =>
    let r := text sink l.grammar maxDepth f.contents c
    match r.error with
    | none => .ok ([.output r.text], false, r.counters)
    | some (.fault f) => .error f
    | some e => .ok ([.output r.text, report f.path e.message], true, r.counters)

/-- Dump files one after the other, each behind a header if `headers` says so. -/
def filesFrom (sink : Sink) (maxDepth : Int) (headers : Bool) :
    List SourceFile → Counters → Except Fault (List DumpEvent × Bool × Counters)
  | [], c => .ok ([], false, c)
  | f :: fs, c => do
    let top := if headers && sink = .working then [DumpEvent.output (header f.path)] else []
    let (events, failed, c) ← file sink maxDepth f c
    let (more, failedLater, c) ← filesFrom sink maxDepth headers fs c
    return (top ++ events ++ more, failed || failedLater, c)

/-- Dump files. The answer holds what is written and reported, the exit status, which is 1 if
any file failed, and what was counted. -/
def files (sink : Sink) (maxDepth : Int) (fs : List SourceFile) (c : Counters) :
    Except Fault (List DumpEvent × Nat × Counters) := do
  let (events, failed, c) ← filesFrom sink maxDepth (1 < fs.length) fs c
  return (events, if failed then 1 else 0, c)

/-- What events have written. -/
def written (events : List DumpEvent) : String :=
  String.join (events.filterMap (fun
    | .output text => some text
    | .log _ => none))

/-- What events have reported. -/
def reported (events : List DumpEvent) : Log :=
  events.filterMap (fun
    | .output _ => none
    | .log entry => some entry)

end Dump

end CodeViewer
