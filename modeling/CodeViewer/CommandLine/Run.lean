import CodeViewer.CommandLine.Directory
import CodeViewer.CommandLine.Options
import CodeViewer.Dump
import CodeViewer.Grammar.Registry

/-!
# Running a command line

The program lists the grammars, dumps files, or is ready to show them. What it prints goes to
the two outputs of the program, and its logs to one of these, to files or nowhere.
-/

namespace CodeViewer

/-- Where a log goes. -/
inductive LogTarget where
  | stderr
  | stdout
  | nowhere
  | file (location : Location)
  deriving DecidableEq, Repr

/-- Where the logs go. -/
structure LogTargets where
  error : LogTarget
  info : LogTarget
  debug : LogTarget
  deriving DecidableEq, Repr

/-- The target of a log. -/
def LogTargets.of (t : LogTargets) : LogLevel → LogTarget
  | .error => t.error
  | .info => t.info
  | .debug => t.debug

/-- What a program has printed so far, and the files it works on. -/
structure Console where
  stdout : String
  stderr : String
  directory : Directory

namespace Console

/-- Print to the first output. -/
def print (c : Console) (text : String) : Console := { c with stdout := c.stdout ++ text }

/-- Print to the second output, which is for messages. -/
def printError (c : Console) (text : String) : Console := { c with stderr := c.stderr ++ text }

/-- Write a line to a log. -/
def logTo (c : Console) (target : LogTarget) (message : String) : Console :=
  let line := message ++ "\n"
  match target with
  | .stderr => c.printError line
  | .stdout => c.print line
  | .nowhere => c
  | .file l => { c with directory := c.directory.append l line.toUTF8 }

/-- Write an entry to its log. -/
def log (c : Console) (targets : LogTargets) (e : LogEntry) : Console :=
  c.logTo (targets.of e.level) e.message

/-- Open the log of a name. One that cannot be opened is replaced by the second output; that is
reported to `reportTo`. A file starts with a line that says so. -/
def openLog (c : Console) (reportTo : LogTarget) (name : String) : LogTarget × Console :=
  match name with
  | "stderr" => (.stderr, c)
  | "stdout" => (.stdout, c)
  | "null" => (.nowhere, c)
  | "syslog" =>
    (.stderr, c.logTo reportTo "can't create syslog: Unix syslog delivery error")
  | _ =>
    match c.directory.locateForWriting name with
    | .ok l => (.file l, c.logTo (.file l) "new log started")
    | .error e =>
      (.stderr, c.logTo reportTo ("can't open log file " ++ name ++ ": " ++ e.message))

/-- Open all logs, of which those without a name go to `fallback`. -/
def openLogs (c : Console) (o : Options) (fallback : String) : LogTargets × Console :=
  let named (name : String) : String := if name.isEmpty then fallback else name
  let (error, c) := c.openLog .stderr (named o.errorLog)
  let (info, c) := c.openLog error (named o.infoLog)
  let (debug, c) := c.openLog error (named o.debugLog)
  (⟨error, info, debug⟩, c)

/-- Print and log the events of a dump. -/
def replay (c : Console) (targets : LogTargets) (events : List DumpEvent) : Console :=
  events.foldl (fun c e ↦
    match e with
    | .output text => c.print text
    | .log entry => c.log targets entry) c

end Console

/-- Why a file cannot be shown. -/
inductive LoadError where
  | file (error : FileError)
  | grammar (error : LookupError)
  deriving DecidableEq, Repr

/-- The report of a file that cannot be shown. -/
def LoadError.message : LoadError → String
  | .file e => e.message
  | .grammar e => e.message

/-- How a command line ends. -/
inductive CommandEnd where
  | exit (status : Nat)
  /-- The files are to be shown. -/
  | view (files : List SourceFile) (maxDepth : Int) (targets : LogTargets)

namespace CommandLine

/-- The language of a file: that of the given grammar, if one is named, or else of the one that
claims the path. That none does is no error, but worth an entry in the log. -/
def languageFor (r : Registry) (grammar path : String) :
    Except LookupError (Option Language × Log) × Registry :=
  if grammar.isEmpty then
    match r.forFile path with
    | (.ok g, r) => (.ok (some (Language.ofGrammar g), []), r)
    | (.error e, r) =>
      if e.isNotFound then
        (.ok (none, [⟨.debug, path ++ ": " ++ e.message ++ ", showing plain text"⟩]), r)
      else (.error e, r)
  else
    let (found, r) := r.get grammar
    (found.map (fun g ↦ (some (Language.ofGrammar g), [])), r)

/-- Load a file. -/
def load (r : Registry) (d : Directory) (grammar path : String) :
    Except LoadError (SourceFile × Log) × Registry :=
  match d.read path with
  | .error e => (.error (.file e), r)
  | .ok contents =>
    match languageFor r grammar path with
    | (.error e, r) => (.error (.grammar e), r)
    | (.ok (language, log), r) => (.ok (⟨path, contents, language⟩, log), r)

/-- Load files one after the other, up to the first that cannot be loaded. -/
def loadAll (targets : LogTargets) (grammar : String) :
    Registry → Console → List String → Console × Except LoadError (List SourceFile)
  | _, c, [] => (c, .ok [])
  | r, c, path :: paths =>
    match load r c.directory grammar path with
    | (.error e, _) => (c, .error e)
    | (.ok (file, log), r) =>
      let (c, files) := loadAll targets grammar r (log.foldl (·.log targets) c) paths
      (c, files.map (file :: ·))

/-- Say how the program is used. -/
def explain (c : Console) (e : OptionError) : Console :=
  match e.message? with
  | none => c.printError Options.usage
  | some message => (c.printError (message ++ "\n")).printError Options.usage

/-- Carry out options that are understood. -/
def carryOut (r : Registry) (c : Console) (o : Options) : Console × CommandEnd :=
  let (targets, c) := c.openLogs o (if o.dump || o.list then "stderr" else "null")
  if o.list then (c.print (String.join (r.names.map (· ++ "\n"))), .exit 0)
  else if o.arguments.isEmpty then (c.printError Options.usage, .exit 2)
  else
    match loadAll targets o.grammar r c o.arguments with
    | (c, .error e) => (c.printError ("qview: " ++ e.message ++ "\n"), .exit 1)
    | (c, .ok files) =>
      if o.dump then
        match Dump.files .working o.depth files Counters.empty with
        | .ok (events, status, _) => (c.replay targets events, .exit status)
        | .error f => (c.printError ("panic: " ++ f.message ++ "\n"), .exit 2)
      else (c, .view files o.depth targets)

/-- Carry out a command line in a directory. -/
def run (r : Registry) (d : Directory) (arguments : List String) : Console × CommandEnd :=
  let c : Console := ⟨"", "", d⟩
  match Options.parse arguments with
  | .ok o => carryOut r c o
  | .error e => (explain c e, .exit (if e = .help then 0 else 2))

end CommandLine

end CodeViewer
