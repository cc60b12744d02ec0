import CodeViewer.Text.Integer
import CodeViewer.Text.Quote

/-!
# Options

Options stand in front of the other arguments. An option starts with one or two hyphens; its
value follows an equals sign or, unless it is a mere switch, is the next argument. The first
argument that is no option, or two hyphens alone, ends the options.
-/

namespace CodeViewer

/-- What the options ask for, and the arguments behind them. -/
structure Options where
  debugLog : String
  depth : Int
  dump : Bool
  errorLog : String
  grammar : String
  infoLog : String
  list : Bool
  metrics : String
  arguments : List String
  deriving DecidableEq, Repr

/-- Why options are not understood. -/
inductive OptionError where
  /-- Not an error, but the wish to see how the program is used. -/
  | help
  | badForm (argument : String)
  | undefined (name : String)
  | noValue (name : String)
  | badSwitch (name value : String)
  | badNumber (name value : String) (cause : Text.IntegerError)
  deriving DecidableEq, Repr

namespace OptionError

/-- What an error in a number is called. -/
def causeText : Text.IntegerError → String
  | .malformed => "parse error"
  | .outOfRange => "value out of range"

/-- The report of an error, if there is anything to report. -/
def message? : OptionError → Option String
  | .help => none
  | .badForm argument => some ("bad flag syntax: " ++ argument)
  | .undefined name => some ("flag provided but not defined: -" ++ name)
  | .noValue name => some ("flag needs an argument: -" ++ name)
  | .badSwitch name value =>
    some ("invalid boolean value " ++ Text.quoteString value ++ " for -" ++ name
      ++ ": parse error")
  | .badNumber name value cause =>
    some ("invalid value " ++ Text.quoteString value ++ " for flag -" ++ name ++ ": "
      ++ causeText cause)

end OptionError

/-- What the value of an option sets. -/
inductive OptionKind where
  | text (set : String → Options → Options)
  | number (set : Int → Options → Options)
  | switch (set : Bool → Options → Options)

/-- An option. -/
structure OptionSpec where
  name : String
  kind : OptionKind
  purpose : String

namespace Options

/-- The deepest nesting of modes unless another one is asked for. -/
def standardDepth : Int := 64

/-- What holds without any options. -/
def standard : Options :=
  { debugLog := "", depth := standardDepth, dump := false, errorLog := "", grammar := ""
    infoLog := "", list := false, metrics := "", arguments := [] }

/-- All options, in the order of their names. -/
def specs : List OptionSpec :=
  [⟨"debuglog", .text (fun s o ↦ { o with debugLog := s }),
    "debug log file (or stderr, stdout, null, syslog)"⟩,
   ⟨"depth", .number (fun n o ↦ { o with depth := n }),
    "how deeply lexical modes may nest (default " ++ toString standardDepth ++ ")"⟩,
   ⟨"dump", .switch (fun b o ↦ { o with dump := b }),
    "print the tokens of each file and exit"⟩,
   ⟨"errorlog", .text (fun s o ↦ { o with errorLog := s }),
    "error log file (or stderr, stdout, null, syslog)"⟩,
   ⟨"grammar", .text (fun s o ↦ { o with grammar := s }),
    "grammar to use for every file (default: chosen by file name)"⟩,
   ⟨"infolog", .text (fun s o ↦ { o with infoLog := s }),
    "info log file (or stderr, stdout, null, syslog)"⟩,
   ⟨"list", .switch (fun b o ↦ { o with list := b }), "list the known grammars and exit"⟩,
   ⟨"metrics", .text (fun s o ↦ { o with metrics := s }),
    "serve prometheus metrics on this address"⟩]

/-- The help on an option. -/
def describe (s : OptionSpec) : String :=
  let value :=
    match s.kind with
    | .text _ => " string"
    | .number _ => " int"
    | .switch _ => ""
  "  -" ++ s.name ++ value ++ "\n    \t" ++ s.purpose ++ "\n"

/-- How the program is used. -/
def usage : String := "usage: qview [flags] file...\n" ++ String.join (specs.map describe)

/-- The value of a switch. -/
def parseSwitch? (value : String) : Option Bool :=
  if ["1", "t", "T", "true", "TRUE", "True"].contains value then some true
  else if ["0", "f", "F", "false", "FALSE", "False"].contains value then some false
  else none

/-- What an argument is taken for. -/
inductive Argument where
  /-- An option, with its value if it stands in the same argument. -/
  | option (name : String) (value : Option String)
  /-- The mark that ends the options. -/
  | endMark
  | plain
  | malformed
  deriving DecidableEq, Repr

/-- The name and value of an option; the name is not empty and does not start with an equals
sign. -/
def splitValue (text : List Char) : Argument :=
  let name := text.takeWhile (· != '=')
  match text.dropWhile (· != '=') with
  | [] => .option (String.ofList name) none
  | _ :: value => .option (String.ofList name) (some (String.ofList value))

/-- An option without its hyphens. -/
def classifyName : List Char → Argument
  | [] => .malformed
  | c :: rest => if c == '-' || c == '=' then .malformed else splitValue (c :: rest)

/-- What an argument is taken for. -/
def classify (argument : String) : Argument :=
  match argument.toList with
  | ['-'] => .plain
  | ['-', '-'] => .endMark
  | '-' :: '-' :: rest => classifyName rest
  | '-' :: rest => classifyName rest
  | _ => .plain

/-- Set an option to a value; a switch without one is turned on. -/
def set (s : OptionSpec) (value : Option String) (o : Options) : Except OptionError Options :=
  match s.kind, value with
  | .switch set, none => .ok (set true o)
  | .switch set, some value =>
    match parseSwitch? value with
    | some b => .ok (set b o)
    | none => .error (.badSwitch s.name value)
  | .text set, some value => .ok (set value o)
  | .number set, some value =>
    match Text.parseInteger value.toList with
    | .ok n => .ok (set n o)
    | .error cause => .error (.badNumber s.name value cause)
  | _, none => .error (.noValue s.name)

/-- Whether the value of an option can be an argument of its own. -/
def takesArgument (s : OptionSpec) : Bool :=
  match s.kind with
  | .switch _ => false
  | _ => true

/-- The option of a name. -/
def find (name : String) : Except OptionError OptionSpec :=
  match specs.find? (·.name == name) with
  | some s => .ok s
  | none => .error (if name == "help" || name == "h" then .help else .undefined name)

/-- Take over the options of arguments, the first of which may belong to an option whose value
is still `awaited`. -/
def parseFrom (awaited : Option OptionSpec) : Options → List String → Except OptionError Options
  | o, [] =>
    match awaited with
    | some s => .error (.noValue s.name)
    | none => .ok o
  | o, argument :: rest =>
    match awaited with
    | some s =>
      match set s (some argument) o with
      | .error e => .error e
      | .ok o => parseFrom none o rest
    | none =>
      match classify argument with
      | .plain => .ok { o with arguments := argument :: rest }
      | .endMark => .ok { o with arguments := rest }
      | .malformed => .error (.badForm argument)
      | .option name value =>
        match find name with
        | .error e => .error e
        | .ok s =>
          if takesArgument s && value.isNone then parseFrom (some s) o rest
          else
            match set s value o with
            | .error e => .error e
            | .ok o => parseFrom none o rest

/-- The options and arguments of a command line. -/
def parse (arguments : List String) : Except OptionError Options :=
  parseFrom none standard arguments

end Options

end CodeViewer
