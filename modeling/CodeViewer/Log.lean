/-!
# Logs

The program reports to three logs: errors, information and details for debugging.
-/

namespace CodeViewer

/-- One of the three logs. -/
inductive LogLevel where
  | error
  | info
  | debug
  deriving DecidableEq, Repr

/-- The letter a log is marked with where several are shown together. -/
def LogLevel.letter : LogLevel → Char
  | .error => 'E'
  | .info => 'I'
  | .debug => 'D'

/-- A line of a log. -/
structure LogEntry where
  level : LogLevel
  message : String
  deriving DecidableEq, Repr

/-- What was reported, from the earliest entry on. -/
abbrev Log := List LogEntry

namespace LogEntry

/-- An entry together with the letter of its log, as a line. -/
def render (e : LogEntry) : String := String.ofList [e.level.letter, ' '] ++ e.message ++ "\n"

end LogEntry

/-- All entries, one to a line. -/
def Log.render (log : Log) : String := String.join (log.map LogEntry.render)

end CodeViewer
