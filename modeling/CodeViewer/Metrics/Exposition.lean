import CodeViewer.Metrics.Counters
import CodeViewer.Metrics.Request

/-!
# Published counters

The counters as text, in the format that monitoring systems collect: each metric with a line of
help, a line for its type and a line for each sample. Metrics and samples come in ascending
order, and a metric without samples is left out.
-/

namespace CodeViewer

/-- A labelled value of a metric. -/
structure Sample where
  /-- The names of the labels, in ascending order, and their values. -/
  labels : List (String × String)
  value : Nat
  deriving Repr

namespace Sample

/-- How a character is written in the value of a label. -/
def escapeChar (c : Char) : List Char :=
  if c == '\\' then ['\\', '\\']
  else if c == '"' then ['\\', '"']
  else if c == '\n' then ['\\', 'n']
  else [c]

/-- The value of a label as it is written. -/
def escape (s : String) : String := String.ofList (s.toList.flatMap escapeChar)

/-- A label with its value. -/
def renderLabel (label : String × String) : String :=
  label.1 ++ "=\"" ++ escape label.2 ++ "\""

/-- A count in scientific notation: one digit in front of the point, no zeros at the end, and at
least two digits of the exponent. -/
def renderScientific (n : Nat) : String :=
  let digits := Nat.toDigits 10 n
  let exponent := Nat.toDigits 10 (digits.length - 1)
  let significant := (digits.reverse.dropWhile (· == '0')).reverse
  String.ofList (significant.take 1
    ++ (if significant.length ≤ 1 then [] else '.' :: significant.drop 1)
    ++ ['e', '+'] ++ (if exponent.length < 2 then ['0'] else []) ++ exponent)

/-- A count: plain below a million, then in scientific notation. -/
def renderCount (n : Nat) : String := if n < 1000000 then toString n else renderScientific n

/-- A sample of the metric of the given name. -/
def render (metric : String) (s : Sample) : String :=
  metric ++ "\x7b" ++ ",".intercalate (s.labels.map renderLabel) ++ "\x7d "
    ++ renderCount s.value

/-- Whether a sample comes before another: the first label that differs decides. -/
def precedes : (a b : List (String × String)) → Bool
  | [], b => !b.isEmpty
  | _, [] => false
  | (_, x) :: a, (_, y) :: b => x < y || (x == y && precedes a b)

/-- Put a sample in front of the first that comes after it. -/
def insertSorted (s : Sample) : List Sample → List Sample
  | [] => [s]
  | t :: ts => if precedes s.labels t.labels then s :: t :: ts else t :: insertSorted s ts

/-- Samples in ascending order. -/
def sort (samples : List Sample) : List Sample :=
  samples.foldl (fun sorted s ↦ insertSorted s sorted) []

end Sample

/-- A metric: its name, what it counts, and its samples. -/
structure Metric where
  name : String
  help : String
  samples : List Sample
  deriving Repr

namespace Metric

/-- The lines of a metric. -/
def lines (m : Metric) : List String :=
  if m.samples.isEmpty then []
  else
    ("# HELP " ++ m.name ++ " " ++ m.help) :: ("# TYPE " ++ m.name ++ " counter")
      :: (Sample.sort m.samples).map (Sample.render m.name)

end Metric

namespace Counters

/-- The counters as metrics, in ascending order of their names. -/
def metrics (c : Counters) : List Metric :=
  [{ name := "qview_scan_errors"
     help := "How many scans stopped with an error, by kind."
     samples := c.scanErrors.entries.map (fun ((grammar, kind), n) ↦
       ⟨[("grammar", grammar), ("kind", kind)], n⟩) },
   { name := "qview_scans"
     help := "How many files have been scanned."
     samples := c.scans.entries.map (fun (grammar, n) ↦ ⟨[("grammar", grammar)], n⟩) },
   { name := "qview_tokens"
     help := "How many tokens have been scanned, by class."
     samples := c.tokens.entries.map (fun ((cls, grammar), n) ↦
       ⟨[("class", cls), ("grammar", grammar)], n⟩) }]

/-- The lines that publish the counters. -/
def exposition (c : Counters) : List String := c.metrics.flatMap Metric.lines

end Counters

/-- The answer to a request for a page. -/
structure Response where
  code : Nat
  lines : List String
  deriving DecidableEq, Repr

namespace Response

/-- Whether a path names its page without detours: it is absolute and has neither empty parts,
but for one at its end, nor parts that stand for a directory itself or the one above. -/
def isCanonical (path : String) : Bool :=
  match path.splitOn "/" with
  | "" :: p :: ps =>
    (p :: ps).all (fun p ↦ p != "." && p != "..") && (p :: ps).dropLast.all (· != "")
  | _ => false

/-- Answer a request: there is one page, and it can only be fetched. A detour is sent on to the
straight path. -/
def answer (c : Counters) (r : Request) : Response :=
  let path := String.ofList r.path
  if !isCanonical path then ⟨301, []⟩
  else if path == "/metrics" then
    if r.method == "GET" then ⟨200, c.exposition⟩ else ⟨405, []⟩
  else ⟨404, []⟩

end Response

end CodeViewer
