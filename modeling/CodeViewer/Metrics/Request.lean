import CodeViewer.Text.Quote

/-!
# Requests for a page

A request is one line: a method, a target and a version. The target is a path, possibly behind a
scheme and a host and in front of a query; only the path is looked at.
-/

namespace CodeViewer

/-- Why the target of a request is refused. -/
inductive TargetError where
  | controlCharacter
  | empty
  | missingScheme
  | notAbsolute
  | badPort (port : String)
  | badEscape (text : String)
  deriving DecidableEq, Repr

/-- What is wrong with a target, in words. -/
def TargetError.reason : TargetError → String
  | .controlCharacter => "net/url: invalid control character in URL"
  | .empty => "empty url"
  | .missingScheme => "missing protocol scheme"
  | .notAbsolute => "invalid URI for request"
  | .badPort port => "invalid port " ++ Text.quoteString port ++ " after host"
  | .badEscape text => "invalid URL escape " ++ Text.quoteString text

/-- Why a request is refused. -/
inductive RequestError where
  | badLine (line : String)
  | badMethod (method : String)
  | badVersion (version : String)
  | badTarget (target : String) (error : TargetError)
  deriving DecidableEq, Repr

/-- The report of a refused request. -/
def RequestError.message : RequestError → String
  | .badLine line => "malformed HTTP request " ++ Text.quoteString line
  | .badMethod method => "invalid method " ++ Text.quoteString method
  | .badVersion version => "malformed HTTP version " ++ Text.quoteString version
  | .badTarget target e => "parse " ++ Text.quoteString target ++ ": " ++ e.reason

/-- A request: its method and the path of its target, which is empty for a target that is not
made of parts. -/
structure Request where
  method : String
  path : List Char
  deriving DecidableEq, Repr

namespace Request

/-! ## Targets -/

/-- The value of a hexadecimal digit. -/
def hexDigit? (c : Char) : Option Nat :=
  if '0' ≤ c && c ≤ '9' then some (c.toNat - '0'.toNat)
  else if 'a' ≤ c && c ≤ 'f' then some (c.toNat - 'a'.toNat + 10)
  else if 'A' ≤ c && c ≤ 'F' then some (c.toNat - 'A'.toNat + 10)
  else none

/-- Replace a percent sign and two hexadecimal digits by the character they stand for. -/
def decodePercent : List Char → Except TargetError (List Char)
  | [] => .ok []
  | '%' :: a :: b :: rest =>
    match hexDigit? a, hexDigit? b with
    | some x, some y => (decodePercent rest).map (Char.ofNat (16 * x + y) :: ·)
    | _, _ => .error (.badEscape (String.ofList ['%', a, b]))
  | '%' :: rest => .error (.badEscape (String.ofList ('%' :: rest)))
  | c :: rest => (decodePercent rest).map (c :: ·)

/-- The scheme a target starts with, `read` being the letters before, latest first, and what
follows its colon; a target without a scheme is all rest. -/
def splitScheme (target : List Char) : (read : List Char) → List Char →
    Except TargetError (List Char × List Char)
  | _, [] => .ok ([], target)
  | read, c :: rest =>
    if c.isAlpha then splitScheme target (c :: read) rest
    else if c.isDigit || c == '+' || c == '-' || c == '.' then
      if read.isEmpty then .ok ([], target) else splitScheme target (c :: read) rest
    else if c == ':' then
      if read.isEmpty then .error .missingScheme else .ok (read.reverse, rest)
    else .ok ([], target)

/-- Fail if what follows the last colon of a host is no port. -/
def checkPort (host : List Char) : Except TargetError Unit :=
  if !host.contains ':' then .ok ()
  else
    let port := (host.reverse.takeWhile (· != ':')).reverse
    if port.all Char.isDigit then .ok () else .error (.badPort (String.ofList (':' :: port)))

/-- The path of a target. -/
def pathOf (target : List Char) : Except TargetError (List Char) := do
  if target.any (fun c ↦ c.toNat < 0x20 || c.toNat == 0x7f) then throw .controlCharacter
  else if target.isEmpty then throw .empty
  else if target = ['*'] then return target
  else
    let (scheme, rest) ← splitScheme target [] target
    match rest.takeWhile (· != '?') with
    | '/' :: '/' :: more =>
      if scheme.isEmpty then decodePercent ('/' :: '/' :: more)
      else
        checkPort (more.takeWhile (· != '/'))
        decodePercent (more.dropWhile (· != '/'))
    | '/' :: more => decodePercent ('/' :: more)
    | _ => if scheme.isEmpty then throw .notAbsolute else return []

/-! ## Lines -/

/-- A character that methods may have. -/
def isMethodChar (c : Char) : Bool :=
  c.isAlphanum || "!#$%&'*+-.^_`|~".toList.contains c

/-- The parts of a text before and behind its first blank. -/
def cut? (text : List Char) : Option (List Char × List Char) :=
  match text.dropWhile (· != ' ') with
  | [] => none
  | _ :: rest => some (text.takeWhile (· != ' '), rest)

/-- Read the line of a request. -/
def ofLine (line : List Char) : Except RequestError Request :=
  match cut? line with
  | none => .error (.badLine (String.ofList line))
  | some (method, rest) =>
    match cut? rest with
    | none => .error (.badLine (String.ofList line))
    | some (target, version) =>
      if method.isEmpty || !method.all isMethodChar then
        .error (.badMethod (String.ofList method))
      else if version != "HTTP/1.0".toList then .error (.badVersion (String.ofList version))
      else
        let target :=
          if method = "CONNECT".toList && target.head? != some '/' then "http://".toList ++ target
          else target
        match pathOf target with
        | .ok path => .ok ⟨String.ofList method, path⟩
        | .error e => .error (.badTarget (String.ofList target) e)

/-- The request with a method and a target. Without a method something is to be fetched. -/
def new (method target : String) : Except RequestError Request :=
  let method := if method == "" then "GET" else method
  let line := (method ++ " " ++ target ++ " HTTP/1.0").toList.takeWhile (· != '\n')
  ofLine (if line.getLast? = some '\r' then line.dropLast else line)

end Request

end CodeViewer
