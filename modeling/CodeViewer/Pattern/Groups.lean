import CodeViewer.Pattern.Node
import CodeViewer.Pattern.Options
import CodeViewer.Pattern.SetReader

/-!
# Numbers and names of groups

A reference may stand before the group it refers to, so the groups of a pattern are collected
ahead of parsing. Groups without a name are numbered from one in the order of their opening
parentheses; names take the numbers that are then still free, in order of first appearance. Of
all errors in a pattern a group number that is too large is found first.

No other error is found here. What is refused later is passed over up to where it goes wrong, so
a pattern with errors may seem to have other groups than its author meant.
-/

namespace CodeViewer.Pattern

/-! ## What opens no group -/

/-- The anchor of an escape letter. -/
def anchor? : Char → Option Anchor
  | 'b' => some .wordBoundary
  | 'B' => some .notWordBoundary
  | 'A' => some .textStart
  | 'G' => some .origin
  | 'Z' => some .lastLineEnd
  | 'z' => some .textEnd
  | _ => none

/-- The delimiter that closes what `c` opens in a reference. -/
def closing? : Char → Option Char
  | '<' => some '>'
  | '\'' => some '\''
  | _ => none

/-- What follows a number or name and its closing delimiter; nothing if the text is no number
with its delimiter, or no name at all. A name may be followed by another character. -/
def afterDelimited? (close : Char) (text : List Char) : Option (Bool × List Char) :=
  if text.head?.any isNumeral then
    match text.dropWhile isNumeral with
    | c :: rest => if c == close then some (true, rest) else none
    | [] => none
  else if text.head?.any Unicode.isWord then
    match text.dropWhile Unicode.isWord with
    | c :: rest => some (c == close, rest)
    | [] => some (false, [])
  else none

/-- What follows a reference or character escape, given what follows the backslash. -/
def afterReference (text : List Char) : List Char :=
  match text with
  | [] => []
  | 'k' :: rest =>
    match rest with
    | [] => []
    | c :: more =>
      match closing? c with
      | none => more
      | some close =>
        match afterDelimited? close more with
        | some (_, after) => after
        | none => if more.head?.any isNumeral then rest else more
  | c :: rest =>
    match closing? c with
    | some close =>
      match afterDelimited? close rest with
      | some (true, after) => after
      | _ => rest
    | none =>
      if isNumeral c && c != '0' then rest.dropWhile isNumeral else (readEscape text).2

/-- What follows whatever a backslash introduces, given what follows the backslash. -/
def afterBackslash (text : List Char) : List Char :=
  match text with
  | [] => []
  | c :: rest =>
    if (anchor? c).isSome || (shorthand? c).isSome then rest
    else if c == 'p' || c == 'P' then (readCategory rest).2
    else afterReference text

/-- What follows the items of a set and its closing bracket. `opening` holds at the first item;
`inRange` if the end of a range is to come. A bracket opens a set that is taken away only behind a
hyphen that is no range. A refused escape ends the set. -/
def afterItems : (fuel : Nat) → (opening inRange : Bool) → List Char → List Char
  | 0, _, _, text => text
  | _ + 1, _, _, [] => []
  | fuel + 1, opening, inRange, c :: rest =>
    let place (hyphen : Bool) (rest : List Char) : List Char :=
      if inRange then afterItems fuel false false rest
      else
        match rest with
        | '-' :: next :: more =>
          if next != ']' then afterItems fuel false true (next :: more)
          else afterItems fuel false false rest
        | '[' :: more =>
          if hyphen && !opening then
            afterItems fuel false false (afterItems fuel true false (readNegation more).2)
          else afterItems fuel false false rest
        | _ => afterItems fuel false false rest
    match c, rest with
    | '\\', letter :: more =>
      if (shorthand? letter).isSome || letter == '-' then afterItems fuel false inRange more
      else if letter == 'p' || letter == 'P' then
        afterItems fuel false inRange (readCategory more).2
      else
        match readEscape rest with
        | (.error _, more) => more
        | (.ok _, more) => place false more
    | ']', _ => if opening then place false rest else rest
    | '[', _ => place false (if inRange then rest else afterColonName rest)
    | _, _ => place (c == '-') rest

/-- What follows a set, given what follows its opening bracket. -/
def afterSet (text : List Char) : List Char :=
  afterItems (text.length + 1) true false (readNegation text).2

/-! ## Collecting groups -/

/-- The groups a pattern declares, in the order of their appearance. -/
structure Declared where
  unnamed : Nat
  numbers : List Nat
  names : List String
  deriving Repr

/-- The pass that collects groups: the text that is left, what was found, the options in force and
around the open groups, and whether the next group is a condition, which does not count. -/
structure Census where
  rest : List Char
  declared : Declared
  options : Options
  outer : List Options
  condition : Bool
  deriving Repr

namespace Census

/-- Record a group with a name or number of its own, which `text` starts with. -/
def noteNamed (s : Census) (text : List Char) : Except PatternError Census :=
  match text with
  | [] => .ok { s with rest := [] }
  | c :: _ =>
    let d := s.declared
    if c == '0' || !Unicode.isWord c then .ok { s with rest := text }
    else if isNumeral c then
      match readNumber text with
      | .error e => .error e
      | .ok (n, rest) =>
        .ok { s with rest := rest, declared := { d with numbers := d.numbers ++ [n] } }
    else
      let name := String.ofList (text.takeWhile Unicode.isWord)
      .ok { s with
        rest := text.dropWhile Unicode.isWord
        declared := if d.names.contains name then d else { d with names := d.names ++ [name] } }

/-- Record what a parenthesis followed by a question mark opens, `text` being what follows. -/
def noteSpecial (s : Census) (text : List Char) : Except PatternError Census :=
  let opened : Census := { s with outer := s.options :: s.outer, condition := false }
  match text with
  | '<' :: c :: more => opened.noteNamed (c :: more)
  | '\'' :: c :: more => opened.noteNamed (c :: more)
  | _ =>
    let (options, rest) := readOptions true s.options text
    match rest with
    | ')' :: more => .ok { s with rest := more, options := options, condition := false }
    | '(' :: _ => .ok { opened with rest := rest, options := options, condition := true }
    | _ => .ok { opened with rest := rest, options := options }

/-- Go on behind blanks and comments, of which the last may not have an end. -/
def skip (s : Census) (text : List Char) : Census :=
  { s with rest := (s.options.skip text).toOption.getD [] }

/-- Look at one character, `c`, and what it introduces; `rest` is what follows. -/
def step (s : Census) (c : Char) (rest : List Char) : Except PatternError Census :=
  match c with
  | '\\' => .ok { s with rest := afterBackslash rest }
  | '#' => .ok (if s.options.spaced then s.skip (c :: rest) else { s with rest := rest })
  | '[' => .ok { s with rest := afterSet rest }
  | ')' => .ok { s with
      rest := rest, options := s.outer.headD s.options, outer := s.outer.tail }
  | '(' =>
    match rest with
    | '?' :: '#' :: _ => .ok { s.skip (c :: rest) with condition := false }
    | '?' :: text => s.noteSpecial text
    | _ =>
      let counts : Bool := !s.options.namedOnly && !s.condition
      let d := s.declared
      .ok { s with
        rest := rest
        declared := if counts then { d with unnamed := d.unnamed + 1 } else d
        outer := s.options :: s.outer
        condition := false }
  | _ => .ok { s with rest := rest }

/-- Collect the groups of the rest of a pattern. Every step shortens the text, so `fuel` need only
exceed its length. -/
def run : (fuel : Nat) → Census → Except PatternError Declared
  | 0, s => .ok s.declared
  | fuel + 1, s =>
    match s.rest with
    | [] => .ok s.declared
    | c :: rest =>
      match s.step c rest with
      | .error e => .error e
      | .ok s => s.run fuel

end Census

/-- The groups that a pattern declares. -/
def declared (pattern : List Char) : Except PatternError Declared :=
  Census.run (pattern.length + 1) ⟨pattern, ⟨0, [], []⟩, .initial, [], false⟩

/-! ## Numbering -/

/-- The numbers in use and the number of every name. -/
structure GroupTable where
  numbers : List Nat
  names : List (String × Nat)
  deriving Repr

/-- The least number from `n` on that is not in use; `fuel` is the count of used numbers. -/
def freeNumber (used : List Nat) : (fuel n : Nat) → Nat
  | 0, n => n
  | fuel + 1, n => if used.contains n then freeNumber used fuel (n + 1) else n

/-- Number the names of a pattern, from `next` on. -/
def GroupTable.addNames : GroupTable → (next : Nat) → List String → GroupTable
  | t, _, [] => t
  | t, next, name :: names =>
    let n := freeNumber t.numbers t.numbers.length next
    addNames ⟨n :: t.numbers, (name, n) :: t.names⟩ (n + 1) names

/-- The groups of a pattern. The number zero stands for the whole match. -/
def GroupTable.ofPattern (pattern : List Char) : Except PatternError GroupTable :=
  match declared pattern with
  | .error e => .error e
  | .ok d =>
    let numbers := 0 :: d.numbers ++ (List.range d.unnamed).map (· + 1)
    .ok (GroupTable.addNames ⟨numbers, []⟩ (d.unnamed + 1) d.names)

/-- The number of a name, if the pattern has a group of that name. -/
def GroupTable.number? (t : GroupTable) (name : String) : Option Nat := t.names.lookup name

end CodeViewer.Pattern
