import CodeViewer.Pattern.Groups
import CodeViewer.Pattern.Shared

/-!
# Reading the text of a pattern

The text is read from left to right in one pass, with the groups that are still open on a
stack. Every step reads at least one character, so the length of the text bounds their number.
Braces that are no repetition, closing brackets and closing braces stand for themselves.
-/

namespace CodeViewer.Pattern

/-- The node of one code point; where case is ignored it is that of its lower-case form. -/
def codeNode (code : Nat) (folded : Bool) : Node :=
  .char (.is (if folded then lowerCode code else code)) folded

/-! ## Escapes that are no characters, and references -/

/-- A reference by number or name in angle brackets or quotes, given what follows the opening
one and the closing one. The answer `none` means that the text is no such reference. -/
def readDelimited (groups : GroupTable) (folded : Bool) (close : Char) (text : List Char) :
    Except PatternError (Option (Node × List Char)) :=
  match text with
  | [] => .ok none
  | c :: _ =>
    if isNumeral c then
      match readNumber text with
      | .error e => .error e
      | .ok (n, rest) =>
        match rest with
        | d :: more =>
          if d != close then .ok none
          else if groups.numbers.contains n then .ok (some (.reference n folded, more))
          else .error (.undefinedGroup n)
        | [] => .ok none
    else
      let name := String.ofList (text.takeWhile Unicode.isWord)
      match text.dropWhile Unicode.isWord with
      | d :: more =>
        if name == "" || d != close then .ok none
        else
          match groups.number? name with
          | some n => .ok (some (.reference n folded, more))
          | none => .error (.undefinedName name)
      | [] => .ok none

/-- A character escape outside a set. -/
def readCharEscape (folded : Bool) (text : List Char) :
    Except PatternError (Node × List Char) :=
  match readEscape text with
  | (.error e, _) => .error e
  | (.ok code, rest) => .ok (codeNode code folded, rest)

/-- A reference or character escape, given what follows the backslash. -/
def readReference (groups : GroupTable) (folded : Bool) (text : List Char) :
    Except PatternError (Node × List Char) :=
  match text with
  | 'k' :: rest =>
    match rest with
    | c :: more =>
      match closing? c, more with
      | some close, d :: _ =>
        match readDelimited groups folded close more with
        | .error e => .error e
        | .ok (some found) => .ok found
        | .ok none =>
          if isNumeral d then readCharEscape folded text else .error .malformedReference
      | _, _ => .error .malformedReference
    | [] => .error .malformedReference
  | c :: rest =>
    match closing? c, rest with
    | some close, _ :: _ =>
      match readDelimited groups folded close rest with
      | .error e => .error e
      | .ok (some found) => .ok found
      | .ok none => readCharEscape folded text
    | _, _ =>
      if isNumeral c && c != '0' then
        match readNumber text with
        | .error e => .error e
        | .ok (n, more) =>
          if groups.numbers.contains n then .ok (.reference n folded, more)
          else if n ≤ 9 then .error (.undefinedGroup n)
          else readCharEscape folded text
      else readCharEscape folded text
  | [] => .error .escapeAtEnd

/-- The set of a shorthand outside a set. The opposites of word characters and white space are
negated sets; that of digits is a set with a negated class. -/
def shorthandSet : CharClass → (negated : Bool) → CharSet
  | .category cat, negated => .ofLayer ⟨[], [(.category cat, negated)], false⟩
  | cls, negated => .ofLayer ⟨[], [(cls, false)], negated⟩

/-- Whatever a backslash introduces outside a set. -/
def readBackslash (groups : GroupTable) (folded : Bool) (text : List Char) :
    Except PatternError (Node × List Char) :=
  match text with
  | [] => .error .escapeAtEnd
  | c :: rest =>
    match anchor? c, shorthand? c with
    | some a, _ => .ok (.anchor a, rest)
    | _, some (cls, negated) => .ok (.char (.isIn (shorthandSet cls negated)) folded, rest)
    | none, none =>
      if c == 'p' || c == 'P' then
        match readCategory rest with
        | (.error e, _) => .error e
        | (.ok cat, rest) =>
          let s := (Layer.empty false).addCategory folded cat (c == 'P')
          .ok (.char (.isIn (.ofLayer s)) folded, rest)
      else readReference groups folded text

/-! ## Repetitions -/

/-- The digits of the bounds in braces, given what follows the opening brace: the lower bound,
the upper bound if a comma introduces one, and the rest. -/
def bounds? (text : List Char) : Option (List Char × Option (List Char) × List Char) :=
  let least := text.takeWhile isNumeral
  if least.isEmpty then none
  else
    match text.dropWhile isNumeral with
    | '}' :: rest => some (least, none, rest)
    | ',' :: more =>
      match more.dropWhile isNumeral with
      | '}' :: rest => some (least, some (more.takeWhile isNumeral), rest)
      | _ => none
    | _ => none

/-- Whether a repetition starts here. -/
def startsRepeat : List Char → Bool
  | '*' :: _ => true
  | '+' :: _ => true
  | '?' :: _ => true
  | '{' :: rest => (bounds? rest).isSome
  | _ => false

/-- The least and the largest count of a repetition and what follows it, if one starts here. -/
def readCounts (text : List Char) : Except PatternError (Option (Nat × Nat × List Char)) :=
  match text with
  | '*' :: rest => .ok (some (0, countLimit, rest))
  | '+' :: rest => .ok (some (1, countLimit, rest))
  | '?' :: rest => .ok (some (0, 1, rest))
  | '{' :: rest =>
    match bounds? rest with
    | none => .ok none
    | some (least, most, rest) =>
      match readNumber least with
      | .error e => .error e
      | .ok (lo, _) =>
        match most with
        | none => .ok (some (lo, lo, rest))
        | some [] => .ok (some (lo, countLimit, rest))
        | some digits =>
          match readNumber digits with
          | .error e => .error e
          | .ok (hi, _) => .ok (some (lo, hi, rest))
  | _ => .ok none

/-- Read the repetition of an item, if one follows it, possibly behind comments and blanks. -/
def readRepeat (o : Options) (text : List Char) :
    Except PatternError (Option Repeat × List Char) := do
  let text ← o.skip text
  match ← readCounts text with
  | none => return (none, text)
  | some (least, most, rest) =>
    let rest ← o.skip rest
    let (lazy, rest) : Bool × List Char :=
      match rest with
      | '?' :: more => (true, more)
      | _ => (false, rest)
    if most < least then .error .reversedRepeat
    else return (some (Repeat.ofCounts least most lazy), rest)

/-! ## Groups -/

/-- What a group does with its body. -/
inductive GroupKind where
  | plain
  | capture (index : Nat)
  | balance (index : Option Nat) (freed : Nat)
  | look (ahead negated : Bool)
  | atomic
  /-- A choice by whether a group has matched. -/
  | ifMatched (index : Nat)
  /-- A choice by what follows. The first group inside is the condition. -/
  | ifMatches
  deriving DecidableEq, Repr

/-- What an opening parenthesis introduces: a group, possibly with options of its own, or a
mere change of options for the rest of the enclosing group. -/
inductive Opening where
  | group (kind : GroupKind) (options : Options)
  | directive (options : Options)

/-- The part of `text` in front of `rest`, which is its tail. -/
def consumed (text rest : List Char) : String :=
  String.ofList (text.take (text.length - rest.length))

/-- Read the group whose match is taken back, given what follows the hyphen. -/
def readFreed (groups : GroupTable) (close : Char) (text : List Char) :
    Except PatternError (Nat × List Char) := do
  let ended (rest : List Char) : Bool := rest.head?.all (· == close)
  match text with
  | [] => throw .invalidGroupName
  | c :: _ =>
    if isNumeral c then
      let (n, rest) ← readNumber text
      if !groups.numbers.contains n then throw (.undefinedGroup n)
      else if ended rest then return (n, rest)
      else throw .invalidGroupName
    else if Unicode.isWord c then
      let name := String.ofList (text.takeWhile Unicode.isWord)
      let rest := text.dropWhile Unicode.isWord
      match groups.number? name with
      | none => throw (.undefinedName name)
      | some n => if ended rest then return (n, rest) else throw .invalidGroupName
    else throw .invalidGroupName

/-- Read the number or name in front of a group, if it has one: the group, if the pattern has such
a group, and the rest. It must be followed by a hyphen or the closing delimiter. -/
def readOwn (groups : GroupTable) (close : Char) (text : List Char) :
    Except PatternError (Option Nat × List Char) := do
  let ended (rest : List Char) : Bool := rest.head?.all (fun c ↦ c == close || c == '-')
  match text with
  | [] => return (none, text)
  | c :: _ =>
    if isNumeral c then
      let (n, rest) ← readNumber text
      if !ended rest then throw .invalidGroupName
      else if n = 0 then throw .groupNumberZero
      else return (if groups.numbers.contains n then some n else none, rest)
    else if Unicode.isWord c then
      let rest := text.dropWhile Unicode.isWord
      if !ended rest then throw .invalidGroupName
      else return (groups.number? (String.ofList (text.takeWhile Unicode.isWord)), rest)
    else if c == '-' then return (none, text)
    else throw .invalidGroupName

/-- Read the name or number of a group up to its closing delimiter. `text` is what follows the
parenthesis and `body` what follows the opening delimiter. A hyphen introduces a group whose match
is taken back. -/
def readGroupName (groups : GroupTable) (o : Options) (text : List Char) (close : Char)
    (body : List Char) : Except PatternError (Opening × List Char) := do
  let unknown (rest : List Char) : Except PatternError (Opening × List Char) :=
    .error (.unknownGrouping (consumed text rest))
  let conclude (kind : GroupKind) (rest : List Char) : Except PatternError (Opening × List Char) :=
    match rest with
    | [] => unknown rest
    | c :: more => if c == close then .ok (.group kind o, more) else unknown more
  let (own, rest) ← readOwn groups close body
  let taken : Bool := own.isSome || body.head? == some '-'
  match taken, rest with
  | true, '-' :: more =>
    let (freed, rest) ← readFreed groups close more
    conclude (.balance own freed) rest
  | _, _ =>
    match own with
    | some n => conclude (.capture n) rest
    | none => unknown rest

/-- Read a condition, `text` being what follows the parenthesis in front of the question mark and
`body` what follows the parenthesis of the condition: the number or name of a group, or else a
group of its own, in front of which the answer ends. -/
def readCondition (groups : GroupTable) (o : Options) (body : List Char) :
    Except PatternError (Opening × List Char) := do
  let matching : Except PatternError (Opening × List Char) :=
    match body with
    | '?' :: '#' :: _ => .error .commentAsCondition
    | '?' :: '\'' :: _ => .error .namedCondition
    | '?' :: '<' :: c :: _ =>
      if c == '!' || c == '=' then .ok (.group .ifMatches o, '(' :: body)
      else .error .namedCondition
    | _ => .ok (.group .ifMatches o, '(' :: body)
  match body with
  | [] => matching
  | c :: _ =>
    if isNumeral c then
      let (n, rest) ← readNumber body
      match rest with
      | ')' :: more =>
        if groups.numbers.contains n then return (.group (.ifMatched n) o, more)
        else throw (.undefinedCondition n)
      | _ => throw (.malformedCondition n)
    else
      let name := String.ofList (body.takeWhile Unicode.isWord)
      match groups.number? name, body.dropWhile Unicode.isWord with
      | some n, ')' :: more => return (.group (.ifMatched n) o, more)
      | _, _ => matching

/-- Whether an opening parenthesis is followed by nothing special. -/
def isPlainOpening : List Char → Bool
  | '?' :: ')' :: _ => true
  | '?' :: _ => false
  | _ => true

/-- Read what follows an opening parenthesis up to where its body starts. A plain group has the
number `next`, if there is one. Options cannot be switched directly inside a choice by what
follows. -/
def readOpening (groups : GroupTable) (o : Options) (inChoice : Bool) (next : Option Nat)
    (text : List Char) : Except PatternError (Opening × List Char) :=
  if isPlainOpening text then
    .ok (.group ((next.map GroupKind.capture).getD .plain) o, text)
  else
    match text with
    | '?' :: ':' :: rest => .ok (.group .plain o, rest)
    | '?' :: '=' :: rest => .ok (.group (.look true false) o, rest)
    | '?' :: '!' :: rest => .ok (.group (.look true true) o, rest)
    | '?' :: '>' :: rest => .ok (.group .atomic o, rest)
    | '?' :: '<' :: '=' :: rest => .ok (.group (.look false false) o, rest)
    | '?' :: '<' :: '!' :: rest => .ok (.group (.look false true) o, rest)
    | '?' :: '\'' :: '=' :: rest => .error (.unknownGrouping (consumed text rest))
    | '?' :: '\'' :: '!' :: rest => .error (.unknownGrouping (consumed text rest))
    | '?' :: '<' :: body => readGroupName groups o text '>' body
    | '?' :: '\'' :: body => readGroupName groups o text '\'' body
    | '?' :: '(' :: body => readCondition groups o body
    | _ =>
      let body := text.drop 1
      let (options, rest) := if inChoice then (o, body) else readOptions true o body
      match rest with
      | ')' :: rest => .ok (.directive options, rest)
      | ':' :: rest => .ok (.group .plain options, rest)
      | _ :: rest => .error (.unknownGrouping (consumed text rest))
      | [] => .error (.unknownGrouping (consumed text []))

/-! ## The pass over the text -/

/-- A group that is still open: its condition, its finished alternatives and the items of the
current one, both latest first, and the options that hold again once it is closed. -/
structure Frame where
  kind : GroupKind
  condition : Option Node
  alternatives : List Node
  items : List Node
  outer : Options
  deriving Repr

/-- The alternatives of a group. -/
def Frame.branches (f : Frame) : List Node :=
  (Node.sequence f.items.reverse :: f.alternatives).reverse

/-- The body of a group. -/
def Frame.body (f : Frame) : Node := .alternation f.branches

/-- The tree of a choice between at most two branches. -/
def choice (make : (yes no : Node) → Node) : (branches : List Node) → Except PatternError Node
  | [yes] => .ok (make yes .empty)
  | [yes, no] => .ok (make yes no)
  | _ => .error .tooManyBranches

/-- The node of a group that is closed. -/
def Frame.close (f : Frame) : Except PatternError Node :=
  match f.kind with
  | .plain => .ok f.body
  | .capture index => .ok (.group index f.body)
  | .balance index freed => .ok (.balance index freed f.body)
  | .look ahead negated => .ok (.look ahead negated f.body)
  | .atomic => .ok (.atomic f.body)
  | .ifMatched index => choice (.ifMatched index) f.branches
  | .ifMatches => choice (.ifMatches (f.condition.getD .empty)) f.branches

/-- The state of the pass. -/
structure Parser where
  rest : List Char
  options : Options
  /-- The innermost open group; the outermost is the whole pattern. -/
  frame : Frame
  enclosing : List Frame
  nextGroup : Nat
  /-- Whether the next plain group is a condition, which has no number. -/
  skipNumber : Bool
  /-- Whether the last thing read is a repetition. -/
  afterRepeat : Bool
  deriving Repr

/-- Add a finished item, with the repetition that follows it, if any. -/
def Parser.add (p : Parser) (item : Node) (rest : List Char) : Except PatternError Parser :=
  let push (n : Node) : Frame := { p.frame with items := n :: p.frame.items }
  match readRepeat p.options rest with
  | .error e => .error e
  | .ok (none, rest) => .ok { p with rest := rest, frame := push item, afterRepeat := false }
  | .ok (some r, rest) =>
    .ok { p with rest := rest, frame := push (item.times r), afterRepeat := true }

/-- Open a group or switch options, `rest` being what follows the parenthesis. -/
def Parser.open (groups : GroupTable) (p : Parser) (rest : List Char) :
    Except PatternError Parser := do
  let plain := isPlainOpening rest
  let numbered : Bool := plain && !p.options.namedOnly && !p.skipNumber
  let inChoice : Bool := p.frame.kind = .ifMatches
  let opening ← readOpening groups p.options inChoice (if numbered then some p.nextGroup else none)
    rest
  match opening with
  | (.directive options, rest) =>
    return { p with rest := rest, options := options, afterRepeat := false }
  | (.group kind options, rest) =>
    return { p with
      rest := rest
      options := options
      frame := ⟨kind, none, [], [], p.options⟩
      enclosing := p.frame :: p.enclosing
      nextGroup := if numbered then p.nextGroup + 1 else p.nextGroup
      skipNumber := if plain then false else p.skipNumber || kind = .ifMatches
      afterRepeat := false }

/-- Close the innermost group, `rest` being what follows the parenthesis. The first group inside a
choice by what follows is its condition. -/
def Parser.close (p : Parser) (rest : List Char) : Except PatternError Parser :=
  match p.enclosing with
  | [] => .error .unexpectedParenthesis
  | outer :: enclosing =>
    match p.frame.close with
    | .error e => .error e
    | .ok node =>
      let closed := { p with options := p.frame.outer, frame := outer, enclosing := enclosing }
      if outer.kind = .ifMatches && outer.condition.isNone then
        .ok { closed with
          rest := rest, frame := { outer with condition := some node }, afterRepeat := false }
      else closed.add node rest

/-- Read one item, group delimiter or bar. `c` is the next character and `rest` what follows. -/
def Parser.step (groups : GroupTable) (p : Parser) (c : Char) (rest : List Char) :
    Except PatternError Parser :=
  let folded := p.options.ignoreCase
  let literal (_ : Unit) : Except PatternError Parser := p.add (codeNode c.toNat folded) rest
  let dangling : Except PatternError Parser :=
    .error (if p.afterRepeat then .nestedRepeat else .missingRepeatArgument)
  match c with
  | '[' =>
    match readSet folded rest with
    | .error e => .error e
    | .ok (s, rest) => p.add (.char (.ofSet s) folded) rest
  | '(' => p.open groups rest
  | ')' => p.close rest
  | '|' =>
    .ok { p with
      rest := rest
      frame := { p.frame with
        alternatives := Node.sequence p.frame.items.reverse :: p.frame.alternatives
        items := [] }
      afterRepeat := false }
  | '\\' =>
    match readBackslash groups folded rest with
    | .error e => .error e
    | .ok (n, rest) => p.add n rest
  | '^' => p.add (.anchor (if p.options.multiline then .lineStart else .textStart)) rest
  | '$' => p.add (.anchor (if p.options.multiline then .lineEnd else .lastLineEnd)) rest
  | '.' =>
    p.add (.char (if p.options.singleLine then .isIn (.ofLayer Layer.all) else .isNot 0x0a) folded)
      rest
  | '*' => dangling
  | '+' => dangling
  | '?' => dangling
  | '{' => if startsRepeat (c :: rest) then dangling else literal ()
  | _ => literal ()

/-- Run the pass to the end of the text. Every step shortens the rest, so `fuel` need only
exceed its length. -/
def Parser.run (groups : GroupTable) : (fuel : Nat) → Parser → Except PatternError Node
  | 0, _ => .error .missingParenthesis
  | fuel + 1, p =>
    match p.options.skip p.rest with
    | .error e => .error e
    | .ok [] =>
      match p.enclosing with
      | [] => .ok p.frame.body
      | _ :: _ => .error .missingParenthesis
    | .ok (c :: rest) =>
      match p.step groups c rest with
      | .error e => .error e
      | .ok p => run groups fuel p

/-- Read a pattern. -/
def parse (text : String) : Except PatternError Node :=
  let chars := text.toList
  match GroupTable.ofPattern chars with
  | .error e => .error e
  | .ok groups =>
    (Parser.run groups (chars.length + 1)
      ⟨chars, .initial, ⟨.plain, none, [], [], .initial⟩, [], 1, false, false⟩).map Node.shared

end CodeViewer.Pattern
