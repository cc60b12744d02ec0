import CodeViewer.Grammar.Ambiguity
import CodeViewer.Grammar.Error
import CodeViewer.Grammar.Words
import CodeViewer.Pattern.Parser

/-!
# Compiling grammars

All flaws of a grammar are found here, before anything is scanned. Categories come first, then
the pattern of identifiers, then the rules from left to right and from the outside in, and last
the contradictions between rules that apply together.
-/

namespace CodeViewer

/-- Read a pattern given by its whole text. -/
def compilePattern (grammar path text : String) : Except InvalidGrammar Pattern :=
  match Pattern.parse text with
  | .ok node => .ok (Pattern.ofNode text node)
  | .error e => .error ⟨grammar, path, .badPattern text e⟩

/-- Read a pattern that is to match where the search starts. The whole text stays visible to
it, so that it can look at what stands before. -/
def compileAnchored (grammar path text : String) : Except InvalidGrammar Pattern :=
  compilePattern grammar path ("\\G(?:" ++ text ++ ")")

/-- Read an optional pattern; an empty text means that there is none. -/
def compileOptional (grammar path text : String) : Except InvalidGrammar (Option Pattern) :=
  if text == "" then .ok none else (compileAnchored grammar path text).map some

/-- The flaw of the first bad word of a list, given the words before it. -/
def wordFlaw? : (passed : List String) → List String → Option GrammarFlaw
  | _, [] => none
  | passed, w :: ws =>
    if w == "" then some .emptyWord
    else if passed.contains w then some (.repeatedWord w)
    else wordFlaw? (w :: passed) ws

/-- The flaw of a list of words: there must be some, none empty and none twice. -/
def wordsFlaw? (words : List String) : Option GrammarFlaw :=
  if words.isEmpty then some .noWords else wordFlaw? [] words

/-- Compile the categories from the given index on; `passed` holds the classes before. -/
def compileCategories (grammar : String) : (index : Nat) → (passed : List Class) →
    List Category → Except InvalidGrammar (List CompiledCategory)
  | _, _, [] => .ok []
  | index, passed, c :: cs => do
    let path := "categories[" ++ toString index ++ "]"
    if c.cls == "" then
      .error ⟨grammar, path, .categoryWithoutClass⟩
    else if passed.contains c.cls then
      .error ⟨grammar, path, .repeatedCategory c.cls⟩
    else
      match wordsFlaw? c.words with
      | some flaw => .error ⟨grammar, path, flaw⟩
      | none =>
        let pattern ← compileAnchored grammar path (wordsPattern c.words)
        let rest ← compileCategories grammar (index + 1) (c.cls :: passed) cs
        return ⟨c.cls, c.words, pattern⟩ :: rest

/-- The text of the pattern a rule begins with, and whether the rule competes by length.
Exactly one of pattern, literal and keywords must be given. -/
def ruleSource (a : RuleAttributes) : Except GrammarFlaw (String × Bool) :=
  match a.pattern != "", a.literal != "", a.keywords with
  | true, false, none => .ok (a.pattern, false)
  | false, true, none => .ok (Pattern.escape a.literal, true)
  | false, false, some words =>
    match wordsFlaw? words with
    | some flaw => .error flaw
    | none => .ok (wordsPattern words, true)
  | _, _, _ => .error .notOneBegin

/-- The class of the text a rule begins with: its own if given, else that of keywords for a
rule that begins with keywords, else that of the rule. -/
def RuleAttributes.effectiveBeginClass (a : RuleAttributes) : Class :=
  if a.beginClass != "" then a.beginClass
  else if a.keywords.isSome then Class.keyword
  else a.cls

/-- Whether an attribute is set that makes sense for modes only. -/
def RuleAttributes.hasModeAttributes (a : RuleAttributes) : Bool :=
  a.excludeEnd || a.returnEnd || a.noInherit || a.useCategories || a.absorbUnmatched
    || a.illegal != ""

/-- What a rule does once it has matched. `opensMode` says whether it opens a mode. -/
def compileAction (grammar path : String) (opensMode : Bool) (a : RuleAttributes) :
    Except InvalidGrammar Action :=
  if !opensMode then
    if a.hasModeAttributes then .error ⟨grammar, path, .modeAttributesWithoutMode⟩
    else .ok (.emit a.endsParent)
  else if (a.finish != "") == a.endsWithParent then .error ⟨grammar, path, .notOneEnd⟩
  else if a.excludeEnd && a.returnEnd then .error ⟨grammar, path, .excludedAndReturnedEnd⟩
  else do
    let finish ← compileOptional grammar (path ++ ".end") a.finish
    let illegal ← compileOptional grammar (path ++ ".illegal") a.illegal
    return .enter
      { cls := a.cls, finish := finish, endsWithParent := a.endsWithParent,
        excludeEnd := a.excludeEnd, returnEnd := a.returnEnd, endsParent := a.endsParent,
        noInherit := a.noInherit, useCategories := a.useCategories,
        absorb := a.absorbUnmatched, illegal := illegal }

/-- Compile a rule apart from the rules it contains. `top` marks the rules of the top level,
which have no enclosing mode to close. -/
def compileHead (grammar : String) (top : Bool) (path : String) (id : Nat) (opensMode : Bool)
    (a : RuleAttributes) : Except InvalidGrammar RuleHead :=
  if a.cls == "" then .error ⟨grammar, path, .ruleWithoutClass⟩
  else
    match ruleSource a with
    | .error flaw => .error ⟨grammar, path, flaw⟩
    | .ok (source, literal) => do
      let start ← compileAnchored grammar path source
      if top && a.endsParent then
        .error ⟨grammar, path, .noParentToEnd⟩
      else
        let action ← compileAction grammar path opensMode a
        return ⟨id, path, a.cls, a.effectiveBeginClass, source, start, literal, action⟩

mutual

/-- Compile a rule and the rules it contains, numbered from `next` on; the answer holds the
number after them. -/
def compileRule (grammar : String) (top : Bool) (path : String) (next : Nat) :
    Rule → Except InvalidGrammar (CompiledRule × Nat)
  | .mk a contains => do
    let head ← compileHead grammar top path next (Rule.mk a contains).opensMode a
    let (inner, next) ← compileContained grammar (path ++ ".contains") (next + 1) contains
    return (.mk head inner, next)

/-- Compile the rules a rule contains, if it names any. -/
def compileContained (grammar path : String) (next : Nat) :
    Option (List Rule) → Except InvalidGrammar (List CompiledRule × Nat)
  | none => .ok ([], next)
  | some rules => compileRules grammar false path 0 next rules

/-- Compile a list of rules, the first of which has the given index and number. -/
def compileRules (grammar : String) (top : Bool) (path : String) (index next : Nat) :
    List Rule → Except InvalidGrammar (List CompiledRule × Nat)
  | [] => .ok ([], next)
  | r :: rs => do
    let (rule, next) ←
      compileRule grammar top (path ++ "[" ++ toString index ++ "]") next r
    let (rules, next) ← compileRules grammar top path (index + 1) next rs
    return (rule :: rules, next)

end

/-- Refuse rules that contradict each other. -/
def checkContradictions (grammar : String) (rules : List CompiledRule) :
    Except InvalidGrammar Unit :=
  match findContradiction rules with
  | none => .ok ()
  | some c =>
    .error ⟨grammar, c.later.path,
      .contradiction c.later.source c.earlier.cls c.earlier.path c.later.cls⟩

/-- The top-level mode: word categories apply and it never ends. -/
def rootSpec (illegal : Option Pattern) : ModeSpec :=
  { cls := "", finish := none, endsWithParent := false, excludeEnd := false,
    returnEnd := false, endsParent := false, noInherit := false, useCategories := true,
    absorb := false, illegal := illegal }

/-- Check a grammar and compile its patterns. -/
def compile (g : Grammar) : Except InvalidGrammar CompiledGrammar := do
  if g.name == "" then
    .error ⟨g.name, "", .noName⟩
  else
    let categories ← compileCategories g.name 0 [] g.categories
    let name := if g.namePattern == "" then defaultNamePattern else g.namePattern
    let namePattern ← compileAnchored g.name "namePattern" name
    let wholeName ← compilePattern g.name "namePattern" ("\\A(?:" ++ name ++ ")\\z")
    let illegal ← compileOptional g.name "illegal" g.illegal
    let (rules, _) ← compileRules g.name true "rules" 0 1 g.rules
    checkContradictions g.name rules
    return ⟨g.name, g.aliases, g.filetypes, categories, namePattern, wholeName,
      rootSpec illegal, rules⟩

end CodeViewer
