import CodeViewer.Grammar.Basic
import CodeViewer.Pattern.Search

/-!
# Compiled grammars

A compiled grammar holds patterns in place of their texts. Every rule has a number of its own
and a path such as `rules[3].contains[0]`; the top-level mode has the number zero.
-/

namespace CodeViewer

/-- How a mode behaves, apart from the rules that apply in it. -/
structure ModeSpec where
  /-- The class of the mode; empty for the top level. -/
  cls : Class
  finish : Option Pattern
  endsWithParent : Bool
  excludeEnd : Bool
  returnEnd : Bool
  endsParent : Bool
  noInherit : Bool
  useCategories : Bool
  absorb : Bool
  illegal : Option Pattern
  deriving Repr

/-- What a rule does once it has matched. -/
inductive Action where
  /-- Emit a token and, if `endsParent`, close the enclosing mode. -/
  | emit (endsParent : Bool)
  /-- Open a mode. -/
  | enter (mode : ModeSpec)
  deriving Repr

/-- A rule, apart from the rules it contains. -/
structure RuleHead where
  id : Nat
  path : String
  cls : Class
  beginClass : Class
  /-- The text of the pattern the rule begins with; two rules of one text and different classes
  contradict each other. -/
  source : String
  start : Pattern
  /-- The rule begins with a literal or keywords and competes by length. -/
  literal : Bool
  action : Action
  deriving Repr

/-- A compiled rule. -/
inductive CompiledRule where
  | mk (head : RuleHead) (contains : List CompiledRule)
  deriving Repr

namespace CompiledRule

/-- The rule apart from its contained rules. -/
def head : CompiledRule → RuleHead
  | mk head _ => head

/-- The rules that apply first inside the mode of the rule. -/
def contains : CompiledRule → List CompiledRule
  | mk _ contains => contains

/-- The number of the rule. -/
def id (r : CompiledRule) : Nat := r.head.id

/-- Whether the rule opens a mode. -/
def opensMode (r : CompiledRule) : Bool :=
  match r.head.action with
  | .enter _ => true
  | .emit _ => false

/-- The mode of a rule. A rule that opens none is taken for one whose mode never ends by
itself and has no attributes. -/
def modeSpec (r : CompiledRule) : ModeSpec :=
  match r.head.action with
  | .enter mode => mode
  | .emit endsParent =>
    { cls := r.head.cls, finish := none, endsWithParent := false, excludeEnd := false,
      returnEnd := false, endsParent := endsParent, noInherit := false, useCategories := false,
      absorb := false, illegal := none }

mutual

/-- The rule and all rules inside it, in the order of the grammar. -/
def flatten : CompiledRule → List CompiledRule
  | mk head contains => mk head contains :: flattenAll contains

/-- The rules of a list and all rules inside them, in the order of the grammar. -/
def flattenAll : List CompiledRule → List CompiledRule
  | [] => []
  | r :: rs => flatten r ++ flattenAll rs

end

end CompiledRule

/-- A word category and its pattern. -/
structure CompiledCategory where
  cls : Class
  words : List String
  pattern : Pattern
  deriving Repr

/-- A grammar ready for scanning. -/
structure CompiledGrammar where
  name : String
  aliases : List String
  filetypes : List String
  categories : List CompiledCategory
  /-- Identifiers at the place the search starts from. -/
  namePattern : Pattern
  /-- Lexemes that are identifiers as a whole. -/
  wholeName : Pattern
  /-- The top-level mode. -/
  root : ModeSpec
  rules : List CompiledRule
  deriving Repr

namespace CompiledGrammar

/-- All rules of the grammar, at every level. -/
def allRules (g : CompiledGrammar) : List CompiledRule := CompiledRule.flattenAll g.rules

/-- The classes of the word categories, in order of priority. -/
def categoryClasses (g : CompiledGrammar) : List Class := g.categories.map (·.cls)

end CompiledGrammar

end CodeViewer
