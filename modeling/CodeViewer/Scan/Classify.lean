import CodeViewer.Grammar.Compiled
import CodeViewer.Scan.Token

/-!
# Classification of words

Word categories are looked up by whole words, so that a word is never taken for a longer one.
-/

namespace CodeViewer.CompiledGrammar

/-- The category of a class. -/
def category? (g : CompiledGrammar) (cls : Class) : Option CompiledCategory :=
  g.categories.find? (·.cls == cls)

/-- Whether a lexeme is an identifier as a whole. One at which the search meets an unknown
instruction is none. -/
def isName (g : CompiledGrammar) (lexeme : String) : Except ScanError Bool :=
  match g.wholeName.matchLength? lexeme.toList.toArray 0 with
  | .ok length => .ok length.isSome
  | .error .unknownInstruction => .ok false
  | .error .outOfRange => .error .outOfText

/-- The class of a lexeme: that of the hinted category if it lists the lexeme, else that of the
first category that does, else that of identifiers if it is one, else the hint or, without a
hint, unknown. -/
def classify (g : CompiledGrammar) (lexeme : String) (hint : Class) : Except ScanError Class :=
  if hint != "" && (g.category? hint).any (·.words.contains lexeme) then .ok hint
  else
    match g.categories.find? (·.words.contains lexeme) with
    | some c => .ok c.cls
    | none =>
      (g.isName lexeme).map (fun named ↦
        if named then Class.identifier else if hint != "" then hint else Class.unknown)

/-- The priority of a class among the word categories; behind all of them if it is not one. -/
def rank (g : CompiledGrammar) (cls : Class) : Nat :=
  (g.categories.findIdx? (·.cls == cls)).getD g.categories.length

end CodeViewer.CompiledGrammar
