import CodeViewer.Grammar.Compile
import CodeViewer.Grammar.Glob
import CodeViewer.Grammar.Zig

/-!
# Known grammars

Grammars are kept in the order of their registration, at most one for each name. They are
looked up by name or alias, without regard to case, or by the name of a file. A grammar is
compiled when it is first looked up; what comes of it is kept with the grammar.
-/

namespace CodeViewer

/-- A grammar, with what compiling it has come to if it was ever looked up. -/
structure RegistryEntry where
  grammar : Grammar
  compiled : Option (Except InvalidGrammar CompiledGrammar)

/-- The grammars that can be chosen. -/
structure Registry where
  entries : List RegistryEntry

/-- Why a grammar cannot be had. -/
inductive LookupError where
  | unknownName (name : String)
  | unknownFile (base : String)
  | invalid (error : InvalidGrammar)
  deriving DecidableEq, Repr

/-- Whether there is no such grammar, rather than a bad one. -/
def LookupError.isNotFound : LookupError → Bool
  | .invalid _ => false
  | _ => true

/-- The report of a failed lookup. -/
def LookupError.message : LookupError → String
  | .unknownName name => "grammar not found: " ++ Text.quoteString name
  | .unknownFile base => "grammar not found for file " ++ Text.quoteString base
  | .invalid e => e.message

/-- Put a string in front of the first greater one. -/
def insertSorted (s : String) : List String → List String
  | [] => [s]
  | t :: ts => if s < t then s :: t :: ts else t :: insertSorted s ts

namespace RegistryEntry

/-- A grammar that was not looked up yet. -/
def ofGrammar (g : Grammar) : RegistryEntry := ⟨g, none⟩

/-- What compiling the grammar comes to. -/
def result (e : RegistryEntry) : Except InvalidGrammar CompiledGrammar :=
  e.compiled.getD (compile e.grammar)

/-- The entry once it was looked up. -/
def lookedUp (e : RegistryEntry) : RegistryEntry := { e with compiled := some e.result }

end RegistryEntry

namespace Registry

/-- The grammars that come with the program. -/
def bundled : Registry := ⟨[.ofGrammar zig]⟩

/-- Replace the first grammar of the same name. -/
def replace (g : Grammar) : List RegistryEntry → Option (List RegistryEntry)
  | [] => none
  | e :: es =>
    if Unicode.equalFold e.grammar.name g.name then some (.ofGrammar g :: es)
    else (replace g es).map (e :: ·)

/-- Add a grammar; one that has its name already makes room for it. -/
def register (r : Registry) (g : Grammar) : Registry :=
  ⟨(replace g r.entries).getD (r.entries ++ [.ofGrammar g])⟩

/-- The names of all grammars, in ascending order. -/
def names (r : Registry) : List String :=
  (r.entries.map (·.grammar.name)).foldl (fun sorted name ↦ insertSorted name sorted) []

/-- Look up the first grammar that satisfies `p`. -/
def lookup (p : Grammar → Bool) :
    List RegistryEntry → Option (Except InvalidGrammar CompiledGrammar × List RegistryEntry)
  | [] => none
  | e :: es =>
    if p e.grammar then some (e.result, e.lookedUp :: es)
    else (lookup p es).map (fun (result, es) ↦ (result, e :: es))

/-- Look up the first grammar that satisfies `p`, or report that it is `missing`. -/
def find (r : Registry) (p : Grammar → Bool) (missing : LookupError) :
    Except LookupError CompiledGrammar × Registry :=
  match lookup p r.entries with
  | none => (.error missing, r)
  | some (result, entries) => (result.mapError LookupError.invalid, ⟨entries⟩)

/-- Whether a grammar has a name or alias. -/
def answersTo (name : String) (g : Grammar) : Bool :=
  Unicode.equalFold g.name name || g.aliases.any (Unicode.equalFold · name)

/-- Whether a grammar claims files of a name. -/
def covers (base : String) (g : Grammar) : Bool := g.filetypes.any (Glob.isMatch · base)

/-- The first grammar with a name or alias. -/
def get (r : Registry) (name : String) : Except LookupError CompiledGrammar × Registry :=
  r.find (answersTo name) (.unknownName name)

/-- The first grammar that claims the file at a path. -/
def forFile (r : Registry) (path : String) : Except LookupError CompiledGrammar × Registry :=
  let base := Glob.baseName path
  r.find (covers base) (.unknownFile base)

end Registry

end CodeViewer
