import CodeViewer.Grammar.Compiled
import CodeViewer.Scan.Token

/-!
# The modes of a scan

Modes nest. The innermost one decides which rules apply: those of its own rule, followed,
unless the rule refuses them, by everything that applies in the mode around it.
-/

namespace CodeViewer

/-- A mode that is being scanned. -/
structure Mode where
  spec : ModeSpec
  /-- The rules that apply, in the order they are tried. -/
  visible : List CompiledRule
  /-- Whether word categories and identifiers apply. -/
  categories : Bool
  deriving Repr

/-- The modes a scan is in: the top-level mode, the modes opened since, innermost first, and
the number of modes that may be open. -/
structure ModeStack where
  root : Mode
  opened : List Mode
  limit : Nat
  deriving Repr

/-- The nesting limit of a scan that sets none. -/
def defaultMaxDepth : Nat := 64

/-- The nesting limit in effect: a number below one asks for the default. -/
def effectiveLimit (maxDepth : Int) : Nat :=
  if maxDepth ≤ 0 then defaultMaxDepth else maxDepth.toNat

namespace ModeStack

/-- The modes at the start of a scan. -/
def ofGrammar (g : CompiledGrammar) (maxDepth : Int) : ModeStack :=
  ⟨⟨g.root, g.rules, g.root.useCategories⟩, [], effectiveLimit maxDepth⟩

/-- The innermost mode. -/
def top (s : ModeStack) : Mode := s.opened.headD s.root

/-- The number of modes open above the top level. -/
def depth (s : ModeStack) : Nat := s.opened.length

/-- Whether only the top-level mode is open. -/
def atRoot (s : ModeStack) : Bool := s.opened.isEmpty

/-- The mode of a rule that is entered from the mode `parent`. -/
def inner (parent : Mode) (r : CompiledRule) : Mode :=
  let spec := r.modeSpec
  if spec.noInherit then ⟨spec, r.contains, spec.useCategories⟩
  else ⟨spec, r.contains ++ parent.visible, spec.useCategories || parent.categories⟩

/-- Enter the mode of a rule that matched at byte `offset`. -/
def push (s : ModeStack) (r : CompiledRule) (offset : Int) : Except ScanError ModeStack :=
  if s.limit ≤ s.depth then .error (.tooDeep s.limit offset r.head.cls)
  else .ok { s with opened := inner s.top r :: s.opened }

/-- Leave the innermost mode; the top level is never left. -/
def pop (s : ModeStack) : Except ScanError ModeStack :=
  match s.opened with
  | [] => .error .closedTopLevel
  | _ :: rest => .ok { s with opened := rest }

end ModeStack

end CodeViewer
