import CodeViewer.Highlight.Highlighter

/-!
# Source files
-/

namespace CodeViewer

/-- A file to be shown or dumped. -/
structure SourceFile where
  path : String
  contents : ByteArray
  /-- The language of the file, if any grammar claims it. -/
  language : Option Language

/-- The name a language goes by; text without one is plain. -/
def Language.title (language : Option Language) : String :=
  match language with
  | some l => l.name
  | none => "plain"

/-- The name the scans of a file are counted under. -/
def SourceFile.grammarName (f : SourceFile) : String := Language.title f.language

end CodeViewer
