import CodeViewer.Unicode.Named
import CodeViewer.Unicode.Property

/-!
# Sets of characters in patterns

A layer of a set names ranges of code points and classes of characters, and may be negated as
a whole. The classes are asked in the order in which they were named, and the first that has a
say decides: any class has one on its members, and a negated class also on all others. So
`[\D\w]` refuses digits although they are word characters, and `[\w\D]` takes them.

A set takes one layer away from another: `[a-z-[aeiou]]` is a layer of letters without a layer
of vowels.
-/

namespace CodeViewer.Pattern

/-- The properties of characters a pattern may name. -/
inductive Category where
  | letter
  | upper
  | lower
  | title
  | decimalDigit
  | nonspacingMark
  | enclosingMark
  | connector
  /-- The property at an index of the table of named properties. -/
  | named (index : Nat)
  deriving DecidableEq, Repr

/-- The category of a name, as written between the braces. -/
def Category.ofName? : String → Option Category
  | "L" => some .letter
  | "Lu" => some .upper
  | "Ll" => some .lower
  | "Lt" => some .title
  | "Nd" => some .decimalDigit
  | "Mn" => some .nonspacingMark
  | "Me" => some .enclosingMark
  | "Pc" => some .connector
  | name => (Unicode.namedProperties.findIdx? (·.name == name)).map .named

/-- Whether a character belongs to a category. -/
def Category.contains : Category → Char → Bool
  | .letter, c => Unicode.isLetter c
  | .upper, c => Unicode.isUpper c
  | .lower, c => Unicode.isLower c
  | .title, c => Unicode.isTitle c
  | .decimalDigit, c => Unicode.isDigit c
  | .nonspacingMark, c => Unicode.isNonspacingMark c
  | .enclosingMark, c => Unicode.isEnclosingMark c
  | .connector, c => Unicode.isConnector c
  | .named index, c => (Unicode.namedProperties[index]?).any (·.holds c.toNat)

/-- The categories that stand for one another where case is ignored. -/
def Category.isCased : Category → Bool
  | .upper => true
  | .lower => true
  | .title => true
  | _ => false

/-- A class of characters. -/
inductive CharClass where
  | space
  | word
  | category (category : Category)
  deriving DecidableEq, Repr

/-- Whether a character is a member of a class. -/
def CharClass.contains : CharClass → Char → Bool
  | .space, c => Unicode.isSpace c
  | .word, c => Unicode.isWord c
  | .category cat, c => cat.contains c

/-! ## Ranges -/

/-- The largest code point. -/
def maxCode : Nat := 0x10ffff

/-- Insert a range into ranges that are sorted and apart, and unite it with those that it
overlaps or touches. -/
def insertRange (first last : Nat) : List (Nat × Nat) → List (Nat × Nat)
  | [] => [(first, last)]
  | (a, b) :: rest =>
    if last + 1 < a then (first, last) :: (a, b) :: rest
    else if b + 1 < first then (a, b) :: insertRange first last rest
    else insertRange (min first a) (max last b) rest

/-- Insert several ranges. -/
def insertRanges (ranges added : List (Nat × Nat)) : List (Nat × Nat) :=
  added.foldl (fun rs r ↦ insertRange r.1 r.2 rs) ranges

/-! ## Layers -/

/-- Ranges that are sorted and apart, and classes in the order of their naming; the Boolean of
a class says whether it is negated. -/
structure Layer where
  ranges : List (Nat × Nat)
  classes : List (CharClass × Bool)
  negated : Bool
  deriving DecidableEq, Repr

/-- The layer of the characters that the classes decide on: the first class that has a say. -/
def classVerdict (c : Char) : List (CharClass × Bool) → Bool
  | [] => false
  | (cls, negated) :: rest =>
    if cls.contains c then !negated else negated || classVerdict c rest

namespace Layer

/-- A layer without ranges and classes. -/
def empty (negated : Bool) : Layer := ⟨[], [], negated⟩

/-- The layer of all code points. -/
def all : Layer := ⟨[(0, maxCode)], [], false⟩

/-- Whether a character belongs to the layer. -/
def contains (s : Layer) (c : Char) : Bool :=
  (s.ranges.any (fun r ↦ r.1 ≤ c.toNat && c.toNat ≤ r.2) || classVerdict c s.classes)
    != s.negated

/-- Add a range of code points. -/
def addRange (s : Layer) (first last : Nat) : Layer :=
  { s with ranges := insertRange first last s.ranges }

/-- Add one code point. -/
def addCode (s : Layer) (code : Nat) : Layer := s.addRange code code

/-- Add a class. A class and its opposite leave nothing out. -/
def addClass (s : Layer) (cls : CharClass) (negated : Bool) : Layer :=
  if s.classes.contains (cls, negated) then s
  else if s.classes.contains (cls, !negated) then
    { s with ranges := [(0, maxCode)], classes := [] }
  else { s with classes := s.classes ++ [(cls, negated)] }

/-- Add classes, each negated or not. -/
def addClasses (s : Layer) (added : List (CharClass × Bool)) : Layer :=
  added.foldl (fun s c ↦ s.addClass c.1 c.2) s

/-- Add a category. Where case is ignored the cased categories come together. -/
def addCategory (s : Layer) (folded : Bool) (cat : Category) (negated : Bool) : Layer :=
  let cased : List Category := if folded && cat.isCased then [.lower, .upper, .title] else []
  s.addClasses ((cased ++ [cat]).map (fun cat ↦ (.category cat, negated)))

/-- Add what another layer holds. -/
def union (s t : Layer) : Layer :=
  { s with ranges := insertRanges s.ranges t.ranges }.addClasses t.classes

end Layer

/-! ## Sets -/

/-- A layer without the layers taken away from it: from the first is taken what is left of the
second once the third is taken away, and so on. -/
structure CharSet where
  base : Layer
  minus : List Layer
  deriving DecidableEq, Repr

/-- Whether a character is left in the first layer once the others are taken away. -/
def remains (c : Char) : List Layer → Bool
  | [] => false
  | s :: rest => s.contains c && !remains c rest

namespace CharSet

/-- A set of one layer. -/
def ofLayer (s : Layer) : CharSet := ⟨s, []⟩

/-- Whether a character belongs to the set. -/
def contains (s : CharSet) (c : Char) : Bool := remains c (s.base :: s.minus)

/-- Whether the set can be united with another by uniting what they name: neither negated nor
lessened by another layer. -/
def isPlain (s : CharSet) : Bool := !s.base.negated && s.minus.isEmpty

/-- The union of plain sets. -/
def union (s t : CharSet) : CharSet := ofLayer (s.base.union t.base)

/-- Whether the set names nothing at all. -/
def isBlank (s : CharSet) : Bool :=
  s.base.ranges.isEmpty && s.base.classes.isEmpty && s.minus.isEmpty

end CharSet

/-! ## Tests on one character -/

/-- What a pattern asks of one character. A code point that is no character is never found. -/
inductive CharTest where
  | is (code : Nat)
  | isNot (code : Nat)
  | isIn (set : CharSet)
  deriving DecidableEq, Repr

/-- The character to look at where case is ignored: its lower-case form. -/
def foldCase (folded : Bool) (c : Char) : Char := if folded then Unicode.toLower c else c

namespace CharTest

/-- The test of a set; one that names a single code point is a comparison. -/
def ofSet (s : CharSet) : CharTest :=
  match s.base.ranges, s.base.classes, s.minus with
  | [(first, last)], [], [] =>
    if first = last then (if s.base.negated then .isNot first else .is first) else .isIn s
  | _, _, _ => .isIn s

/-- Whether a character passes the test. -/
def accepts (folded : Bool) : CharTest → Char → Bool
  | .is code, c => (foldCase folded c).toNat == code
  | .isNot code, c => (foldCase folded c).toNat != code
  | .isIn s, c => s.contains (foldCase folded c)

/-- The plain set of the characters that pass, if the test has one. -/
def plainSet? : CharTest → Option CharSet
  | .is code => some (.ofLayer ((Layer.empty false).addCode code))
  | .isNot _ => none
  | .isIn s => if s.isPlain then some s else none

end CharTest

end CodeViewer.Pattern
