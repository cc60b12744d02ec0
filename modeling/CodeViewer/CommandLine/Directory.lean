/-!
# Directories

The files a program can reach, by their paths. A directory exists if it is listed or if a file
lies in it.
-/

namespace CodeViewer

/-- The parts of a path from the current directory on; a part `/` in front stands for the root
of all directories. -/
abbrev Location := List String

/-- Why a file cannot be used. -/
inductive FileFlaw where
  | notFound
  | isDirectory
  | notADirectory
  | nameTooLong
  deriving DecidableEq, Repr

/-- A flaw in words. -/
def FileFlaw.text : FileFlaw → String
  | .notFound => "no such file or directory"
  | .isDirectory => "is a directory"
  | .notADirectory => "not a directory"
  | .nameTooLong => "file name too long"

/-- A use of a file that failed: what was tried, on which path, and why it failed. -/
structure FileError where
  action : String
  path : String
  flaw : FileFlaw
  deriving DecidableEq, Repr

/-- The report of a failed use of a file. -/
def FileError.message (e : FileError) : String :=
  e.action ++ " " ++ e.path ++ ": " ++ e.flaw.text

/-- The files that can be reached. -/
structure Directory where
  files : List (Location × ByteArray)
  directories : List Location

namespace Directory

/-- The parts of a path. -/
def parts (path : String) : List String := path.splitOn "/"

/-- A directory of files at relative paths. -/
def ofFiles (files : List (String × ByteArray)) : Directory :=
  ⟨files.map (fun (path, contents) ↦ (parts path, contents)), []⟩

/-- The root of all directories. -/
def root : Location := ["/"]

/-- The file that is always empty, whatever is written to it. -/
def nullDevice : Location := ["/", "dev", "null"]

/-- The contents of the file at a location. -/
def file? (d : Directory) (l : Location) : Option ByteArray :=
  if l == nullDevice then some ByteArray.empty else d.files.lookup l

/-- Whether a location is the current directory or reached from it by going up only. -/
def isAbove (l : Location) : Bool := l.all (· == "..")

/-- The directory that holds a location. The root holds itself. -/
def parent (l : Location) : Location :=
  if l == root then root else if isAbove l then l ++ [".."] else l.dropLast

/-- Whether there is a directory at a location. -/
def isDirectory (d : Directory) (l : Location) : Bool :=
  l == root || l == nullDevice.dropLast || isAbove l || d.directories.any (l.isPrefixOf ·) ||
    d.files.any (fun f ↦ l.isPrefixOf f.1 && l.length < f.1.length)

/-- The largest number of bytes in a name. -/
def maxName : Nat := 255

/-- The largest number of bytes in a path. -/
def maxPath : Nat := 4095

/-- Why nothing can be looked up at a location that is no directory. -/
def missingDirectory (d : Directory) (l : Location) : FileFlaw :=
  if (d.file? l).isSome then .notADirectory else .notFound

/-- The location that is reached from `l` by the parts of a path. -/
def walk (d : Directory) : (l : Location) → List String → Except FileFlaw Location
  | l, [] => .ok l
  | l, part :: rest =>
    if !d.isDirectory l then .error (d.missingDirectory l)
    else if part == "" || part == "." then walk d l rest
    else if part == ".." then walk d (parent l) rest
    else if maxName < part.utf8ByteSize then .error .nameTooLong
    else walk d (l ++ [part]) rest

/-- The location of a path that is given by its parts. An empty path leads nowhere. -/
def locate (d : Directory) : List String → Except FileFlaw Location
  | [""] => .error .notFound
  | "" :: rest => d.walk root rest
  | path => d.walk [] path

/-- The contents of the file at a path. -/
def read (d : Directory) (path : String) : Except FileError ByteArray :=
  if maxPath < path.utf8ByteSize then .error ⟨"open", path, .nameTooLong⟩
  else
    match d.locate (parts path) with
    | .error flaw => .error ⟨"open", path, flaw⟩
    | .ok l =>
      match d.file? l with
      | some contents => .ok contents
      | none =>
        if d.isDirectory l then .error ⟨"read", path, .isDirectory⟩
        else .error ⟨"open", path, .notFound⟩

/-- The file of a name in the directory at a location, whether it is there already or not. A
name that can only stand for a directory is refused, and so is any name if `slash` says that a
slash follows it. -/
def fileIn (d : Directory) (l : Location) (name : String) (slash : Bool) :
    Except FileFlaw Location :=
  if !d.isDirectory l then .error (d.missingDirectory l)
  else if slash || name == "." || name == ".." then .error .isDirectory
  else if maxName < name.utf8ByteSize then .error .nameTooLong
  else if d.isDirectory (l ++ [name]) then .error .isDirectory
  else .ok (l ++ [name])

/-- The location of a file that can be added to. -/
def locateForWriting (d : Directory) (path : String) : Except FileError Location :=
  let parts := parts path
  let named := (parts.reverse.dropWhile (· == "")).reverse
  let located : Except FileFlaw Location :=
    if path == "" then .error .notFound
    else if maxPath < path.utf8ByteSize then .error .nameTooLong
    else
      match named.reverse with
      | [] => .error .isDirectory
      | name :: above => do
        let l ←
          match above.reverse with
          | [] => .ok []
          | [""] => .ok root
          | above => d.locate above
        d.fileIn l name (named.length < parts.length)
  located.mapError (fun flaw ↦ ⟨"open", path, flaw⟩)

/-- Add to the file at a location, which is created if it is not there. -/
def append (d : Directory) (l : Location) (more : ByteArray) : Directory :=
  if l == nullDevice then d
  else if (d.file? l).isSome then
    { d with files := d.files.map (fun (k, contents) ↦
        if k == l then (k, contents ++ more) else (k, contents)) }
  else { d with files := d.files ++ [(l, more)] }

end Directory

end CodeViewer
