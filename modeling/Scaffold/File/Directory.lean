import Scaffold.File.Error

/-!
# Directories

A directory holds files by their paths in it. Any path can be opened from it: a dot stays where it
is, two dots lead to the directory above, and what lies outside is directories without files.
-/

namespace Scaffold.File

/-- The parts of a path between its slashes. -/
def parts (path : String) : List String := (path.splitOn "/").filter (· ≠ "")

/-- Files with the parts of their paths. -/
structure Directory where
  files : List (List String × List UInt8)

/-- Where a path leads: to a place in the directory, or outside. -/
inductive Place
  | inside (parts : List String)
  | outside
deriving DecidableEq, Repr

namespace Directory

def ofFiles (files : List (String × List UInt8)) : Directory :=
  ⟨files.map fun (path, bytes) => (parts path, bytes)⟩

/-- Is this a directory: the one that all lies in, or one that a file lies in? -/
def isDirectory (d : Directory) : Place → Bool
  | .outside => true
  | .inside ps => ps.isEmpty || d.files.any fun (qs, _) => ps.isPrefixOf qs && ps ≠ qs

/-- The most bytes in a name. -/
def maxName : Nat := 255

/-- What a path has fewer bytes than. -/
def maxPath : Nat := 4096

/-- The place that a part of a path leads to. -/
def step (d : Directory) (place : Place) (part : String) : Except Error Place :=
  if !d.isDirectory place then .error .notDirectory
  else if part = "." then .ok place
  else if part = ".." then
    .ok (match place with
      | .inside (p :: ps) => .inside (p :: ps).dropLast
      | _ => .outside)
  else if maxName < part.utf8ByteSize then .error .longName
  else match place with
    | .outside => .error .missing
    | .inside ps =>
      let next := Place.inside (ps ++ [part])
      if d.isDirectory next || (d.files.lookup (ps ++ [part])).isSome then .ok next
      else .error .missing

/-- The bytes of the file at a path. A path that ends in a slash is one of a directory. -/
def open? (d : Directory) : Opener := fun path => do
  if path.toList.contains '\x00' then throw .nul
  if path = "" then throw .missing
  if maxPath ≤ path.utf8ByteSize then throw .longName
  let start : Place := if path.toList.head? = some '/' then .outside else .inside []
  let place ← (parts path).foldlM d.step start
  if d.isDirectory place then throw .directory
  if path.toList.getLast? = some '/' then throw .notDirectory
  match place with
  | .inside ps =>
    match d.files.lookup ps with
    | some bytes => return bytes
    | none => throw .missing
  | .outside => throw .directory

end Directory

end Scaffold.File
