import Scaffold.Text.Quoted

/-!
# Errors of opening a file
-/

namespace Scaffold.File

/-- Why a file cannot be opened. -/
inductive Error
  | missing
  /-- The path leads to a directory. -/
  | directory
  /-- The path leads through a file. -/
  | notDirectory
  | longName
  /-- The path holds a NUL character. -/
  | nul
  /-- The file is there, but may not be read. -/
  | denied
  /-- Any other error of the system, by its number and its name. -/
  | system (number : Nat) (name : String)
deriving DecidableEq, Repr

/-- The error of the system with a number. -/
def Error.ofNumber (number : Nat) (name : String) : Error :=
  match number with
  | 2 => missing
  | 13 => denied
  | 20 => notDirectory
  | 21 => directory
  | 36 => longName
  | number => system number name

/-- What is said of a path that cannot be opened. -/
def Error.message (path : String) : Error → String
  | missing => s!"[Errno 2] No such file or directory: {Text.quoted path}"
  | denied => s!"[Errno 13] Permission denied: {Text.quoted path}"
  | notDirectory => s!"[Errno 20] Not a directory: {Text.quoted path}"
  | directory => s!"[Errno 21] Is a directory: {Text.quoted path}"
  | longName => s!"[Errno 36] File name too long: {Text.quoted path}"
  | nul => "embedded null byte"
  | system number name => s!"[Errno {number}] {name}: {Text.quoted path}"

/-- A way to get the bytes of a file from its path. -/
abbrev Opener := String → Except Error (List UInt8)

end Scaffold.File
