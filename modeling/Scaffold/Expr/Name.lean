/-!
# Variable names

A variable name is a non-empty run of ASCII letters, digits, dots, dashes and underscores.
-/

namespace Scaffold.Name

/-- Can `c` stand in a variable name? -/
def isChar (c : Char) : Bool :=
  c == '-' || c == '.' || c == '_' || ('0' ≤ c && c ≤ '9') || ('a' ≤ c && c ≤ 'z') ||
    ('A' ≤ c && c ≤ 'Z')

/-- The names that the language has. -/
def IsName (s : String) : Prop := s.toList ≠ [] ∧ ∀ c ∈ s.toList, isChar c = true

instance (s : String) : Decidable (IsName s) :=
  decidable_of_iff (s.toList ≠ [] ∧ s.toList.all isChar = true) (by simp [IsName])

/-- The names that are written out: those of the language, each also with one newline after it. -/
def isWritable (s : String) : Bool :=
  let cs := s.toList
  let body := if cs.getLast? = some '\n' then cs.dropLast else cs
  !body.isEmpty && body.all isChar

end Scaffold.Name
