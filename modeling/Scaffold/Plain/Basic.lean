import Scaffold.Number.Text

/-!
# Plain data

Nested lists and objects of texts, numbers and truth values, the common form of what the library
writes out. The entries of an object keep their order.
-/

namespace Scaffold

inductive Plain
  | null
  | bool (value : Bool)
  | number (value : Number)
  | text (value : String)
  | list (items : List Plain)
  | object (entries : List (String × Plain))
deriving Repr

namespace Plain

/-- An integer. -/
def int (n : Int) : Plain := .number (.integer n)

end Plain

end Scaffold
