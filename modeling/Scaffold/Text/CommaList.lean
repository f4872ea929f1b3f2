import Scaffold.Text.Blank

/-!
# Comma lists

`CommaList.items` reads a text such as `a, b,, c` as the list of its items: the pieces between
commas, without the blanks around them and without the pieces that are blank throughout.
-/

namespace Scaffold.Text.CommaList

/-- The pieces between commas; there is one more of them than there are commas. -/
def pieces : List Char → List (List Char)
  | [] => [[]]
  | c :: cs =>
    if c = ',' then [] :: pieces cs
    else match pieces cs with
      | [] => [[c]]
      | p :: ps => (c :: p) :: ps

/-- The trimmed pieces that are not empty. -/
def itemChars (cs : List Char) : List (List Char) :=
  ((pieces cs).map trim).filter (!·.isEmpty)

/-- The items of a comma list. -/
def items (s : String) : List String := (itemChars s.toList).map String.ofList

end Scaffold.Text.CommaList
