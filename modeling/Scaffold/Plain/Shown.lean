import Scaffold.Plain.Basic
import Scaffold.Text.Quoted

/-!
# Plain data inside messages

How a message shows plain data: `None`, `True`, `'text'`, `[1, 'a']`, `{'k': 'v'}`, and `(1,)` or
`(1, 2)` for a fixed sequence. Data that hold an integer with too many digits cannot be shown.
-/

namespace Scaffold.Plain

mutual

/-- The text of plain data inside a message. -/
def shown : Plain → String
  | .null => "None"
  | .bool true => "True"
  | .bool false => "False"
  | .number n => n.text
  | .text s => Text.quoted s
  | .list items => "[" ++ String.intercalate ", " (shownItems items) ++ "]"
  | .object entries => "\x7b" ++ String.intercalate ", " (shownEntries entries) ++ "\x7d"

def shownItems : List Plain → List String
  | [] => []
  | p :: ps => shown p :: shownItems ps

def shownEntries : List (String × Plain) → List String
  | [] => []
  | (key, p) :: es => (Text.quoted key ++ ": " ++ shown p) :: shownEntries es

end

mutual

/-- Can a message show plain data? -/
def isShowable : Plain → Bool
  | .null => true
  | .bool _ => true
  | .number n => n.isWritable
  | .text _ => true
  | .list items => areShowable items
  | .object entries => haveShowable entries

def areShowable : List Plain → Bool
  | [] => true
  | p :: ps => isShowable p && areShowable ps

def haveShowable : List (String × Plain) → Bool
  | [] => true
  | (_, p) :: es => isShowable p && haveShowable es

end

/-- The text of a fixed sequence; a single item keeps its comma. -/
def shownTuple : List Plain → String
  | [p] => "(" ++ shown p ++ ",)"
  | ps => "(" ++ String.intercalate ", " (shownItems ps) ++ ")"

end Scaffold.Plain
