import Scaffold.Plain.Basic
import Scaffold.Text.Hex
import Scaffold.Text.Surrogate

/-!
# JSON text

Plain data as JSON in ASCII: every character outside the printable ASCII range is escaped, those
beyond U+FFFF as a surrogate pair. The text is on one line, or has each entry on a line of its own.
-/

namespace Scaffold.Plain

namespace Json

/-- A `\u` escape of one 16-bit unit. -/
def unit (n : Nat) : List Char := '\\' :: 'u' :: Text.hexDigits .lower 4 n

/-- One character of a JSON string. -/
def escape (c : Char) : List Char :=
  if c = '"' ∨ c = '\\' then ['\\', c]
  else if c = '\n' then ['\\', 'n']
  else if c = '\r' then ['\\', 'r']
  else if c = '\t' then ['\\', 't']
  else if c = '\x08' then ['\\', 'b']
  else if c = '\x0c' then ['\\', 'f']
  else if ' ' ≤ c ∧ c ≤ '~' then [c]
  else if c.toNat ≤ 0xFFFF then unit c.toNat
  else
    let n := c.toNat - 0x10000
    unit (0xD800 + n / 0x400) ++ unit (0xDC00 + n % 0x400)

/-- One part of a JSON string. -/
def escapePart : Text.Part → List Char
  | .char c => escape c
  | p => unit p.number

/-- A JSON string of characters and surrogates. -/
def stringOfParts (ps : List Text.Part) : String :=
  String.ofList ('"' :: (ps.flatMap escapePart ++ ['"']))

/-- A JSON string. -/
def string (s : String) : String := stringOfParts (Text.Part.ofText s)

/-- A JSON number. -/
def number : Number → String
  | .double (.infinite negative) => if negative then "-Infinity" else "Infinity"
  | n => n.text

/-- How items are set: on one line, or on lines indented by `step` more than what holds them. -/
inductive Layout
  | line
  | block (step : Nat)

/-- A new line at a depth of nesting. -/
def newline (step depth : Nat) : String :=
  "\n" ++ String.ofList (List.replicate (step * depth) ' ')

/-- Items between brackets, at a depth of nesting. -/
def enclose (layout : Layout) (depth : Nat) (left right : String) (items : List String) : String :=
  match items, layout with
  | [], _ => left ++ right
  | items, .line => left ++ String.intercalate ", " items ++ right
  | items, .block step =>
    left ++ newline step (depth + 1) ++
      String.intercalate ("," ++ newline step (depth + 1)) items ++ newline step depth ++ right

mutual

/-- The text of `p` at a depth of nesting. -/
def write (layout : Layout) (depth : Nat) : Plain → String
  | .null => "null"
  | .bool true => "true"
  | .bool false => "false"
  | .number n => number n
  | .text s => string s
  | .list items => enclose layout depth "[" "]" (writeItems layout (depth + 1) items)
  | .object entries => enclose layout depth "\x7b" "\x7d" (writeEntries layout (depth + 1) entries)

def writeItems (layout : Layout) (depth : Nat) : List Plain → List String
  | [] => []
  | p :: ps => write layout depth p :: writeItems layout depth ps

def writeEntries (layout : Layout) (depth : Nat) : List (String × Plain) → List String
  | [] => []
  | (key, p) :: es => (string key ++ ": " ++ write layout depth p) :: writeEntries layout depth es

end

end Json

/-- The JSON text of plain data on one line. -/
def toJson (p : Plain) : String := Json.write .line 0 p

/-- The JSON text of plain data on several lines, indented by two spaces. -/
def toJsonBlock (p : Plain) : String := Json.write (.block 2) 0 p

end Scaffold.Plain
