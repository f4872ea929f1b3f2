import Scaffold.Text.Hex
import Scaffold.Text.Printable
import Scaffold.Text.Surrogate

/-!
# Quoted texts

How a text is shown inside a message: in single quotes, or in double quotes when it holds a single
quote and no double quote. Backslashes, the quote in use and the characters that are not printable
are escaped.
-/

namespace Scaffold.Text

namespace Quoted

/-- The quote that encloses `cs`. -/
def mark (cs : List Char) : Char :=
  if cs.contains '\'' && !cs.contains '"' then '"' else '\''

/-- The escape that gives a number. -/
def byNumber (n : Nat) : List Char :=
  if n ≤ 0xFF then '\\' :: 'x' :: hexDigits .lower 2 n
  else if n ≤ 0xFFFF then '\\' :: 'u' :: hexDigits .lower 4 n
  else '\\' :: 'U' :: hexDigits .lower 8 n

/-- One character between quotes `q`. -/
def escape (q c : Char) : List Char :=
  if c = q ∨ c = '\\' then ['\\', c]
  else if c = '\n' then ['\\', 'n']
  else if c = '\r' then ['\\', 'r']
  else if c = '\t' then ['\\', 't']
  else if isPrintable c then [c]
  else byNumber c.toNat

/-- One part of a text between quotes `q`. -/
def escapePart (q : Char) : Part → List Char
  | .char c => escape q c
  | p => byNumber p.number

end Quoted

/-- Characters and surrogates as a message shows them. -/
def quotedParts (ps : List Part) : String :=
  let q := Quoted.mark (ps.filterMap Part.char?)
  String.ofList (q :: (ps.flatMap (Quoted.escapePart q) ++ [q]))

/-- The text `s` as a message shows it. -/
def quoted (s : String) : String := quotedParts (Part.ofText s)

def Stored.quoted (s : Stored) : String := quotedParts s.parts

/-- A text in which escapes stand for the surrogates. -/
def escapedParts (ps : List Part) : String :=
  String.ofList (ps.flatMap fun
    | .char c => [c]
    | p => Quoted.byNumber p.number)

end Scaffold.Text
