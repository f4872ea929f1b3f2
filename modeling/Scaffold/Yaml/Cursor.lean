/-!
# Positions in YAML text

A cursor is a place in a text with what follows it. Past the end there are only NUL characters.
-/

namespace Scaffold.Yaml

/-- A place in a text: characters before it, lines before it, characters before it on its line. -/
structure Mark where
  index : Nat := 0
  line : Nat := 0
  column : Nat := 0
deriving DecidableEq, Repr

/-- The place one character further on a line. -/
def Mark.next (m : Mark) : Mark := ⟨m.index + 1, m.line, m.column + 1⟩

/-- What ends a text for those who look ahead. -/
def nul : Char := '\x00'

/-- Does `c` break a line? -/
def isBreak (c : Char) : Bool :=
  c == '\n' || c == '\r' || c == '\x85' || c == '\u2028' || c == '\u2029'

/-- Does `c` break a line or end the text? -/
def isLineEnd (c : Char) : Bool := c == nul || isBreak c

/-- Does `c` end a word: a space, or the end of its line? -/
def isWordEnd (c : Char) : Bool := c == ' ' || isLineEnd c

/-- Does `c` separate tokens: a space, a tab, or the end of its line? -/
def isSeparator (c : Char) : Bool := c == '\t' || isWordEnd c

/-- May `c` stand in a name: an ASCII letter or digit, a hyphen or an underscore? -/
def isWordChar (c : Char) : Bool := c.isAlphanum || c == '-' || c == '_'

structure Cursor where
  rest : List Char
  mark : Mark := {}
deriving DecidableEq, Repr

namespace Cursor

/-- The character `k` places ahead. -/
def peek (c : Cursor) (k : Nat) : Char := c.rest.getD k nul

/-- The next character. -/
def head (c : Cursor) : Char := c.peek 0

def column (c : Cursor) : Nat := c.mark.column

/-- The place after one character. A byte order mark takes no column, and a carriage return breaks
the line unless a line feed does so right after it. -/
def step (c : Cursor) : Cursor :=
  match c.rest with
  | [] => c
  | ch :: rest =>
    let m := c.mark
    if (isBreak ch && ch != '\r') || (ch == '\r' && rest.head? != some '\n') then
      ⟨rest, m.index + 1, m.line + 1, 0⟩
    else ⟨rest, m.index + 1, m.line, if ch = '\uFEFF' then m.column else m.column + 1⟩

/-- The place after `n` characters. -/
def advance (c : Cursor) : Nat → Cursor
  | 0 => c
  | n + 1 => c.step.advance n

/-- The place after the characters of a class. -/
def skipWhile (c : Cursor) (p : Char → Bool) : Cursor := c.advance (c.rest.takeWhile p).length

/-- The characters of a class, and the place after them. -/
def takeWhile (c : Cursor) (p : Char → Bool) : List Char × Cursor :=
  (c.rest.takeWhile p, c.skipWhile p)

/-- The place after spaces. -/
def skipSpaces (c : Cursor) : Cursor := c.skipWhile (· == ' ')

/-- The place after a comment, if there is one here. -/
def skipComment (c : Cursor) : Cursor :=
  if c.head = '#' then c.skipWhile (!isLineEnd ·) else c

/-- A line break, if there is one here: as it counts in a text, and the place after it. -/
def lineBreak? (c : Cursor) : Option (Char × Cursor) :=
  if !isBreak c.head then none
  else if c.head = '\u2028' ∨ c.head = '\u2029' then some (c.head, c.step)
  else if c.head = '\r' ∧ c.peek 1 = '\n' then some ('\n', c.advance 2)
  else some ('\n', c.step)

/-- Do the next characters spell `---` or `...` as a word? -/
def isDocumentMark (c : Cursor) : Bool :=
  (['-', '-', '-'].isPrefixOf c.rest || ['.', '.', '.'].isPrefixOf c.rest) && isSeparator (c.peek 3)

end Cursor

/-- Where a text comes from: its name, and the text itself if messages are to quote it. -/
structure Source where
  name : String
  text : Option String := none
deriving DecidableEq, Repr

namespace Mark

/-- How far a quotation goes before and after the place that it shows. -/
def reach : Nat := 36

/-- The part of the line before a place, in reverse as `cs` is, with dots for what is left out. -/
def headOf (cs : List Char) : List Char :=
  let line := cs.takeWhile (!isLineEnd ·)
  if line.length ≤ reach then line.reverse
  else " ... ".toList ++ (line.take (reach + 1 - 5)).reverse

/-- The part of the line from a place on, with dots for what is left out. -/
def tailOf (cs : List Char) : List Char :=
  let line := cs.takeWhile (!isLineEnd ·)
  if line.length ≤ reach then line else line.take (reach + 1 - 5) ++ " ... ".toList

/-- The line of a text around a place, and below it a caret at the place. -/
def snippet (m : Mark) (text : String) : String :=
  let before := headOf (text.toList.take m.index).reverse
  let after := tailOf (text.toList.drop m.index)
  let indent := List.replicate 4 ' '
  String.ofList (indent ++ before ++ after ++ '\n' :: indent ++
    List.replicate before.length ' ' ++ ['^'])

/-- A place as messages show it. -/
def shown (m : Mark) (source : Source) : String :=
  let place := s!"  in \"{source.name}\", line {m.line + 1}, column {m.column + 1}"
  match source.text with
  | none => place
  | some text => place ++ ":\n" ++ m.snippet text

end Mark

end Scaffold.Yaml
