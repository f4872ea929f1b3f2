import Scaffold.Text.Hex
import Scaffold.Text.Surrogate
import Scaffold.Yaml.Fault

/-!
# Quoted scalars

Between single quotes only the quote itself is special, and is written twice. Between double quotes
a backslash starts an escape. Line breaks count as in plain scalars.
-/

namespace Scaffold.Yaml.Quoted

/-- The characters that a letter after a backslash stands for. -/
def named? : Char → Option Char
  | '0' => some nul
  | 'a' => some '\x07'
  | 'b' => some '\x08'
  | 't' => some '\t'
  | '\t' => some '\t'
  | 'n' => some '\n'
  | 'v' => some '\x0b'
  | 'f' => some '\x0c'
  | 'r' => some '\r'
  | 'e' => some '\x1b'
  | ' ' => some ' '
  | '"' => some '"'
  | '\\' => some '\\'
  | '/' => some '/'
  | 'N' => some '\x85'
  | '_' => some '\xa0'
  | 'L' => some '\u2028'
  | 'P' => some '\u2029'
  | _ => none

/-- The number of hexadecimal digits after a letter that announces them. -/
def digitCount? : Char → Option Nat
  | 'x' => some 2
  | 'u' => some 4
  | 'U' => some 8
  | _ => none

/-- The character or the surrogate with a number. -/
def character (n : Nat) : Except Error Text.Part :=
  if n < 0x110000 then .ok (.ofNumber n)
  else if n < 0x80000000 then .error .noCharacter
  else .error .hugeNumber

/-- What `count` hexadecimal digits stand for. -/
def hexCharacter (start : Mark) (count : Nat) (c : Cursor) : Except Error Text.Part :=
  let digits := (List.range count).map c.peek
  match digits.find? fun d => (Text.hexValue? d).isNone with
  | some d => .error (.fault ⟨some .doubleQuoted, some start, .expected (.escape count) d, c.mark⟩)
  | none => character (digits.foldl (fun n d => n * 16 + (Text.hexValue? d).getD 0) 0)

/-- Blank lines inside a quoted scalar, as the line breaks that they count as. -/
def breaks (start : Mark) : (fuel : Nat) → Cursor → Except Error (List Char × Cursor)
  | 0, c => .ok ([], c)
  | fuel + 1, c => do
    if c.isDocumentMark then
      throw (.fault ⟨some .quoted, some start, .documentSeparator, c.mark⟩)
    let c := c.skipWhile fun ch => ch == ' ' || ch == '\t'
    match c.lineBreak? with
    | none => return ([], c)
    | some (b, c) =>
      let (bs, c) ← breaks start fuel c
      return (b :: bs, c)

/-- Spaces and line breaks inside a quoted scalar, as they count. -/
def spaces (start : Mark) (c : Cursor) : Except Error (List Char × Cursor) := do
  let (blanks, c) := c.takeWhile fun ch => ch == ' ' || ch == '\t'
  if c.head = nul then throw (.fault ⟨some .quoted, some start, .endOfStream, c.mark⟩)
  match c.lineBreak? with
  | none => return (blanks, c)
  | some (b, c) =>
    let (bs, c) ← breaks start (c.rest.length + 1) c
    return (if b ≠ '\n' then b :: bs else if bs.isEmpty then [' '] else bs, c)

/-- An escape whose backslash is read: what it stands for, and the place after it. -/
def escape (start : Mark) (c : Cursor) : Except Error (List Text.Part × Cursor) := do
  match named? c.head, digitCount? c.head with
  | some ch, _ => return ([.char ch], c.step)
  | none, some count =>
    let part ← hexCharacter start count c.step
    return ([part], c.step.advance count)
  | none, none =>
    match c.lineBreak? with
    | some (_, c) =>
      let (bs, c) ← breaks start (c.rest.length + 1) c
      return (bs.map .char, c)
    | none => throw (.fault ⟨some .doubleQuoted, some start, .unknownEscape c.head, c.mark⟩)

/-- Does `c` need a closer look inside a quoted scalar? -/
def isStop (c : Char) : Bool := c == '\'' || c == '"' || c == '\\' || isSeparator c

/-- The rest of a quoted scalar whose opening quote is read. -/
def body (quote : Char) (start : Mark) : (fuel : Nat) → Cursor →
    Except Error (List Text.Part × Cursor)
  | 0, c => .error (.fault ⟨some .quoted, some start, .endOfStream, c.mark⟩)
  | fuel + 1, c => do
    let (run, c) := c.takeWhile (!isStop ·)
    let run := run.map Text.Part.char
    let ch := c.head
    if quote = '\'' ∧ ch = '\'' ∧ c.peek 1 = '\'' then
      let (more, c) ← body quote start fuel (c.advance 2)
      return (run ++ .char '\'' :: more, c)
    else if ch = quote then return (run, c.step)
    else if ch = '\'' ∨ (quote = '\'' ∧ (ch = '"' ∨ ch = '\\')) then
      let (more, c) ← body quote start fuel c.step
      return (run ++ .char ch :: more, c)
    else
      let (ps, c) ←
        if ch = '\\' then escape start c.step
        else (spaces start c).map fun (blanks, c) => (blanks.map .char, c)
      let (more, c) ← body quote start fuel c
      return (run ++ ps ++ more, c)

/-- The quoted scalar at a place: its parts, and the place after it. -/
def scan (c : Cursor) : Except Error (List Text.Part × Cursor) :=
  body c.head c.mark (c.rest.length + 1) c.step

end Scaffold.Yaml.Quoted
