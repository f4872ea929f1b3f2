import Scaffold.Text.Hex
import Scaffold.Yaml.Fault
import Scaffold.Yaml.Token

/-!
# Anchors, tags and directives

The tokens that start with `&`, `*`, `!` and `%`. A scanner gives what it has read with the place
after it.
-/

namespace Scaffold.Yaml

/-- The fault that another character stands at `c` than it should. -/
def unexpected (activity : Activity) (start : Mark) (what : Expected) (c : Cursor) : Error :=
  .fault ⟨some activity, some start, .expected what c.head, c.mark⟩

/-- A word that has to be followed by one of the characters of a class. -/
def scanWord (activity : Activity) (start : Mark) (mayFollow : Char → Bool) (c : Cursor) :
    Except Error (String × Cursor) :=
  let (word, after) := c.takeWhile isWordChar
  if word.isEmpty then .error (unexpected activity start .word c)
  else if !mayFollow after.head then .error (unexpected activity start .word after)
  else .ok (String.ofList word, after)

/-- An anchor or an alias, from its indicator on. -/
def scanAnchor (c : Cursor) : Except Error (Lexeme × Cursor) :=
  let mayFollow (ch : Char) : Bool :=
    isSeparator ch || ['?', ':', ',', ']', '\x7d', '%', '@', '`'].contains ch
  if c.head = '*' then
    (scanWord .aliasName c.mark mayFollow c.step).map fun (name, c) => (.aliasOf name, c)
  else (scanWord .anchor c.mark mayFollow c.step).map fun (name, c) => (.anchor name, c)

/-- A handle: `!`, or a word between two of them. -/
def scanHandle (activity : Activity) (start : Mark) (c : Cursor) : Except Error (String × Cursor) :=
  if c.head ≠ '!' then .error (unexpected activity start .bang c)
  else if c.peek 1 = ' ' then .ok ("!", c.step)
  else
    let (word, after) := c.step.takeWhile isWordChar
    if after.head ≠ '!' then .error (unexpected activity start .bang after)
    else .ok (String.ofList ('!' :: (word ++ ['!'])), after.step)

/-- The characters that stand for themselves in a URI. -/
def isUriChar (c : Char) : Bool :=
  c.isAlphanum || ['-', ';', '/', '?', ':', '@', '&', '=', '+', '$', ',', '_', '.', '!', '~', '*',
    '\'', '(', ')', '[', ']'].contains c

/-- The bytes of consecutive URI escapes. -/
def uriBytes (activity : Activity) (start : Mark) :
    (fuel : Nat) → Cursor → Except Error (List UInt8 × Cursor)
  | 0, c => .ok ([], c)
  | fuel + 1, c => do
    if c.head ≠ '%' then return ([], c)
    let digits := c.step
    match (Text.hexValue? digits.head), (Text.hexValue? (digits.peek 1)) with
    | some a, some b =>
      let (bytes, c) ← uriBytes activity start fuel (digits.advance 2)
      return ((a * 16 + b).toUInt8 :: bytes, c)
    | none, _ => throw (unexpected activity start .uriEscape digits)
    | _, none =>
      throw (.fault ⟨some activity, some start, .expected .uriEscape (digits.peek 1), digits.mark⟩)

/-- The parts of a URI. -/
def uriParts (activity : Activity) (start : Mark) :
    (fuel : Nat) → Cursor → Except Error (List Char × Cursor)
  | 0, c => .ok ([], c)
  | fuel + 1, c => do
    let (run, c) := c.takeWhile isUriChar
    if c.head ≠ '%' then return (run, c)
    let (bytes, after) ← uriBytes activity start (c.rest.length + 1) c
    if let some f := Text.Utf8.fault? bytes then
      throw (.fault ⟨some activity, some start, .undecodable f, c.mark⟩)
    let part := (String.fromUTF8? (ByteArray.mk bytes.toArray)).getD ""
    let (more, c) ← uriParts activity start fuel after
    return (run ++ part.toList ++ more, c)

/-- A URI, of which at least one character has to be there. -/
def scanUri (activity whole : Activity) (start : Mark) (c : Cursor) :
    Except Error (String × Cursor) := do
  if !isUriChar c.head ∧ c.head ≠ '%' then throw (unexpected whole start .uri c)
  let (uri, c) ← uriParts activity start (c.rest.length + 1) c
  return (String.ofList uri, c)

/-- Does the tag at `c` name a handle: is there another `!` in it? -/
def hasHandle (c : Cursor) : Bool := (c.step.rest.takeWhile (!isWordEnd ·)).contains '!'

/-- A tag in full, whose `!<` is read. -/
def scanVerbatimTag (start : Mark) (c : Cursor) : Except Error (Lexeme × Cursor) := do
  let (uri, c) ← scanUri .tag .tagUri start c
  if c.head ≠ '>' then throw (unexpected .tagUri start .closingAngle c)
  return (.tag none uri, c.step)

/-- A tag that starts with a handle. -/
def scanShortTag (start : Mark) (c : Cursor) : Except Error (Lexeme × Cursor) := do
  let (handle, c) ← if hasHandle c then scanHandle .tag start c else .ok ("!", c.step)
  let (suffix, c) ← scanUri .tag .tagUri start c
  return (.tag (some handle) suffix, c)

/-- A tag, from its `!` on. -/
def scanTag (c : Cursor) : Except Error (Lexeme × Cursor) := do
  let (tag, after) ←
    if c.peek 1 = '<' then scanVerbatimTag c.mark (c.advance 2)
    else if isSeparator (c.peek 1) then .ok (.tag none "!", c.step)
    else scanShortTag c.mark c
  if !isWordEnd after.head then throw (unexpected .tag c.mark .space after)
  return (tag, after)

/-- A number in a directive. -/
def scanNumber (start : Mark) (c : Cursor) : Except Error (Nat × Cursor) :=
  if !c.head.isDigit then .error (unexpected .directive start .digit c)
  else
    let (digits, c) := c.takeWhile Char.isDigit
    .ok (digits.foldl (fun n d => n * 10 + (d.toNat - '0'.toNat)) 0, c)

/-- The version that a directive names. -/
def scanVersion (start : Mark) (c : Cursor) : Except Error (Directive × Cursor) := do
  let (major, c) ← scanNumber start c.skipSpaces
  if c.head ≠ '.' then throw (unexpected .directive start .digitOrPoint c)
  let (_, c) ← scanNumber start c.step
  if !isWordEnd c.head then throw (unexpected .directive start .digitOrSpace c)
  return (.version major, c)

/-- The handle that a directive declares, and what it stands for. -/
def scanHandleDirective (start : Mark) (c : Cursor) : Except Error (Directive × Cursor) := do
  let (handle, c) ← scanHandle .directive start c.skipSpaces
  if c.head ≠ ' ' then throw (unexpected .directive start .space c)
  let (uri, c) ← scanUri .directive .directiveUri start c.skipSpaces
  if !isWordEnd c.head then throw (unexpected .directive start .space c)
  return (.handle handle uri, c)

/-- A directive, from its `%` to the end of its line. -/
def scanDirective (c : Cursor) : Except Error (Lexeme × Cursor) := do
  let start := c.mark
  let (name, c) ← scanWord .directive start isWordEnd c.step
  let (d, c) ←
    if name = "YAML" then scanVersion start c
    else if name = "TAG" then scanHandleDirective start c
    else .ok (.other, c.skipWhile (!isLineEnd ·))
  let c := c.skipSpaces.skipComment
  if !isLineEnd c.head then throw (unexpected .directive start .commentOrBreak c)
  return (.directive d, (c.lineBreak?.map (·.2)).getD c)

end Scaffold.Yaml
