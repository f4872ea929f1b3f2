import Scaffold.Text.Hex
import Scaffold.Xml.Malformed
import Scaffold.Xml.NameChar

/-!
# Lexical structure of XML

Scanners for names, references, comments, instructions and tags. A scanner takes the glyphs from
where it starts and gives what it has read with the glyphs after it, or says why it stops: at a
glyph that cannot stand there, or because the document ends too early.
-/

namespace Scaffold.Xml

/-- Why a scanner stops. -/
inductive Halt
  /-- At a glyph that cannot stand there, with so many glyphs left. -/
  | invalid (left : Nat)
  /-- The document ends inside a token. -/
  | incomplete
  /-- The document ends inside a character. -/
  | cut
deriving DecidableEq, Repr

/-- A stop of a token that starts with `left` glyphs left, as a fault. -/
def Halt.fault (left : Nat) : Halt → Fault
  | invalid here => ⟨.invalidToken, here⟩
  | incomplete => ⟨.unclosedToken, left⟩
  | cut => ⟨.partialCharacter, left⟩

/-- A stop at the first of `gs`. -/
def reject {α : Type} (gs : List Glyph) : Except Halt α := .error (.invalid gs.length)

/-- The next character, where text or a name may stand. -/
def next : List Glyph → Except Halt (Char × List Glyph)
  | .char c _ :: gs => .ok (c, gs)
  | .bad n :: gs => reject (.bad n :: gs)
  | .cut _ :: _ => .error .cut
  | .half :: _ => .error .incomplete
  | [] => .error .incomplete

/-- The next character, where only signs of ASCII may stand: the beginning of a character is none,
whatever its end. -/
def sign : List Glyph → Except Halt (Char × List Glyph)
  | .cut n :: gs => reject (.cut n :: gs)
  | gs => next gs

/-- Is there no whole unit left? -/
def isOver : List Glyph → Bool
  | [] => true
  | [.half] => true
  | _ => false

def isSpace (c : Char) : Bool := c == ' ' || c == '\t' || c == '\n' || c == '\r'

/-- Is this glyph a space? -/
def Glyph.isSpace : Glyph → Bool
  | .char c _ => Xml.isSpace c
  | _ => false

/-- The characters among glyphs. -/
def characters (gs : List Glyph) : List Char :=
  gs.filterMap fun
    | .char c _ => some c
    | _ => none

def skipSpaces (gs : List Glyph) : List Glyph := gs.dropWhile Glyph.isSpace

/-- The part of `gs` before its tail `rest`. -/
def before (gs rest : List Glyph) : List Glyph := gs.take (gs.length - rest.length)

/-- Is this glyph another character than `c`? -/
def Glyph.differs (c : Char) : Glyph → Bool
  | .char d _ => c != d
  | _ => true

/-- The rest of a name or a name token, which may go on with any character until it has ended. -/
def nameRest (gs : List Glyph) : Except Halt (List Char × List Glyph) :=
  match gs.dropWhile Glyph.isNameChar with
  | .cut _ :: _ => .error .cut
  | rest => .ok (characters (gs.takeWhile Glyph.isNameChar), rest)

/-- A name. -/
def name (gs : List Glyph) : Except Halt (String × List Glyph) := do
  let (c, more) ← next gs
  if gs.head?.any Glyph.isNameStart then
    let (cs, rest) ← nameRest more
    return (String.ofList (c :: cs), rest)
  else reject gs

/-- The character `c`, which is a sign. -/
def exactly (c : Char) (gs : List Glyph) : Except Halt (Unit × List Glyph) := do
  let (d, rest) ← sign gs
  if c = d then return ((), rest) else reject gs

/-- A reference. The number of a character may be that of no character. -/
inductive Reference
  | entity (name : String)
  | character (code : Option Char)
deriving DecidableEq, Repr

/-- Digits of a character number up to its semicolon. -/
def numberDigits (digit? : Char → Option Nat) (base : Nat) (value : Nat) :
    List Glyph → Except Halt (Nat × List Glyph)
  | .char c form :: gs =>
    match digit? c with
    | some d => numberDigits digit? base (value * base + d) gs
    | none => if c = ';' then .ok (value, gs) else reject (.char c form :: gs)
  | gs => do
    let _ ← sign gs
    reject gs

/-- A character number with at least one digit. -/
def number (digit? : Char → Option Nat) (base : Nat) (gs : List Glyph) :
    Except Halt (Reference × List Glyph) := do
  let (c, _) ← sign gs
  if (digit? c).isNone then reject gs
  else
    let (n, rest) ← numberDigits digit? base 0 gs
    return (.character (if isXmlChar n then some (Char.ofNat n) else none), rest)

/-- The value of a decimal digit. -/
def decimal? (c : Char) : Option Nat := if c.isDigit then some (c.toNat - '0'.toNat) else none

/-- A reference whose `&` is read. -/
def reference (gs : List Glyph) : Except Halt (Reference × List Glyph) := do
  let (c, rest) ← next gs
  if c = '#' then
    let (d, digits) ← sign rest
    if d = 'x' then number Text.hexValue? 16 digits else number decimal? 10 rest
  else
    let (n, rest) ← name gs
    let (_, rest) ← exactly ';' rest
    return (.entity n, rest)

/-- The rest of a comment after `<!--`. -/
def commentBody : List Glyph → Except Halt (Unit × List Glyph)
  | .char '-' _ :: .char '-' _ :: gs => exactly '>' gs
  | .char _ _ :: gs => commentBody gs
  | gs => do
    let _ ← next gs
    reject gs

/-- A comment after `<!-`. -/
def comment (gs : List Glyph) : Except Halt (Unit × List Glyph) := do
  let (_, rest) ← exactly '-' gs
  commentBody rest

/-- The glyphs after an instruction whose target and a space are read. -/
def instructionEnd : List Glyph → Except Halt (List Glyph)
  | .char '?' _ :: .char '>' _ :: gs => .ok gs
  | .char _ _ :: gs => instructionEnd gs
  | gs => do
    let _ ← next gs
    reject gs

/-- An instruction for a program, or the XML declaration with what follows its target. -/
inductive Instruction
  | processing
  | declaration (body : List Glyph)
deriving DecidableEq, Repr

/-- An instruction after `<?`. The target `xml` is for the XML declaration, and its other spellings
are for nothing. -/
def instruction (gs : List Glyph) : Except Halt (Instruction × List Glyph) := do
  let (target, rest) ← name gs
  let (c, more) ← next rest
  if target ≠ "xml" ∧ target.map Char.toLower = "xml" ∧ (isSpace c ∨ c = '?') then reject rest
  else
    let after ←
      if isSpace c then instructionEnd more
      else if c = '?' then do
        let (_, after) ← exactly '>' more
        pure after
      else reject rest
    if target = "xml" then
      return (.declaration (before rest after).dropLast.dropLast, after)
    else return (.processing, after)

/-- An attribute as it is written: its name, the glyphs from the name on, what stands between the
quotes, and the glyphs from the closing quote on. -/
structure RawAttribute where
  name : String
  start : List Glyph
  value : List Glyph
  final : List Glyph
deriving DecidableEq, Repr

/-- A tag as it is written. -/
structure RawTag where
  name : String
  attributes : List RawAttribute
  isEmpty : Bool
deriving DecidableEq, Repr

/-- The glyphs from the closing quote of an attribute value on, whose opening quote is read. -/
def valueEnd (quote : Char) : (fuel : Nat) → List Glyph → Except Halt (List Glyph)
  | 0, _ => .error .incomplete
  | fuel + 1, gs => do
    let (c, rest) ← next gs
    if c = quote then return gs
    else if c = '&' then
      let (_, rest) ← reference rest
      valueEnd quote fuel rest
    else if c = '<' then reject gs
    else valueEnd quote fuel rest

/-- An attribute, and the glyphs after its closing quote. -/
def rawAttribute (fuel : Nat) (gs : List Glyph) : Except Halt (RawAttribute × List Glyph) := do
  let (n, rest) ← name gs
  let (_, rest) ← exactly '=' (skipSpaces rest)
  let quoted := skipSpaces rest
  let (quote, rest) ← sign quoted
  if quote ≠ '"' ∧ quote ≠ '\'' then reject quoted
  else
    let final ← valueEnd quote fuel rest
    return (⟨n, gs, rest.takeWhile (Glyph.differs quote), final⟩, final.drop 1)

/-- The attributes of a tag and its end: `>`, or `/>` for an empty element. After an attribute
there has to be a space before the next one. -/
def rawAttributes : (fuel : Nat) → List Glyph → Except Halt ((List RawAttribute × Bool) × List Glyph)
  | 0, _ => .error .incomplete
  | fuel + 1, gs => do
    let (c, _) ← sign gs
    if c = '>' then return (([], false), gs.drop 1)
    else if c = '/' then
      let (_, rest) ← exactly '>' (gs.drop 1)
      return (([], true), rest)
    else if isSpace c then
      let inner := skipSpaces gs
      let (d, _) ← next inner
      if d = '>' ∨ d = '/' then rawAttributes fuel inner
      else
        let (a, rest) ← rawAttribute fuel inner
        let ((more, isEmpty), rest) ← rawAttributes fuel rest
        return ((a :: more, isEmpty), rest)
    else reject gs

/-- A start tag or the tag of an empty element, after `<`. The fuel has to be no less than the number
of glyphs. -/
def startTag (fuel : Nat) (gs : List Glyph) : Except Halt (RawTag × List Glyph) := do
  let (n, rest) ← name gs
  let ((as, isEmpty), rest) ← rawAttributes fuel rest
  return (⟨n, as, isEmpty⟩, rest)

/-- An end tag, after `</`. -/
def endTag (gs : List Glyph) : Except Halt (String × List Glyph) := do
  let (n, rest) ← name gs
  let (_, rest) ← exactly '>' (skipSpaces rest)
  return (n, rest)

end Scaffold.Xml
