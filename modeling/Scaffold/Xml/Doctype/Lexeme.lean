import Scaffold.Xml.Lexeme

/-!
# Lexemes outside the root element

The prolog of a document, what follows its root element and the declarations of a document type are
made of these. Most of them end where a glyph stands that may follow them, or with the document.
-/

namespace Scaffold.Xml.Doctype

inductive Lexeme
  | space
  | comment
  | instruction
  /-- The XML declaration, with what stands between `<?xml` and `?>`. -/
  | declaration (body : List Glyph)
  /-- `<!` and a keyword. -/
  | opening (keyword : String)
  /-- `>` -/
  | closing
  /-- `<` and the beginning of a name: the root element starts here. -/
  | root
  | literal (body : List Glyph)
  | name (s : String)
  /-- A name token that is no name. -/
  | token (s : String)
  /-- A name and `?`, `*` or `+`. -/
  | counted (s : String)
  /-- `#` and a name. -/
  | hash (s : String)
  | percent
  /-- A reference to a parameter entity. -/
  | parameter (s : String)
  | comma
  | bar
  | openBracket
  | closeBracket
  | openParen
  | closeParen
  /-- `)*` -/
  | closeParenStar
  /-- `)?` or `)+` -/
  | closeParenCounted
  /-- `<![` -/
  | openSection
  /-- `]]>` -/
  | closeSection
deriving DecidableEq, Repr

namespace Lexeme

/-- May this glyph follow a name? -/
def endsName : Glyph → Bool
  | .char c _ => isSpace c || ['>', ')', ',', '|', '[', '%'].contains c
  | _ => false

/-- May this glyph follow `#` and a name? -/
def endsHash : Glyph → Bool
  | .char c _ => isSpace c || [')', '>', '%', '|'].contains c
  | _ => false

/-- May this glyph follow a literal? -/
def endsLiteral : Glyph → Bool
  | .char c _ => isSpace c || ['>', '%', '['].contains c
  | _ => false

/-- May this glyph follow a closing parenthesis? -/
def endsGroup : Glyph → Bool
  | .char c _ => isSpace c || ['>', ',', '|', ')'].contains c
  | _ => false

/-- The lexeme `l` before `gs`, if it may end here. At the end of the document it takes half a unit
with it. -/
def ending (l : Lexeme) (mayFollow : Glyph → Bool) (gs : List Glyph) :
    Except Halt (Lexeme × List Glyph) :=
  match gs with
  | [] => .ok (l, [])
  | [.half] => .ok (l, [])
  | g :: _ => if mayFollow g then .ok (l, gs) else reject gs

/-- The rest of a literal whose opening quote is read. -/
def literalEnd (quote : Char) : List Glyph → Except Halt (List Glyph)
  | .char c form :: gs => if c = quote then .ok (.char c form :: gs) else literalEnd quote gs
  | gs => do
    let _ ← next gs
    reject gs

def scanLiteral (quote : Char) (gs : List Glyph) : Except Halt (Lexeme × List Glyph) := do
  let final ← literalEnd quote gs
  ending (.literal (gs.takeWhile (Glyph.differs quote))) endsLiteral (final.drop 1)

/-- A name, or a name token that is none, from its first character; `isName` tells which. -/
def scanName (isName : Bool) (first : Char) (gs : List Glyph) :
    Except Halt (Lexeme × List Glyph) := do
  let (cs, rest) ← nameRest gs
  let s := String.ofList (first :: cs)
  if isName then
    match rest with
    | .char '?' _ :: after => return (.counted s, after)
    | .char '*' _ :: after => return (.counted s, after)
    | .char '+' _ :: after => return (.counted s, after)
    | _ => ending (.name s) endsName rest
  else ending (.token s) endsName rest

/-- `#` and a name; the `#` is read. -/
def scanHash (gs : List Glyph) : Except Halt (Lexeme × List Glyph) := do
  let (s, rest) ← Xml.name gs
  ending (.hash s) endsHash rest

/-- What starts with a percent sign, which is read. -/
def scanPercent (gs : List Glyph) : Except Halt (Lexeme × List Glyph) := do
  let (c, _) ← next gs
  if isSpace c ∨ c = '%' then return (.percent, gs)
  else
    let (s, rest) ← Xml.name gs
    let (_, rest) ← exactly ';' rest
    return (.parameter s, rest)

/-- Can this glyph stand in a keyword? -/
def isKeywordGlyph (g : Glyph) : Bool := g.isNarrow && g.isNameStart

/-- Does a percent sign before `gs` stand for itself? -/
def isLonePercent (gs : List Glyph) : Bool :=
  match gs with
  | .char c _ :: _ => isSpace c || c == '%'
  | _ => false

/-- What starts with `<!`, which is read. -/
def scanDeclaration (gs : List Glyph) : Except Halt (Lexeme × List Glyph) := do
  let (c, rest) ← sign gs
  if c = '-' then
    let (_, rest) ← Xml.comment rest
    return (.comment, rest)
  else if c = '[' then return (.openSection, rest)
  else if gs.head?.any isKeywordGlyph then
    let final := gs.dropWhile isKeywordGlyph
    let (d, after) ← sign final
    let keyword := Lexeme.opening (String.ofList (characters (gs.takeWhile isKeywordGlyph)))
    if isSpace d then return (keyword, final)
    else if d = '%' then
      if isOver after then throw .incomplete
      else if isLonePercent after then reject final
      else return (keyword, final)
    else reject final
  else reject gs

/-- What starts with `<`, which is read and stands before `gs`. -/
def scanTag (whole gs : List Glyph) : Except Halt (Lexeme × List Glyph) := do
  if gs.head?.any Glyph.isBroad then return (.root, whole)
  else
    let (c, rest) ← next gs
    if c = '!' then scanDeclaration rest
    else if c = '?' then
      match ← Xml.instruction rest with
      | (.processing, rest) => return (.instruction, rest)
      | (.declaration body, rest) => return (.declaration body, rest)
    else if gs.head?.any Glyph.isNameStart then return (.root, whole)
    else reject gs

/-- What starts with `]`, which is read. -/
def scanBracket (gs : List Glyph) : Except Halt (Lexeme × List Glyph) :=
  match gs with
  | .char ']' _ :: .char '>' _ :: rest => .ok (.closeSection, rest)
  | .char ']' _ :: rest => if isOver rest then .error .incomplete else .ok (.closeBracket, gs)
  | _ => .ok (.closeBracket, if isOver gs then [] else gs)

/-- What starts with `)`, which is read. -/
def scanParen (gs : List Glyph) : Except Halt (Lexeme × List Glyph) :=
  match gs with
  | .char '*' _ :: rest => .ok (.closeParenStar, rest)
  | .char '?' _ :: rest => .ok (.closeParenCounted, rest)
  | .char '+' _ :: rest => .ok (.closeParenCounted, rest)
  | _ => ending .closeParen endsGroup gs

/-- The lexeme at the start of `gs`, and the glyphs after it. -/
def scan (gs : List Glyph) : Except Halt (Lexeme × List Glyph) := do
  let (c, rest) ← next gs
  if isSpace c then return (.space, skipSpaces rest)
  else match c with
    | '"' => scanLiteral c rest
    | '\'' => scanLiteral c rest
    | '<' => scanTag gs rest
    | '%' => scanPercent rest
    | '#' => scanHash rest
    | ')' => scanParen rest
    | ']' => scanBracket rest
    | ',' => return (.comma, rest)
    | '[' => return (.openBracket, rest)
    | '(' => return (.openParen, rest)
    | '|' => return (.bar, rest)
    | '>' => return (.closing, rest)
    | _ =>
      if gs.head?.any Glyph.isNameChar then scanName (gs.head?.any Glyph.isNameStart) c rest
      else reject gs

end Lexeme

end Scaffold.Xml.Doctype
