import Scaffold.Xml.Lexeme

/-!
# The XML declaration

What stands between `<?xml` and `?>`: a version, then an encoding and a word on whether the document
stands alone, both of which may be missing. A scan that fails gives the glyphs from where it fails.
-/

namespace Scaffold.Xml

/-- A name and a value, with the glyphs from where each starts. -/
structure Setting where
  name : String
  nameAt : List Glyph
  value : String
  valueAt : List Glyph

namespace Setting

/-- Can this glyph stand in the name of a setting? -/
def isNameGlyph : Glyph → Bool
  | .char c _ => c.toNat < 0x80 && !isSpace c && c != '='
  | _ => false

/-- Can this glyph stand in the value of a setting? -/
def isValueGlyph : Glyph → Bool
  | .char c _ => c.isAlphanum || c == '.' || c == '-' || c == '_'
  | _ => false

/-- The value in quotes at the start of `gs`. -/
def scanValue (gs : List Glyph) : Except (List Glyph) (String × List Glyph) :=
  match gs with
  | .char quote _ :: rest =>
    if quote = '"' ∨ quote = '\'' then
      let final := rest.dropWhile isValueGlyph
      match final with
      | .char c _ :: after =>
        if c = quote then .ok (String.ofList (characters (rest.takeWhile isValueGlyph)), after)
        else .error final
      | _ => .error final
    else .error gs
  | _ => .error gs

/-- The next setting with the glyphs after it, or none at the end. There is a space before each. -/
def scan (gs : List Glyph) : Except (List Glyph) (Option Setting × List Glyph) :=
  match gs with
  | [] => .ok (none, gs)
  | g :: rest =>
    if !g.isSpace then .error gs
    else
      let start := skipSpaces rest
      if start.isEmpty then .ok (none, gs)
      else
        let letters := start.takeWhile isNameGlyph
        match skipSpaces (start.dropWhile isNameGlyph) with
        | .char '=' _ :: rest =>
          if letters.isEmpty then .error start
          else do
            let quoted := skipSpaces rest
            let (value, after) ← scanValue quoted
            return (some ⟨String.ofList (characters letters), start, value, quoted.drop 1⟩, after)
        | other => .error other

end Setting

/-- The settings of an XML declaration: the encoding with the glyphs from where it is named, and
whether the document stands alone. -/
structure Declaration where
  encoding : Option (String × List Glyph) := none
  standalone : Bool := false

namespace Declaration

/-- The last setting of a declaration, and nothing but spaces after it. -/
def scanStandalone (d : Declaration) (s : Setting) (gs : List Glyph) :
    Except (List Glyph) Declaration :=
  if s.name ≠ "standalone" then .error s.nameAt
  else if s.value ≠ "yes" ∧ s.value ≠ "no" then .error s.valueAt
  else
    let final := skipSpaces gs
    if final.isEmpty then .ok { d with standalone := s.value = "yes" } else .error final

/-- The settings after the version. -/
def scanSettings (gs : List Glyph) : Except (List Glyph) Declaration := do
  match ← Setting.scan gs with
  | (none, _) => return {}
  | (some s, rest) =>
    if s.name = "encoding" then
      if !(s.value.toList.head?.any Char.isAlpha) then throw s.valueAt
      let d : Declaration := { encoding := some (s.value, s.valueAt) }
      match ← Setting.scan rest with
      | (none, _) => return d
      | (some s, rest) => d.scanStandalone s rest
    else scanStandalone {} s rest

/-- The settings of a declaration. -/
def scan (gs : List Glyph) : Except (List Glyph) Declaration := do
  match ← Setting.scan gs with
  | (none, rest) => throw rest
  | (some s, rest) => if s.name = "version" then scanSettings rest else throw s.nameAt

end Declaration

end Scaffold.Xml
