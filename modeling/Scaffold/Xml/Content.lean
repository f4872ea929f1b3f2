import Scaffold.Markup.Event
import Scaffold.Xml.Entity

/-!
# Content of elements

Reads the root element of a document with all it contains, into markup events. The text of an entity
is read in place of its reference, and the elements that start there have to end there.
-/

namespace Scaffold.Xml

open Markup (Event Attributes)

/-- The open elements, innermost first, the events so far, the last one first, and what is left of the
allowance for entities. -/
structure Progress where
  elements : List String := []
  events : List Event := []
  allowance : Nat

namespace Progress

def text (p : Progress) (s : List Char) : Progress :=
  { p with events := .text (String.ofList s) :: p.events }

def start (p : Progress) (name : String) (attributes : Attributes) : Progress :=
  { p with elements := name :: p.elements, events := .start name attributes :: p.events }

def finish (p : Progress) (name : String) : Progress :=
  { p with elements := p.elements.drop 1, events := .finish name :: p.events }

end Progress

/-- The attributes of the tag at the start of `home`: those that are written, and defaults for
others. With them comes what is left of the allowance. -/
def tagAttributes (d : Definitions) (site : Site) (opened : List String) (home : List Glyph)
    (allowance : Nat) (tag : RawTag) : Except Fault (Attributes × Nat) := do
  let rules := d.rulesFor tag.name
  let (written, allowance) ← tag.attributes.foldlM (fun ((done, allowance) : Attributes × Nat) a => do
    if done.any (·.1 = a.name) then
      throw ⟨.duplicateAttribute, site.left a.start.length⟩
    let isText := ((rules.find? (·.name = a.name)).map (·.isText)).getD true
    let ctx : ValueContext := ⟨d, d.isStrict, isText, opened, site, home, a.final⟩
    let (value, allowance) ← ctx.normalize allowance a.value
    return (done ++ [(a.name, some value)], allowance)) ([], allowance)
  let attributes := rules.foldl (fun done rule =>
    if rule.value.isSome && !done.any (·.1 = rule.name) then done ++ [(rule.name, rule.value)]
    else done) written
  return (attributes, allowance)

/-- Can this glyph stand in a run of text as it is? A carriage return can if it comes from a reference
in the text of an entity. -/
def isPlainText : Glyph → Bool
  | .char '\r' .plain => false
  | .char c _ => !(c == '<' || c == '&' || c == ']')
  | _ => false

/-- Can this glyph stand in a section of raw text as it is? -/
def isSectionText : Glyph → Bool
  | .char '\r' .plain => false
  | .char c _ => c != ']'
  | _ => false

/-- The text of a section whose opening is read, and the glyphs after it. -/
def sectionText (site : Site) : (fuel : Nat) → List Glyph → Except Fault (List Char × List Glyph)
  | 0, gs => .error ⟨.unclosedSection, site.left gs.length⟩
  | fuel + 1, gs =>
    let unclosed : Fault := ⟨.unclosedSection, site.left gs.length⟩
    let go (cs : List Char) (rest : List Glyph) : Except Fault (List Char × List Glyph) := do
      let (more, rest) ← sectionText site fuel rest
      return (cs ++ more, rest)
    match gs with
    | .char ']' _ :: .char ']' _ :: .char '>' _ :: rest => .ok ([], rest)
    | .char ']' _ :: .char ']' bracket :: rest =>
      if isOver rest then .error unclosed else go [']'] (.char ']' bracket :: rest)
    | .char ']' _ :: rest => if isOver rest then .error unclosed else go [']'] rest
    | .char '\r' .plain :: .char '\n' _ :: rest => go ['\n'] rest
    | .char '\r' .plain :: rest => if isOver rest then .error unclosed else go ['\n'] rest
    | .char _ _ :: _ => go (characters (gs.takeWhile isSectionText)) (gs.dropWhile isSectionText)
    | .bad _ :: _ => .error ⟨.invalidToken, site.left gs.length⟩
    | .cut _ :: _ => .error ⟨.partialCharacter, site.left gs.length⟩
    | _ => .error unclosed

/-- What starts with `<!` in content: a comment, or a section of raw text, whose opening is read. -/
def bangOpening (gs : List Glyph) : Except Halt (Bool × List Glyph) := do
  let (c, rest) ← sign gs
  if c = '-' then
    let (_, rest) ← comment rest
    return (false, rest)
  else if c = '[' then
    if unitCount (rest.take 6) < 6 then throw .incomplete
    match (rest.zip "CDATA[".toList).findIdx? (fun (g, c) => characters [g] ≠ [c]) with
    | some i => reject (rest.drop i)
    | none => return (true, rest.drop 6)
  else reject gs

/-- Reads content in the document until the root element ends, or the text of an entity to its end,
where as many elements are open as at its beginning, `floor`. -/
def content (d : Definitions) : (depth fuel : Nat) → (site : Site) → (opened : List String) →
    (floor : Nat) → Progress → List Glyph → Except Fault (Progress × List Glyph)
  | depth + 1, fuel + 1, site, opened, floor, p, gs =>
    let fault (defect : Defect) : Fault := ⟨defect, site.left gs.length⟩
    let go := content d (depth + 1) fuel site opened floor
    let ended (p : Progress) : Except Fault (Progress × List Glyph) :=
      if !site.isEntity then .error (fault .noElement)
      else if p.elements.length ≠ floor then .error (fault .asynchronousEntity)
      else .ok (p, [])
    match gs with
    | [] => ended p
    | .char '<' _ :: rest =>
      match next rest with
      | .error h => .error (site.fault gs h)
      | .ok ('!', rest) =>
        match bangOpening rest with
        | .error h => .error (site.fault gs h)
        | .ok (false, rest) => go p rest
        | .ok (true, rest) => do
          let (text, rest) ← sectionText site fuel rest
          go (p.text text) rest
      | .ok ('?', rest) =>
        match instruction rest with
        | .error h => .error (site.fault gs h)
        | .ok (.processing, rest) => go p rest
        | .ok (.declaration _, _) => .error (fault .misplacedDeclaration)
      | .ok ('/', named) =>
        match endTag named with
        | .error h => .error (site.fault gs h)
        | .ok (name, rest) =>
          if p.elements.length ≤ floor then .error (fault .asynchronousEntity)
          else if p.elements.head? ≠ some name then
            .error ⟨.mismatchedTag, site.left named.length⟩
          else
            let p := p.finish name
            if p.elements.isEmpty then .ok (p, rest) else go p rest
      | .ok _ =>
        match startTag fuel rest with
        | .error h => .error (site.fault gs h)
        | .ok (tag, after) => do
          let (attributes, allowance) ← tagAttributes d site opened gs p.allowance tag
          let p := { p with allowance }.start tag.name attributes
          if tag.isEmpty then
            let p := p.finish tag.name
            if p.elements.isEmpty then return (p, after) else go p after
          else go p after
    | .char '&' _ :: rest =>
      match reference rest with
      | .error h => .error (site.fault gs h)
      | .ok (.character none, _) => .error (fault .badCharacterNumber)
      | .ok (.character (some c), rest) => go (p.text [c]) rest
      | .ok (.entity name, rest) =>
        match predefined? name with
        | some c => go (p.text [c]) rest
        | none =>
          match d.resolve d.isStrict opened name with
          | .error defect => .error (fault defect)
          | .ok (some (.text inner)) => do
            let allowance ← (charge p.allowance inner).mapError fault
            let (p, _) ← content d depth (inner.length + 1) (.entity (site.left gs.length))
              (name :: opened) p.elements.length { p with allowance } inner
            go p rest
          | .ok _ => go p rest
    | .char '\r' .plain :: .char '\n' _ :: rest => go (p.text ['\n']) rest
    | .char '\r' .plain :: rest =>
      if isOver rest then ended (p.text ['\n']) else go (p.text ['\n']) rest
    | .char ']' _ :: .char ']' _ :: .char '>' _ :: rest =>
      .error ⟨.invalidToken, site.left (rest.length + 1)⟩
    | .char ']' _ :: rest => go (p.text [']']) (if isOver rest then [] else rest)
    | .char _ _ :: _ =>
      go (p.text (characters (gs.takeWhile isPlainText))) (gs.dropWhile isPlainText)
    | _ =>
      match next gs with
      | .error h => .error (site.fault gs h)
      | .ok _ => .error (fault .invalidToken)
  | _, _, site, _, _, _, gs => .error ⟨.recursiveEntity, site.left gs.length⟩

/-- The events of the root element at the start of `gs`, and the glyphs after it. -/
def rootElement (d : Definitions) (gs : List Glyph) : Except Fault (List Event × List Glyph) := do
  let (p, rest) ← content d (d.entities.length + 1) (gs.length + 1) (.document 0) [] 0
    { allowance := d.allowance } gs
  return (p.events.reverse, rest)

end Scaffold.Xml
