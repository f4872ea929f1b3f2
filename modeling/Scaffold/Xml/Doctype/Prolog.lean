import Scaffold.Xml.Doctype.Stage
import Scaffold.Xml.Entity

/-!
# The prolog of a document

Reads what stands before the root element and keeps what it declares. The text of a parameter entity
is read in place of its reference, and its faults count for the reference.
-/

namespace Scaffold.Xml.Doctype

/-- The text of an entity in reverse, as far as it is read, whether all the parameter entities in it
are known, and what is left of the allowance. -/
structure Replacement where
  text : List Glyph := []
  known : Bool := true
  allowance : Nat
deriving DecidableEq, Repr

/-- Adds a character to the text of an entity. -/
def Replacement.push (r : Replacement) (c : Char) : Replacement :=
  { r with text := .stored c :: r.text }

/-- Adds the text of an entity from the literal that declares it. References to characters and to
parameter entities are replaced, the latter only in the text of a parameter entity; other references
are kept. A parameter entity that is not declared ends the text in which it stands. -/
def entityText (d : Definitions) (site : Site) : (depth fuel : Nat) → (opened : List String) →
    List Glyph → Replacement → Except Fault Replacement
  | depth + 1, fuel + 1, opened, gs, r =>
    let fault (defect : Defect) : Fault := ⟨defect, site.left gs.length⟩
    let go := entityText d site (depth + 1) fuel opened
    match gs with
    | .char '&' _ :: rest =>
      match reference rest with
      | .error (.invalid left) => .error ⟨.invalidToken, site.left left⟩
      | .error _ => .error (fault .invalidToken)
      | .ok (.character none, _) => .error (fault .badCharacterNumber)
      | .ok (.character (some c), rest) => go rest (r.push c)
      | .ok (.entity name, rest) => go rest (('&' :: name.toList ++ [';']).foldl Replacement.push r)
    | .char '%' _ :: rest =>
      match Lexeme.scanPercent rest with
      | .error (.invalid left) => .error ⟨.invalidToken, site.left left⟩
      | .error _ => .error (fault .invalidToken)
      | .ok (.parameter name, after) =>
        if !site.isEntity then .error (fault .parameterReference)
        else match d.parameters.lookup name with
          | none => .ok { r with known := false }
          | some e =>
            if opened.contains name then .error (fault .recursiveEntity)
            else match e.body with
              | .text inner => do
                let allowance ← (charge r.allowance inner).mapError fault
                let r ← entityText d site depth (inner.length + 1) (name :: opened) inner
                  { r with allowance }
                go after r
              | _ => go after { r with known := false }
      | .ok (_, after) => .error ⟨.invalidToken, site.left after.length⟩
    | .char '\r' .plain :: .char '\n' _ :: rest => go rest (r.push '\n')
    | .char '\r' .plain :: rest => go rest (r.push '\n')
    | .char c _ :: rest => go rest (r.push c)
    | _ :: rest => go rest r
    | [] => .ok r
  | _, _, _, _, r => .ok r

/-- A prolog as far as it is read. -/
structure Prolog where
  stage : Stage := .prolog
  definitions : Definitions := {}
deriving DecidableEq, Repr

namespace Prolog

/-- Adds an entity, unless there is one of its name. -/
def declare (d : Definitions) (e : Declared) (body : EntityBody) (nested : Bool) : Definitions :=
  if d.frozen then d
  else if e.isParameter then
    if (d.parameters.lookup e.name).isSome then d
    else { d with parameters := d.parameters ++ [(e.name, ⟨body, nested⟩)] }
  else if (d.entities.lookup e.name).isSome || (predefined? e.name).isSome then d
  else { d with entities := d.entities ++ [(e.name, ⟨body, nested⟩)] }

/-- Adds the rule for an attribute whose default is a literal at the start of `home`. -/
def declareDefault (d : Definitions) (site : Site) (a : Subject) (home : List Glyph)
    (body : List Glyph) : Except Fault Definitions :=
  if d.frozen then .ok d
  else do
    let strict := if d.standalone then !site.isEntity else !d.incomplete
    let ctx : ValueContext := ⟨d, strict, a.isText, [], site, home, home.drop (body.length + 1)⟩
    let (value, allowance) ← ctx.normalize d.allowance body
    return { d with allowance }.addRule ⟨a.element, a.name, a.isText, some value⟩ false

/-- Can this glyph stand in a public identifier? -/
def isPublicGlyph : Glyph → Bool
  | .char c _ => c.isAlphanum || " \r\n-'()+,./:=?;!*#@$_%".toList.contains c
  | _ => false

/-- Checks the public identifier in a literal at the start of `home`. -/
def checkPublic (site : Site) (home : List Glyph) (body : List Glyph) : Except Fault Unit :=
  match body.findIdx? (!isPublicGlyph ·) with
  | some i => .error ⟨.publicId, site.left (home.length - 1 - i)⟩
  | none => .ok ()

/-- What a lexeme at the start of `home` declares, in its stage. -/
def record (d : Definitions) (site : Site) (opened : List String) (home : List Glyph) :
    Stage → Lexeme → Except Fault Definitions
  | .doctypePublic, .literal body => (checkPublic site home body).map fun _ => d
  | .entityPublic _, .literal body => (checkPublic site home body).map fun _ => d
  | .formatPublic, .literal body => (checkPublic site home body).map fun _ => d
  | .doctypeSystem, .literal _ => .ok { d with incomplete := true }
  | .entityBody e, .literal body =>
    if d.frozen then .ok d
    else do
      let inner := match site with
        | .document after => .document (after + (home.length - body.length - 1))
        | .entity outer => .entity outer
      let isNew := e.isParameter && (d.parameters.lookup e.name).isNone
      let opened := if isNew then e.name :: opened else opened
      let r ← entityText d inner (d.parameters.length + 1) (body.length + 1) opened body
        { allowance := d.allowance }
      let d := declare { d with allowance := r.allowance } e (.text r.text.reverse) site.isEntity
      return { d with frozen := !r.known && !d.standalone }
  | .entityLocated e, .closing => .ok (declare d e .external site.isEntity)
  | .entityFormat e, .name _ => .ok (declare d e .binary site.isEntity)
  | .attributeDefault a, .literal body => declareDefault d site a home body
  | .attributeFixed a, .literal body => declareDefault d site a home body
  | .attributeDefault a, .hash word =>
    .ok (if d.frozen || word = "FIXED" then d
      else d.addRule ⟨a.element, a.name, a.isText, none⟩ a.isIdentifier)
  | _, _ => .ok d

/-- Why a lexeme cannot stand where it does. -/
def misplaced : Lexeme → Defect
  | .parameter _ => .parameterReference
  | .declaration _ => .misplacedDeclaration
  | _ => .syntaxError

/-- The declarations after a reference to a parameter entity that is not read. -/
def skipParameter (d : Definitions) : Definitions :=
  { d with incomplete := true, frozen := d.frozen || !d.standalone }

/-- Reads on to the root element, which is left, or to the end of the text of an entity, which cannot
close the document type. -/
def run : (depth fuel : Nat) → (site : Site) → (opened : List String) → Prolog → List Glyph →
    Except Fault (Prolog × List Glyph)
  | depth + 1, fuel + 1, site, opened, p, gs =>
    let fault (defect : Defect) : Fault := ⟨defect, site.left gs.length⟩
    let go := run (depth + 1) fuel site opened
    if gs.isEmpty then
      if !site.isEntity then .error (fault .noElement)
      else if p.stage = .subset then .ok (p, gs) else .error (fault .incompleteParameter)
    else match Lexeme.scan gs with
      | .error h => .error (site.fault gs h)
      | .ok (.space, rest) => go p rest
      | .ok (.root, _) =>
        if p.stage = .prolog ∨ p.stage = .ready then .ok (p, gs) else .error (fault .syntaxError)
      | .ok (lexeme, rest) =>
        match p.stage.next? lexeme with
        | none => .error (fault (misplaced lexeme))
        | some stage =>
          match p.stage, lexeme with
          | .subset, .parameter name =>
            let d := { p.definitions with incomplete := true }
            if d.standalone then go ⟨stage, d⟩ rest
            else match d.parameters.lookup name with
              | none => go ⟨stage, skipParameter d⟩ rest
              | some e =>
                if opened.contains name then .error (fault .recursiveEntity)
                else match e.body with
                  | .text inner => do
                    let allowance ← (charge d.allowance inner).mapError fault
                    let d := { d with allowance }
                    let site := Site.entity (site.left gs.length)
                    let (p, _) ←
                      run depth (inner.length + 1) site (name :: opened) ⟨stage, d⟩ inner
                    go p rest
                  | _ => go ⟨stage, skipParameter d⟩ rest
          | .subsetEnd, .closing =>
            if site.isEntity then .error (fault .invalidToken) else go ⟨stage, p.definitions⟩ rest
          | current, _ => do
            let d ← record p.definitions site opened gs current lexeme
            go ⟨stage, d⟩ rest
  | _, _, site, _, _, gs => .error ⟨.recursiveEntity, site.left gs.length⟩

/-- Reads the prolog of a document up to its root element. The nesting of parameter entities is
bounded, because an entity stands in no text of its own and each takes a glyph to declare. -/
def read (d : Definitions) (gs : List Glyph) : Except Fault (Definitions × List Glyph) := do
  let (p, rest) ← run (gs.length + 1) (gs.length + 1) (.document 0) [] ⟨.prolog, d⟩ gs
  return (p.definitions, rest)

end Prolog

end Scaffold.Xml.Doctype
