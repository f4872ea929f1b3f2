import Scaffold.Xml.Lexeme

/-!
# Entities and attribute values

What a document declares, and what follows for its references and attributes: a reference to an
entity stands for the text of the entity, and an attribute value has its references replaced and
its line ends and tabs turned into spaces. An attribute that is declared as tokens loses superfluous
spaces as well.
-/

namespace Scaffold.Xml

/-- What an entity stands for. -/
inductive EntityBody
  | text (gs : List Glyph)
  /-- A text outside the document, which is not read. -/
  | external
  /-- Data that is no text. -/
  | binary
deriving DecidableEq, Repr

structure Entity where
  body : EntityBody
  /-- Is the entity declared in the text of a parameter entity? -/
  nested : Bool
deriving DecidableEq, Repr

/-- The declaration of an attribute: text or tokens, with or without a default. -/
structure AttributeRule where
  element : String
  name : String
  isText : Bool
  value : Option String
deriving DecidableEq, Repr

/-- What a document declares. -/
structure Definitions where
  /-- Entities, the first declared first. -/
  entities : List (String × Entity) := []
  /-- Parameter entities, which stand for declarations. -/
  parameters : List (String × Entity) := []
  rules : List AttributeRule := []
  /-- May there be declarations that are not read? -/
  incomplete : Bool := false
  standalone : Bool := false
  /-- Are further declarations without effect? -/
  frozen : Bool := false
  /-- How many bytes of entity text may still be read. -/
  allowance : Nat := 0
deriving DecidableEq, Repr

/-- The entities that need no declaration. -/
def predefined? : String → Option Char
  | "lt" => some '<'
  | "gt" => some '>'
  | "amp" => some '&'
  | "apos" => some '\''
  | "quot" => some '"'
  | _ => none

/-- The size from which on the texts of entities may be too large. -/
def freeSize : Nat := 8388608

/-- How many times its own size a document may become in the end. -/
def maxGrowth : Nat := 100

/-- How many bytes of entity text may be read for a document of so many bytes. -/
def allowanceFor (bytes : Nat) : Nat := max (freeSize - bytes) ((maxGrowth - 1) * bytes + 1)

/-- What is left of an allowance once the text of an entity is read. -/
def charge (allowance : Nat) (text : List Glyph) : Except Defect Nat :=
  let cost := unitCount text
  if cost < allowance then .ok (allowance - cost) else .error .amplification

namespace Definitions

/-- Has every entity to be declared? -/
def isStrict (d : Definitions) : Bool := !d.incomplete || d.standalone

/-- What a reference stands for, given the names of the entities inside which it stands: nothing
when its entity may be declared where nobody looks. -/
def resolve (d : Definitions) (strict : Bool) (opened : List String) (name : String) :
    Except Defect (Option EntityBody) :=
  match d.entities.lookup name with
  | none => if strict then .error .undefinedEntity else .ok none
  | some e =>
    if strict && e.nested then .error .declaredInParameter
    else if opened.contains name then .error .recursiveEntity
    else if e.body = .binary then .error .binaryEntity
    else .ok (some e.body)

/-- The rules for the attributes of an element. -/
def rulesFor (d : Definitions) (element : String) : List AttributeRule :=
  d.rules.filter (·.element = element)

/-- Adds a rule for an attribute. A default comes too late for an attribute that has a rule, and so
does an identifier. -/
def addRule (d : Definitions) (rule : AttributeRule) (isIdentifier : Bool) : Definitions :=
  if (rule.value.isSome || isIdentifier) &&
      (d.rulesFor rule.element).any (·.name = rule.name) then d
  else { d with rules := d.rules ++ [rule] }

end Definitions

/-- Where glyphs stand: in the document, before so many others, or in the text of an entity that is
referred to with so many glyphs left. -/
inductive Site
  | document (after : Nat)
  | entity (home : Nat)
deriving DecidableEq, Repr

namespace Site

/-- The number of glyphs of the document left where `left` of these are left. -/
def left : Site → Nat → Nat
  | document after, left => left + after
  | entity home, _ => home

def isEntity : Site → Bool
  | document _ => false
  | entity _ => true

/-- The fault of a scanner that stops in the token at the start of `gs`. -/
def fault (site : Site) (gs : List Glyph) (h : Halt) : Fault :=
  let f := h.fault gs.length
  ⟨f.defect, site.left f.left⟩

end Site

/-- Where and how an attribute value is read: the declarations in force, whether every entity has
to be declared, whether the value is text, the entities inside which it stands, where that is, the
glyphs from the token that holds the value on, and those after the value. -/
structure ValueContext where
  definitions : Definitions
  strict : Bool
  isText : Bool
  around : List String
  site : Site
  home : List Glyph
  after : List Glyph

/-- A value in reverse, as far as it is read, and what is left of the allowance. -/
structure Spelling where
  value : List Char := []
  allowance : Nat

namespace ValueContext

/-- The fault `defect` of the whole token. -/
def tokenFault (ctx : ValueContext) (defect : Defect) : Fault :=
  ⟨defect, ctx.site.left ctx.home.length⟩

/-- The fault `defect` with `left` glyphs left in the value; inside an entity it counts for the whole
token. -/
def fault (ctx : ValueContext) (opened : List String) (defect : Defect) (left : Nat) : Fault :=
  if opened.isEmpty then ⟨defect, ctx.site.left (left + ctx.after.length)⟩ else ctx.tokenFault defect

/-- Adds a space to a value; tokens are divided by one space. -/
def addSpace (ctx : ValueContext) (s : Spelling) : Spelling :=
  if !ctx.isText && (s.value.head?.all (· = ' ')) then s else { s with value := ' ' :: s.value }

/-- Adds a character to a value. -/
def addChar (s : Spelling) (c : Char) : Spelling := { s with value := c :: s.value }

/-- Adds the value that `gs` spells. The depth bounds how far entities may stand inside entities. -/
def append (ctx : ValueContext) : (depth fuel : Nat) → (opened : List String) → List Glyph →
    Spelling → Except Fault Spelling
  | depth + 1, fuel + 1, opened, gs, s =>
    let go := append ctx (depth + 1) fuel opened
    match gs with
    | .char '&' _ :: rest =>
      match reference rest with
      | .error (.invalid left) => .error (ctx.fault opened .invalidToken left)
      | .error _ => .error (ctx.fault opened .invalidToken gs.length)
      | .ok (.character none, _) => .error (ctx.fault opened .badCharacterNumber gs.length)
      | .ok (.character (some ' '), rest) => go rest (ctx.addSpace s)
      | .ok (.character (some c), rest) => go rest (addChar s c)
      | .ok (.entity name, rest) =>
        match predefined? name with
        | some c => go rest (addChar s c)
        | none =>
          match ctx.definitions.resolve ctx.strict (opened ++ ctx.around) name with
          | .error .binaryEntity => .error (ctx.fault opened .binaryEntity gs.length)
          | .error defect => .error (ctx.tokenFault defect)
          | .ok none => go rest s
          | .ok (some (.text inner)) => do
            let allowance ← (charge s.allowance inner).mapError ctx.tokenFault
            let s ← append ctx depth (inner.length + 1) (name :: opened) inner { s with allowance }
            go rest s
          | .ok (some _) => .error (ctx.fault opened .externalEntityInAttribute gs.length)
    | .char '<' _ :: _ => .error (ctx.fault opened .invalidToken gs.length)
    | .char '\r' .plain :: .char '\n' _ :: rest => go rest (ctx.addSpace s)
    | .char c _ :: rest => go rest (if isSpace c then ctx.addSpace s else addChar s c)
    | _ => .ok s
  | _, _, _, _, s => .ok s

/-- The value that `gs` spells, and what is left of an allowance. -/
def normalize (ctx : ValueContext) (allowance : Nat) (gs : List Glyph) :
    Except Fault (String × Nat) := do
  let s ← ctx.append (ctx.definitions.entities.length + 1) (gs.length + 1) [] gs { allowance }
  let value := if !ctx.isText && s.value.head? = some ' ' then s.value.drop 1 else s.value
  return (String.ofList value.reverse, s.allowance)

end ValueContext

end Scaffold.Xml
