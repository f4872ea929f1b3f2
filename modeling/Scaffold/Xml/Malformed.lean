import Scaffold.Xml.Glyph

/-!
# Malformed XML

Why a document is no XML, and where: a fault knows how many glyphs of the document are left where
it stands, from which its line and column follow.
-/

namespace Scaffold.Xml

/-- Why a document is no XML. -/
inductive Defect
  | syntaxError
  | noElement
  | invalidToken
  | unclosedToken
  | partialCharacter
  | mismatchedTag
  | duplicateAttribute
  | junkAfterRoot
  | parameterReference
  | undefinedEntity
  | recursiveEntity
  | asynchronousEntity
  | declaredInParameter
  | badCharacterNumber
  | binaryEntity
  | externalEntityInAttribute
  | misplacedDeclaration
  | unknownEncoding
  | incorrectEncoding
  | unclosedSection
  | incompleteParameter
  | publicId
  | declaration
  | amplification
deriving DecidableEq, Repr

def Defect.message : Defect → String
  | syntaxError => "syntax error"
  | noElement => "no element found"
  | invalidToken => "not well-formed (invalid token)"
  | unclosedToken => "unclosed token"
  | partialCharacter => "partial character"
  | mismatchedTag => "mismatched tag"
  | duplicateAttribute => "duplicate attribute"
  | junkAfterRoot => "junk after document element"
  | parameterReference => "illegal parameter entity reference"
  | undefinedEntity => "undefined entity"
  | recursiveEntity => "recursive entity reference"
  | asynchronousEntity => "asynchronous entity"
  | declaredInParameter => "entity declared in parameter entity"
  | badCharacterNumber => "reference to invalid character number"
  | binaryEntity => "reference to binary entity"
  | externalEntityInAttribute => "reference to external entity in attribute"
  | misplacedDeclaration => "XML or text declaration not at start of entity"
  | unknownEncoding => "unknown encoding"
  | incorrectEncoding => "encoding specified in XML declaration is incorrect"
  | unclosedSection => "unclosed CDATA section"
  | incompleteParameter => "incomplete markup in parameter entity"
  | publicId => "illegal character(s) in public id"
  | declaration => "XML declaration not well-formed"
  | amplification => "limit on input amplification factor (from DTD and entities) breached"

/-- A defect and the number of glyphs left where it stands. -/
structure Fault where
  defect : Defect
  left : Nat
deriving DecidableEq, Repr

/-- A line, from one, and a column, from zero. -/
structure Position where
  line : Nat
  column : Nat
deriving DecidableEq, Repr

/-- The position after some glyphs. A carriage return ends a line, with the line feed after it. -/
def Position.after (p : Position) : List Glyph → Position
  | [] => p
  | .char '\r' _ :: .char '\n' _ :: gs => after ⟨p.line + 1, 0⟩ gs
  | .char '\r' _ :: gs => after ⟨p.line + 1, 0⟩ gs
  | .char '\n' _ :: gs => after ⟨p.line + 1, 0⟩ gs
  | .half :: gs => after p gs
  | _ :: gs => after ⟨p.line, p.column + 1⟩ gs

/-- The position of a fault in a document. -/
def Fault.position (f : Fault) (document : List Glyph) : Position :=
  Position.after ⟨1, 0⟩ (document.take (document.length - f.left))

end Scaffold.Xml
