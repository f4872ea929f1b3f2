import Scaffold.Charset.Registry
import Scaffold.Xml.Content
import Scaffold.Xml.Declaration
import Scaffold.Xml.Doctype.Prolog

/-!
# XML documents

A document is bytes: an optional byte order mark and XML declaration, a prolog, one root element,
and after it spaces, comments and instructions. `events` gives the markup events of a document, or
the first reason why it is no XML, with its place.
-/

namespace Scaffold.Xml

open Markup (Event)

/-- A reason why a document is no XML, and its place. -/
structure Malformed where
  defect : Defect
  position : Position
deriving DecidableEq, Repr

/-- A fault with its place in a document. -/
def Fault.locate (f : Fault) (document : List Glyph) : Malformed := ⟨f.defect, f.position document⟩

/-- Why a document cannot be read. -/
inductive Unreadable
  | malformed (m : Malformed)
  | charset (e : Charset.Error)
deriving DecidableEq, Repr

/-- The glyphs of a document with those that are still to be read, and what its XML declaration
says. -/
structure Opening where
  document : List Glyph
  rest : List Glyph
  standalone : Bool := false

namespace Opening

/-- Is this the beginning of a byte order mark, or of a unit of two bytes, and nothing more? -/
def isTruncated (bytes : List UInt8) : Bool :=
  [[0xFE], [0xFF], [0xEF], [0xEF, 0xBB], [0x00], [0x3C]].contains bytes

/-- The number of bytes that are read. -/
def bytesRead (o : Opening) (current : Encoding) : Nat :=
  unitCount (before o.document o.rest) * current.unitSize

/-- The document in another encoding, with a byte to a glyph, from where it is read on. -/
def recode (bytes : List UInt8) (current encoding : Encoding) (o : Opening) : Opening :=
  let document := encoding.decode bytes
  { o with document, rest := document.drop (o.bytesRead current) }

/-- The document once its encoding is named with `left` glyphs left: another encoding takes effect
after the declaration. It has to be one of the same unit size, or a character set of single
bytes. -/
def rename (bytes : List UInt8) (current : Encoding) (o : Opening) (name : String) (left : Nat) :
    Except Unreadable Opening :=
  let fault (defect : Defect) : Unreadable := .malformed ((⟨defect, left⟩ : Fault).locate o.document)
  match Encoding.ofName? current name with
  | some encoding =>
    if encoding.unitSize ≠ current.unitSize ∨ (encoding.unitSize = 2 ∧ encoding ≠ current) then
      .error (fault .incorrectEncoding)
    else if encoding = current then .ok o
    else .ok (o.recode bytes current encoding)
  | none =>
    match Charset.table? name with
    | .error e => .error (.charset e)
    | .ok none => .error (fault .unknownEncoding)
    | .ok (some t) => .ok (o.recode bytes current (.table t))

/-- Is this glyph the byte order mark? -/
def isMark : Glyph → Bool
  | .char c _ => c = byteOrderMark
  | _ => false

/-- The glyphs of a document up to a byte order mark and an XML declaration. -/
def read (bytes : List UInt8) : Except Unreadable Opening :=
  let current := Encoding.detect bytes
  let document := current.decode bytes
  let rest := if document.head?.any isMark then document.drop 1 else document
  let fault (defect : Defect) (left : Nat) : Unreadable :=
    .malformed ((⟨defect, left⟩ : Fault).locate document)
  if isTruncated bytes then .error (fault .unclosedToken document.length)
  else match Doctype.Lexeme.scan rest with
    | .ok (.declaration body, rest) =>
      let after := rest.length + 2
      match Declaration.scan body with
      | .error place => .error (fault .declaration (place.length + after))
      | .ok d =>
        let o : Opening := ⟨document, rest, d.standalone⟩
        match d.encoding with
        | none => .ok o
        | some (name, nameAt) => o.rename bytes current name (nameAt.length + after)
    | _ => .ok ⟨document, rest, false⟩

end Opening

/-- Reads what follows the root element. -/
def epilog : (fuel : Nat) → List Glyph → Except Fault Unit
  | 0, _ => .ok ()
  | fuel + 1, gs =>
    if gs.isEmpty then .ok ()
    else match Doctype.Lexeme.scan gs with
      | .error h => .error (h.fault gs.length)
      | .ok (.space, rest) => epilog fuel rest
      | .ok (.comment, rest) => epilog fuel rest
      | .ok (.instruction, rest) => epilog fuel rest
      | .ok _ => .error ⟨.junkAfterRoot, gs.length⟩

/-- The events of a document of so many bytes, with its text as it stands. -/
def rawEvents (size : Nat) (o : Opening) : Except Fault (List Event) := do
  let d : Definitions := { standalone := o.standalone, allowance := allowanceFor size }
  let (d, rest) ← Doctype.Prolog.read d o.rest
  let (events, rest) ← rootElement d rest
  epilog (rest.length + 1) rest
  return events

/-- The markup events of a document. -/
def events (bytes : List UInt8) : Except Unreadable (List Event) := do
  let o ← Opening.read bytes
  let es ← (rawEvents bytes.length o).mapError fun f => .malformed (f.locate o.document)
  return Event.collect es

end Scaffold.Xml
