import Scaffold.Charset.Basic

/-!
# Glyphs of an XML document

The bytes of a document as a sequence of glyphs: characters that XML allows, and marks for what is
none. The encoding is told from the first bytes, UTF-8 unless they say otherwise.
-/

namespace Scaffold.Xml

/-- How a character is written. A unit is a byte, or two bytes in UTF-16. -/
inductive Form
  /-- One unit below 256, which is the number of the character. -/
  | plain
  /-- One byte of a character set, beyond ASCII. -/
  | mapped
  /-- One unit from 256 up. -/
  | wide
  /-- Several units; or the bytes of UTF-8, be they one or more, in the text of an entity. -/
  | sequence (units : Nat)
deriving DecidableEq, Repr

inductive Glyph
  /-- A character that XML allows. -/
  | char (c : Char) (form : Form)
  /-- Units that are no such character. -/
  | bad (units : Nat)
  /-- The beginning of a character, at the end of the document. -/
  | cut (units : Nat)
  /-- Half a unit of two bytes, at the end of the document. -/
  | half
deriving DecidableEq, Repr

/-- The number of whole units. -/
def Glyph.units : Glyph → Nat
  | char _ (.sequence n) => n
  | char _ _ => 1
  | bad n => n
  | cut n => n
  | half => 0

/-- The number of whole units of some glyphs. -/
def unitCount (gs : List Glyph) : Nat := gs.foldl (fun n g => n + g.units) 0

/-- The glyph of a character in the text of an entity, which is kept in UTF-8. -/
def Glyph.stored (c : Char) : Glyph := char c (.sequence c.utf8Size)

/-- The encodings that a document may have. -/
inductive Encoding
  | utf8
  | latin1
  | ascii
  | utf16be
  | utf16le
  /-- A character set of single bytes. -/
  | table (t : Charset.Table)
deriving DecidableEq, Repr

/-- The characters that XML allows. -/
def isXmlChar (n : Nat) : Bool :=
  n == 0x9 || n == 0xA || n == 0xD || (0x20 ≤ n && n ≤ 0xD7FF) || (0xE000 ≤ n && n ≤ 0xFFFD) ||
    (0x10000 ≤ n && n ≤ 0x10FFFF)

/-- The glyph of a code point in some form. -/
def Glyph.ofCode (form : Form) (n : Nat) : Glyph :=
  if isXmlChar n then .char (Char.ofNat n) form
  else match form with
    | .sequence units => .bad units
    | _ => .bad 1

namespace Encoding

/-- The number of bytes in a unit. -/
def unitSize : Encoding → Nat
  | utf16be => 2
  | utf16le => 2
  | _ => 1

/-- The encoding with a name, in a document whose units are those of `current`. -/
def ofName? (current : Encoding) (name : String) : Option Encoding :=
  match name.map Char.toUpper with
  | "ISO-8859-1" => some latin1
  | "US-ASCII" => some ascii
  | "UTF-8" => some utf8
  | "UTF-16" => some (if current.unitSize == 2 then current else utf16be)
  | "UTF-16BE" => some utf16be
  | "UTF-16LE" => some utf16le
  | _ => none

/-- Is `b` a byte that continues a character? -/
def isTail (b : UInt8) : Bool := 0x80 ≤ b && b < 0xC0

/-- The payload of a continuing byte. -/
def tail (b : UInt8) : Nat := b.toNat % 0x40

/-- A character in two bytes. -/
def pair (a b : UInt8) : Glyph :=
  if 0xC2 ≤ a && isTail b then .ofCode (.sequence 2) (a.toNat % 0x20 * 0x40 + tail b) else .bad 2

/-- A character in three bytes, unless two would do. -/
def triple (a b c : UInt8) : Glyph :=
  let n := (a.toNat % 0x10 * 0x40 + tail b) * 0x40 + tail c
  if isTail b && isTail c && 0x800 ≤ n then .ofCode (.sequence 3) n else .bad 3

/-- A character in four bytes, unless three would do. -/
def quadruple (a b c d : UInt8) : Glyph :=
  let n := ((a.toNat % 0x08 * 0x40 + tail b) * 0x40 + tail c) * 0x40 + tail d
  if isTail b && isTail c && isTail d && 0x10000 ≤ n then .ofCode (.sequence 4) n else .bad 4

/-- UTF-8. The first byte of a sequence says how many belong to it, good or bad. -/
def decodeUtf8 : List UInt8 → List Glyph
  | [] => []
  | a :: bs =>
    if a < 0x80 then .ofCode .plain a.toNat :: decodeUtf8 bs
    else if a < 0xC0 then .bad 1 :: decodeUtf8 bs
    else if a < 0xE0 then
      match bs with
      | b :: bs => pair a b :: decodeUtf8 bs
      | _ => [.cut 1]
    else if a < 0xF0 then
      match bs with
      | b :: c :: bs => triple a b c :: decodeUtf8 bs
      | _ => [.cut (bs.length + 1)]
    else if a < 0xF5 then
      match bs with
      | b :: c :: d :: bs => quadruple a b c d :: decodeUtf8 bs
      | _ => [.cut (bs.length + 1)]
    else .bad 1 :: decodeUtf8 bs

/-- One byte to a character. -/
def decodeLatin1 (bs : List UInt8) : List Glyph := bs.map fun b => .ofCode .plain b.toNat

/-- The lower half of the byte values only. -/
def decodeAscii (bs : List UInt8) : List Glyph :=
  bs.map fun b => if b < 0x80 then .ofCode .plain b.toNat else .bad 1

/-- The characters of a table. -/
def decodeTable (t : Charset.Table) (bs : List UInt8) : List Glyph :=
  bs.map fun b =>
    match t.char? b with
    | some c => .ofCode (if c.toNat < 0x80 then .plain else .mapped) c.toNat
    | none => .bad 1

/-- The 16-bit units of a document, and whether a byte is left over. -/
def units (bigEndian : Bool) : List UInt8 → List Nat × Bool
  | [] => ([], false)
  | [_] => ([], true)
  | a :: b :: bs =>
    let (us, odd) := units bigEndian bs
    ((if bigEndian then a.toNat * 0x100 + b.toNat else b.toNat * 0x100 + a.toNat) :: us, odd)

/-- UTF-16 units as glyphs. After the first half of a pair any unit counts as the second. -/
def decodeUnits : List Nat → List Glyph
  | [] => []
  | u :: us =>
    if 0xD800 ≤ u && u < 0xDC00 then
      match us with
      | [] => [.cut 1]
      | v :: us => .ofCode (.sequence 2) (0x10000 + u % 0x400 * 0x400 + v % 0x400) :: decodeUnits us
    else .ofCode (if u < 0x100 then .plain else .wide) u :: decodeUnits us

/-- UTF-16 of either byte order. -/
def decodeUtf16 (bigEndian : Bool) (bs : List UInt8) : List Glyph :=
  let (us, odd) := units bigEndian bs
  decodeUnits us ++ if odd then [.half] else []

/-- The glyphs of bytes in an encoding. -/
def decode : Encoding → List UInt8 → List Glyph
  | utf8 => decodeUtf8
  | latin1 => decodeLatin1
  | ascii => decodeAscii
  | utf16be => decodeUtf16 true
  | utf16le => decodeUtf16 false
  | table t => decodeTable t

/-- The encoding that the first bytes of a document show. -/
def detect : List UInt8 → Encoding
  | 0xFE :: 0xFF :: _ => utf16be
  | 0xFF :: 0xFE :: _ => utf16le
  | 0x00 :: _ :: _ => utf16be
  | _ :: 0x00 :: _ => utf16le
  | _ => utf8

end Encoding

/-- The byte order mark. -/
def byteOrderMark : Char := '\uFEFF'

end Scaffold.Xml
