/-!
# Character sets

A character set has a title, further names, and characters for its bytes. Only one with a byte to a
character and ASCII in its lower half is of use to a document; `Obstacle` says what is wrong with
the others.
-/

namespace Scaffold

namespace Charset

/-- The characters of single bytes: ASCII in the lower half, but for some gaps, and those of `upper`
in the upper half, in order. A blank in `upper`, or its end, is a gap too. -/
structure Table where
  upper : List Char := []
  gaps : List UInt8 := []
deriving DecidableEq, Repr

/-- The character of a byte. -/
def Table.char? (t : Table) (b : UInt8) : Option Char :=
  if 0x80 ≤ b then t.upper[b.toNat - 0x80]?.filter (· ≠ ' ')
  else if t.gaps.contains b then none
  else some (Char.ofNat b.toNat)

/-- Why the bytes of a character set have no table. -/
inductive Obstacle
  | multibyte
  /-- The set is a way to write data, and not text. -/
  | data
  /-- The set has no way to mark a gap. -/
  | unmarked (reason : String)
  /-- Of all bytes in order, the part that decides the characters stops being ASCII here. -/
  | beyondAscii (byte : String) (position : Nat)
deriving DecidableEq, Repr

/-- What the bytes of a character set stand for. -/
inductive Repertoire
  | bytes (t : Table)
  /-- Single bytes, but the signs of ASCII have others, or more than one. -/
  | foreign
  | obstructed (o : Obstacle)
deriving DecidableEq, Repr

namespace Repertoire

/-- A table from the rows of its upper half. -/
def ofRows (rows : List String) : Repertoire := .bytes { upper := (String.join rows).toList }

/-- The control characters of the upper half. -/
def controls : List Char := (List.range 0x20).map fun n => Char.ofNat (0x80 + n)

/-- A table from the rows that follow the control characters in its upper half. -/
def ofGraphics (rows : List String) : Repertoire :=
  .bytes { upper := controls ++ (String.join rows).toList }

end Repertoire

end Charset

/-- A character set, with names in lower case, words divided by underscores. -/
structure Charset where
  title : String
  aliases : List String
  repertoire : Charset.Repertoire
deriving DecidableEq, Repr

namespace Charset

/-- Why a name gives no table. -/
inductive Error
  | unknown (name : String)
  | obstructed (name : String) (o : Obstacle)
deriving DecidableEq, Repr

def Error.message : Error → String
  | unknown name => s!"unknown encoding: {name}"
  | obstructed _ .multibyte => "multi-byte encodings are not supported"
  | obstructed name .data =>
    s!"'{name}' is not a text encoding; use codecs.decode() to handle arbitrary codecs"
  | obstructed name (.unmarked reason) =>
    s!"decoding with '{name}' codec failed (UnicodeError: {reason})"
  | obstructed _ (.beyondAscii byte position) =>
    s!"'ascii' codec can't decode byte {byte} in position {position}: ordinal not in range(128)"

/-- A name in lower case, with one underscore for what divides its words. Letters, digits and dots
make words. -/
def normalize (name : String) : String :=
  String.intercalate "_"
    ((name.toList.splitBy fun a b => isWordChar a == isWordChar b).filterMap fun cs =>
      if cs.all isWordChar then some (String.ofList (cs.map Char.toLower)) else none)
where
  /-- Can `c` stand in a word? -/
  isWordChar (c : Char) : Bool := c.isAlphanum || c == '.'

/-- Is this a name of the set? An alias may have dots for underscores. -/
def isNamed (s : Charset) (name : String) : Bool :=
  let plain := name.map fun c => if c = '.' then '_' else c
  s.aliases.contains name || s.aliases.contains plain || s.title = name

end Charset

end Scaffold
