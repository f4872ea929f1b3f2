/-!
# Surrogates

Half of a UTF-16 pair has a number, but is no character. An escape may name one all the same, so that
what escapes write is a list of parts, each of them a character or a surrogate. `Stored` keeps such a
list as characters, for those who look for characters in it: a surrogate is kept as the last
noncharacter and a private character, and the last noncharacter itself is kept twice.
-/

namespace Scaffold.Text

/-- A character, or one of the 2048 surrogates. -/
inductive Part
  | char (c : Char)
  | surrogate (k : Fin 0x800)
deriving DecidableEq, Repr

namespace Part

/-- The number of a character or a surrogate. -/
def number : Part → Nat
  | char c => c.toNat
  | surrogate k => 0xD800 + k.val

/-- The character or the surrogate with the number `n`. -/
def ofNumber (n : Nat) : Part :=
  if h : 0xD800 ≤ n ∧ n < 0xE000 then surrogate ⟨n - 0xD800, by omega⟩ else char (Char.ofNat n)

def char? : Part → Option Char
  | char c => some c
  | surrogate _ => none

def isChar (p : Part) : Bool := p.char?.isSome

def isAscii (p : Part) : Bool := p.number < 0x80

/-- The text of some parts, if all of them are characters. -/
def text? (ps : List Part) : Option String := (ps.mapM char?).map String.ofList

/-- The parts of a text. -/
def ofText (s : String) : List Part := s.toList.map char

end Part

/-- A text with surrogates in it. -/
structure Broken where
  parts : List Part
  isBroken : Part.text? parts = none
deriving DecidableEq, Repr

/-- Texts, at least one of them with surrogates in it. -/
structure BrokenList where
  items : List (List Part)
  isBroken : items.mapM Part.text? = none
deriving DecidableEq, Repr

/-- A text of characters and surrogates, as characters. -/
structure Stored where
  chars : List Char
deriving DecidableEq, Repr

namespace Stored

/-- What announces a surrogate. -/
def mark : Char := Char.ofNat 0x10FFFF

/-- The private character that is kept for a surrogate. -/
def privateChar (k : Fin 0x800) : Char := Char.ofNat (0x100000 + k.val)

/-- The surrogate that a private character is kept for. -/
def surrogate? (c : Char) : Option (Fin 0x800) :=
  if h : 0x100000 ≤ c.toNat ∧ c.toNat < 0x100800 then some ⟨c.toNat - 0x100000, by omega⟩ else none

/-- How a part is kept as characters. -/
def keep : Part → List Char
  | .char c => if c = mark then [c, c] else [c]
  | .surrogate k => [mark, privateChar k]

def ofParts (ps : List Part) : Stored := ⟨ps.flatMap keep⟩

def ofChars (cs : List Char) : Stored := ofParts (cs.map .char)

def ofText (s : String) : Stored := ofChars s.toList

/-- The parts that `cs` is kept for. -/
def partsOf : List Char → List Part
  | [] => []
  | [c] => [.char c]
  | c :: d :: cs =>
    if c = mark then (((surrogate? d).map Part.surrogate).getD (.char c)) :: partsOf cs
    else .char c :: partsOf (d :: cs)

/-- The characters and surrogates of a text. -/
def parts (s : Stored) : List Part := partsOf s.chars

/-- The text itself, if there are no surrogates in it. -/
def text? (s : Stored) : Option String := Part.text? s.parts

end Stored

end Scaffold.Text
