/-!
# Base64

Four signs stand for three bytes. Signs outside the alphabet are skipped, and a text may end after
two or three signs if the missing ones are marked.
-/

namespace Scaffold.Text.Base64

/-- The value of a sign. -/
def value? (c : Char) : Option Nat :=
  if 'A' ≤ c ∧ c ≤ 'Z' then some (c.toNat - 'A'.toNat)
  else if 'a' ≤ c ∧ c ≤ 'z' then some (c.toNat - 'a'.toNat + 26)
  else if '0' ≤ c ∧ c ≤ '9' then some (c.toNat - '0'.toNat + 52)
  else if c = '+' then some 62
  else if c = '/' then some 63
  else none

/-- What is wrong with a text. -/
inductive Error
  | padding
  /-- One sign more than a multiple of four, with the number of signs. -/
  | signs (count : Nat)
deriving DecidableEq, Repr

def Error.message : Error → String
  | padding => "Incorrect padding"
  | signs count =>
    s!"Invalid base64-encoded string: number of data characters ({count}) cannot be 1 more " ++
      "than a multiple of 4"

/-- Signs as far as they are read: all of them, the number of those since the last whole group, and
the number of marks since the last sign. -/
structure Progress where
  values : List Nat := []
  position : Nat := 0
  pads : Nat := 0

/-- The bytes of some signs: eight bits of every six. -/
def bytes : List Nat → List UInt8
  | a :: b :: c :: d :: vs =>
    (a * 4 + b / 16).toUInt8 :: (b % 16 * 16 + c / 4).toUInt8 :: (c % 4 * 64 + d).toUInt8 :: bytes vs
  | [a, b, c] => [(a * 4 + b / 16).toUInt8, (b % 16 * 16 + c / 4).toUInt8]
  | [a, b] => [(a * 4 + b / 16).toUInt8]
  | _ => []

/-- The bytes of what is read, at the end of a text without the marks it needs. -/
def finish (p : Progress) : Except Error (List UInt8) :=
  if p.position = 0 then .ok (bytes p.values.reverse)
  else if p.position = 1 then .error (.signs p.values.length)
  else .error .padding

/-- Reads a text to its end, or to the last mark that it needs. -/
def decode.go (p : Progress) : List Char → Except Error (List UInt8)
  | [] => finish p
  | c :: cs =>
    match value? c with
    | some v => go ⟨v :: p.values, (p.position + 1) % 4, 0⟩ cs
    | none =>
      if c ≠ '=' ∨ p.position < 2 then go p cs
      else if 4 ≤ p.position + p.pads + 1 then .ok (bytes p.values.reverse)
      else go { p with pads := p.pads + 1 } cs

/-- The bytes that a text stands for. -/
def decode (cs : List Char) : Except Error (List UInt8) := decode.go {} cs

end Scaffold.Text.Base64
