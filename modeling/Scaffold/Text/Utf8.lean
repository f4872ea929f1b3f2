import Scaffold.Text.Hex

/-!
# Faults of UTF-8

Where bytes stop being UTF-8, and why.
-/

namespace Scaffold.Text

namespace Utf8

/-- Why bytes are no UTF-8. -/
inductive Cause
  /-- No character starts with this byte. -/
  | start
  /-- The byte after these does not continue the character. -/
  | continuation
  /-- The bytes end inside a character. -/
  | ending
deriving DecidableEq, Repr

def Cause.message : Cause → String
  | start => "invalid start byte"
  | continuation => "invalid continuation byte"
  | ending => "unexpected end of data"

/-- A cause, with the bytes of the broken character and how many bytes there are before them. -/
structure Fault where
  cause : Cause
  position : Nat
  bytes : List UInt8
deriving DecidableEq, Repr

def Fault.message (f : Fault) : String :=
  let place := match f.bytes with
    | [b] => s!"byte 0x{String.ofList (hexDigits .lower 2 b.toNat)} in position {f.position}"
    | bs => s!"bytes in position {f.position}-{f.position + bs.length - 1}"
  s!"'utf-8' codec can't decode {place}: {f.cause.message}"

/-- What a character owes after some of its bytes: how many more, and the bounds of the next one. -/
structure Debt where
  count : Nat
  least : UInt8 := 0x80
  most : UInt8 := 0xBF

/-- What a character owes after its first byte. -/
def Debt.after? (b : UInt8) : Option Debt :=
  if b < 0x80 then some { count := 0 }
  else if b < 0xC2 then none
  else if b < 0xE0 then some { count := 1 }
  else if b = 0xE0 then some { count := 2, least := 0xA0 }
  else if b = 0xED then some { count := 2, most := 0x9F }
  else if b < 0xF0 then some { count := 2 }
  else if b = 0xF0 then some { count := 3, least := 0x90 }
  else if b < 0xF4 then some { count := 3 }
  else if b = 0xF4 then some { count := 3, most := 0x8F }
  else none

/-- The first fault of bytes that follow the first bytes `seen` of a character at `position`. -/
def fault?.go (position : Nat) (seen : List UInt8) (owed : Debt) : List UInt8 → Option Fault
  | [] => if seen.isEmpty then none else some ⟨.ending, position, seen⟩
  | b :: bs =>
    if seen.isEmpty then
      match Debt.after? b with
      | none => some ⟨.start, position, [b]⟩
      | some ⟨0, _, _⟩ => go (position + 1) [] owed bs
      | some debt => go position [b] debt bs
    else if b < owed.least ∨ owed.most < b then some ⟨.continuation, position, seen⟩
    else if owed.count = 1 then go (position + seen.length + 1) [] owed bs
    else go position (seen ++ [b]) { count := owed.count - 1 } bs

/-- The first fault of bytes, unless they are UTF-8. -/
def fault? (bs : List UInt8) : Option Fault := fault?.go 0 [] { count := 0 } bs

end Utf8

end Scaffold.Text
