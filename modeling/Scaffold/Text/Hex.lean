/-!
# Hexadecimal text

Code points written with a fixed least number of hexadecimal digits.
-/

namespace Scaffold.Text

/-- Letter case of the digits above nine. -/
inductive HexCase
  | lower
  | upper
deriving DecidableEq, Repr

/-- The digit of value `d < 16`. -/
def hexDigit (case : HexCase) (d : Nat) : Char :=
  if d < 10 then Char.ofNat ('0'.toNat + d)
  else match case with
    | .lower => Char.ofNat ('a'.toNat + (d - 10))
    | .upper => Char.ofNat ('A'.toNat + (d - 10))

/-- The last `width` hexadecimal digits of `n`, most significant first. -/
def hexDigits (case : HexCase) : (width n : Nat) → List Char
  | 0, _ => []
  | width + 1, n => hexDigits case width (n / 16) ++ [hexDigit case (n % 16)]

/-- The value of a hexadecimal digit of either case. -/
def hexValue? (c : Char) : Option Nat :=
  if '0' ≤ c ∧ c ≤ '9' then some (c.toNat - '0'.toNat)
  else if 'a' ≤ c ∧ c ≤ 'f' then some (c.toNat - 'a'.toNat + 10)
  else if 'A' ≤ c ∧ c ≤ 'F' then some (c.toNat - 'A'.toNat + 10)
  else none

end Scaffold.Text
