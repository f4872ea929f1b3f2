import Scaffold.Number.Rounding

/-!
# Double precision numbers

A finite double is a natural mantissa below 2^53 times a power of two, with a sign. Quotients are
rounded to the nearest double, halves to even, and become infinite beyond the largest one.
-/

namespace Scaffold.Number

/-- `±mantissa · 2 ^ exponent`, or an infinity. -/
inductive Double
  | finite (negative : Bool) (mantissa : Nat) (exponent : Int)
  | infinite (negative : Bool)
deriving DecidableEq, Repr

namespace Double

/-- `base ^ k`, or one for a negative exponent: the part of a power above a fraction line, of which
`power base (-k)` is the part below. -/
def power (base : Nat) (k : Int) : Nat := Nat.pow base k.toNat

/-- What the mantissa of a double stays below. -/
def bound : Nat := power 2 53

/-- The least mantissa with all its bits. -/
def fullMantissa : Nat := power 2 52

/-- The least exponent of a finite double. -/
def minExponent : Int := -1074

/-- The greatest exponent of a finite double. -/
def maxExponent : Int := 971

/-- The exponent for `num / den`: the least one over which the quotient stays below 2^53, and no
less than the least exponent of all. -/
def exponentFor (num den : Nat) : Int :=
  let guess : Int := (Nat.log2 num : Int) - (Nat.log2 den : Int) - 53
  let fits := num * power 2 (-guess) < bound * den * power 2 guess
  max (if fits then guess else guess + 1) minExponent

/-- The double nearest to `±num / den`, for `0 < den`. -/
def ofQuotient (negative : Bool) (num den : Nat) : Double :=
  if num = 0 then finite negative 0 minExponent
  else
    let e := exponentFor num den
    let m := roundDiv (num * power 2 (-e)) (den * power 2 e)
    let (m, e) := if m = bound then (fullMantissa, e + 1) else (m, e)
    if maxExponent < e then infinite negative else finite negative m e

/-- The double nearest to `±digits · 10 ^ scale`. What is far beyond all doubles needs no quotient. -/
def ofDecimal (negative : Bool) (digits : Nat) (scale : Int) : Double :=
  let magnitude : Int := (Nat.toDigits 10 digits).length + scale
  if digits = 0 ∨ magnitude < -330 then finite negative 0 minExponent
  else if 310 < magnitude then infinite negative
  else ofQuotient negative (digits * power 10 scale) (power 10 (-scale))

/-- The double nearest to `n · 2 ^ e`. -/
def ofInt (n : Int) (e : Int) : Double :=
  ofQuotient (n < 0) (n.natAbs * power 2 e) (power 2 (-e))

/-- The mantissa with its sign. -/
def signed (negative : Bool) (m : Nat) : Int := if negative then -m else m

def neg : Double → Double
  | finite negative m e => finite (!negative) m e
  | infinite negative => infinite (!negative)

/-- The double nearest to a sum. An infinity absorbs what is added to it. -/
def add : Double → Double → Double
  | infinite negative, _ => infinite negative
  | _, infinite negative => infinite negative
  | finite a m e, finite b n f =>
    let low := min e f
    let sum := signed a m * power 2 (e - low) + signed b n * power 2 (f - low)
    if sum = 0 then finite (a && b) 0 minExponent else ofInt sum low

/-- The double nearest to a product with a natural number. -/
def scale (k : Nat) : Double → Double
  | infinite negative => infinite negative
  | finite negative m e =>
    if m * k = 0 then finite negative 0 minExponent else ofInt (signed negative (m * k)) e

/-- Rounds to `places` decimal places, halves of the exact value to even. -/
def round (places : Nat) : Double → Double
  | infinite negative => infinite negative
  | finite negative m e =>
    ofQuotient negative (roundDiv (m * power 10 places * power 2 e) (power 2 (-e))) (power 10 places)

end Double

end Scaffold.Number
