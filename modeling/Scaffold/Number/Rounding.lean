/-!
# Rounding to the nearest

Quotients of natural numbers rounded to the nearest natural number; a quotient halfway between two
goes to the even one.
-/

namespace Scaffold.Number

/-- `num / den` rounded to the nearest, halves to even. -/
def roundDiv (num den : Nat) : Nat :=
  let q := num / den
  let r := num % den
  if 2 * r < den then q
  else if den < 2 * r then q + 1
  else if q % 2 = 0 then q else q + 1

end Scaffold.Number
