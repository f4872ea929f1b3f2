import Scaffold.Number.Text

/-!
# Numerals

Numbers from their decimal texts. A numeral with a point or an exponent is a double, any other an
integer.
-/

namespace Scaffold.Number

/-- The number that digits of a base stand for. -/
def ofDigits (base : Nat) (digits : List Nat) : Nat := digits.foldl (fun n d => n * base + d) 0

/-- The number that decimal digits stand for. -/
def ofDecimalDigits (cs : List Char) : Nat := ofDigits 10 (cs.map fun c => c.toNat - '0'.toNat)

/-- The exponent at the start of `cs`, or none. -/
def exponentOf : List Char → Int
  | _ :: '-' :: ds => -(ofDecimalDigits ds : Int)
  | _ :: '+' :: ds => ofDecimalDigits ds
  | _ :: ds => ofDecimalDigits ds
  | [] => 0

/-- The number that an unsigned numeral stands for. -/
def ofUnsigned (negative : Bool) (cs : List Char) : Number :=
  let whole := cs.takeWhile Char.isDigit
  let rest := cs.dropWhile Char.isDigit
  let fraction := match rest with
    | '.' :: ds => ds.takeWhile Char.isDigit
    | _ => []
  let exponent := match rest with
    | '.' :: ds => ds.dropWhile Char.isDigit
    | _ => rest
  if rest.isEmpty then
    let n : Int := ofDecimalDigits whole
    .integer (if negative then -n else n)
  else
    .double (.ofDecimal negative (ofDecimalDigits (whole ++ fraction))
      (exponentOf exponent - fraction.length))

/-- The number that a numeral stands for. -/
def ofNumeral (s : String) : Number :=
  match s.toList with
  | '-' :: cs => ofUnsigned true cs
  | '+' :: cs => ofUnsigned false cs
  | cs => ofUnsigned false cs

end Scaffold.Number
