import Scaffold.Number.Numeral
import Scaffold.Text.Blank
import Scaffold.Text.Digit
import Scaffold.Text.Hex

/-!
# Literals of numbers

Numbers as a person may type them: with blanks around them, with a sign, and with the digits of any
script. An integer may have a letter for its base, and a number that is not whole may be infinite or
none at all.
-/

namespace Scaffold.Number

/-- A sign at the start of `cs`: is it negative, and what follows? -/
def splitSign : List Char → Bool × List Char
  | '-' :: cs => (true, cs)
  | '+' :: cs => (false, cs)
  | cs => (false, cs)

/-- The letter that may follow a zero to announce digits of a base. -/
def baseLetter? : Nat → Option Char
  | 2 => some 'b'
  | 8 => some 'o'
  | 16 => some 'x'
  | _ => none

/-- `cs` without a zero and the letter of a base. -/
def dropBase (base : Nat) : List Char → List Char
  | '0' :: c :: cs => if baseLetter? base = some c.toLower then cs else '0' :: c :: cs
  | cs => cs

/-- The value of a digit below a base. -/
def digitValue? (base : Nat) (c : Char) : Option Nat := (Text.hexValue? c).filter (· < base)

/-- The integer that a literal in some base stands for. -/
def ofLiteral? (base : Nat) (cs : List Char) : Option Int := do
  let (negative, cs) := splitSign ((Text.trim cs).map Text.asciiDigit)
  let digits ← (dropBase base cs).mapM (digitValue? base)
  if digits.isEmpty then none
  let n : Int := ofDigits base digits
  return if negative then -n else n

/-- The exponent in `cs`, which may be missing. -/
def exponentOf? : List Char → Option Int
  | [] => some 0
  | e :: cs =>
    let (negative, ds) := splitSign cs
    if e.toLower ≠ 'e' ∨ ds.isEmpty ∨ !ds.all Char.isDigit then none
    else
      let n : Int := ofDecimalDigits ds
      some (if negative then -n else n)

/-- The double that an unsigned decimal literal stands for. -/
def doubleOf? (negative : Bool) (cs : List Char) : Option Double := do
  let whole := cs.takeWhile Char.isDigit
  let rest := cs.dropWhile Char.isDigit
  let fraction := match rest with
    | '.' :: ds => ds.takeWhile Char.isDigit
    | _ => []
  let exponent ← exponentOf? (match rest with
    | '.' :: ds => ds.dropWhile Char.isDigit
    | _ => rest)
  if whole.isEmpty ∧ fraction.isEmpty then none
  return .ofDecimal negative (ofDecimalDigits (whole ++ fraction)) (exponent - fraction.length)

/-- What a literal of a number stands for: a double, or no number. -/
inductive Real
  | double (d : Double)
  | undefined
deriving DecidableEq, Repr

namespace Real

def text : Real → String
  | double d => d.text
  | undefined => "nan"

def neg : Real → Real
  | double d => double d.neg
  | undefined => undefined

def add : Real → Real → Real
  | double a, double b => double (a.add b)
  | _, _ => undefined

def scale (k : Nat) : Real → Real
  | double d => double (d.scale k)
  | undefined => undefined

/-- What a literal stands for. -/
def ofLiteral? (cs : List Char) : Option Real :=
  let (negative, cs) := splitSign ((Text.trim cs).map Text.asciiDigit)
  match String.ofList (cs.map Char.toLower) with
  | "inf" => some (double (.infinite negative))
  | "infinity" => some (double (.infinite negative))
  | "nan" => some undefined
  | _ => (doubleOf? negative cs).map double

end Real

end Scaffold.Number
