import Scaffold.Number.Shortest

/-!
# Number texts

Integers are written in decimal, unless they have too many digits for it. A double is written with
its shortest decimal: positionally when its first digit stands between the fourth place after the
point and the sixteenth before it, and otherwise with an exponent of at least two digits. A whole
double keeps `.0`.
-/

namespace Scaffold

/-- The numbers of plain data. -/
inductive Number
  | integer (n : Int)
  | double (d : Number.Double)
deriving DecidableEq, Repr

namespace Number

/-- The most decimal digits that an integer is read or written with. -/
def maxDigits : Nat := 4300

/-- What is said of an integer with too many digits. Of one that is read it is told how many. -/
def tooManyDigits (count : Option Nat) : String :=
  let detail := match count with
    | some n => s!": value has {n} digits"
    | none => ""
  s!"Exceeds the limit ({maxDigits} digits) for integer string conversion" ++ detail ++
    "; use sys.set_int_max_str_digits() to increase the limit"

/-- Does a number have few enough digits to be written? A double always does. -/
def isWritable : Number → Bool
  | integer n => (Nat.toDigits 10 n.natAbs).length ≤ maxDigits
  | double _ => true

/-- The least natural number with more than `count` decimal digits. -/
@[irreducible] def leastBeyond (count : Nat) : Nat := Nat.pow 10 count

theorem not_length_toDigits_le_iff {count n : Nat} (hcount : 0 < count) :
    ¬ (Nat.toDigits 10 n).length ≤ count ↔ leastBeyond count ≤ n := by
  rw [Nat.length_toDigits_le_iff (by decide) hcount, Nat.not_lt, leastBeyond]
  exact Iff.rfl

theorem isWritable_eq_false_iff {n : Int} :
    (integer n).isWritable = false ↔ leastBeyond maxDigits ≤ n.natAbs := by
  have hcount : 0 < maxDigits := by decide
  rw [isWritable, decide_eq_false_iff_not, not_length_toDigits_le_iff hcount]

/-- The decimal digits of `n`, without trailing zeros, and the number of zeros dropped. -/
def significant (n : Nat) : List Char × Nat :=
  let digits := (Nat.toDigits 10 n).reverse
  let zeros := (digits.takeWhile (· == '0')).length
  ((digits.drop zeros).reverse, zeros)

/-- The text of `0.d₁d₂… · 10 ^ point`. -/
def layout (digits : List Char) (point : Int) : List Char :=
  if -4 < point ∧ point ≤ 0 then
    '0' :: '.' :: (List.replicate (-point).toNat '0' ++ digits)
  else if 0 < point ∧ point ≤ 16 then
    let p := point.toNat
    if digits.length ≤ p then digits ++ List.replicate (p - digits.length) '0' ++ ['.', '0']
    else digits.take p ++ '.' :: digits.drop p
  else
    let e := point - 1
    let mantissa := match digits with
      | [] => []
      | [d] => [d]
      | d :: ds => d :: '.' :: ds
    let size := Nat.toDigits 10 e.natAbs
    mantissa ++ 'e' :: (if e < 0 then '-' else '+') ::
      (if size.length < 2 then '0' :: size else size)

/-- The text of a double. -/
def Double.text : Double → String
  | infinite negative => if negative then "-inf" else "inf"
  | finite negative m e =>
    let sign := if negative then "-" else ""
    if m = 0 then sign ++ "0.0"
    else
      let d := shortest m e
      let (digits, zeros) := significant d.digits
      sign ++ String.ofList (layout digits (digits.length + zeros + d.scale))

def text : Number → String
  | integer n => toString n
  | double d => d.text

/-- Rounds to three decimal places; an integer stays what it is. -/
def toThousandths : Number → Number
  | integer n => integer n
  | double d => double (d.round 3)

end Number

end Scaffold
