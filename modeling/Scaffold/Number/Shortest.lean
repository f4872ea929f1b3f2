import Scaffold.Number.Double

/-!
# Shortest decimals

The fewest significant digits whose decimal rounds back to a given double; of several such
decimals with the same number of digits, the one nearest to the double.
-/

namespace Scaffold.Number

/-- A positive decimal `digits · 10 ^ scale`. -/
structure Decimal where
  digits : Nat
  scale : Int
deriving DecidableEq, Repr

namespace Shortest

open Double (power)

/-- A positive number `num / den` with the bounds of the numbers that round to it, over the same
denominator. -/
structure Target where
  num : Nat
  low : Nat
  high : Nat
  den : Nat
  /-- The bounds themselves round to the number. -/
  closed : Bool

/-- The target of `m · 2 ^ e`, in quarters of a unit of the last bit. -/
def Target.of (m : Nat) (e : Int) : Target :=
  let up := power 2 (e - 2)
  let gap := if m = Double.fullMantissa ∧ Double.minExponent < e then 1 else 2
  ⟨4 * m * up, (4 * m - gap) * up, (4 * m + 2) * up, power 2 (2 - e), m % 2 = 0⟩

/-- `num / den < 10 ^ k`. -/
def below (num den : Nat) (k : Int) : Bool :=
  num * power 10 (-k) < den * power 10 k

/-- The least `k ≥ from`, within `fuel` steps, for which `num / den < 10 ^ k`. -/
def magnitude (num den : Nat) : (fuel : Nat) → (start : Int) → Int
  | 0, k => k
  | fuel + 1, k => if below num den k then k else magnitude num den fuel (k + 1)

/-- Does `d · 10 ^ s` round to the target? -/
def Target.accepts (t : Target) (d : Nat) (s : Int) : Bool :=
  let value := d * power 10 s * t.den
  let unit := power 10 (-s)
  if t.closed then t.low * unit ≤ value && value ≤ t.high * unit
  else t.low * unit < value && value < t.high * unit

/-- The better of the two neighbours of the target among the multiples of `10 ^ s`. -/
def Target.onGrid (t : Target) (s : Int) : Option Nat :=
  let num := t.num * power 10 (-s)
  let den := t.den * power 10 s
  let floor := num / den
  let near := roundDiv num den
  let other := if near = floor then floor + 1 else floor
  if t.accepts near s then some near else if t.accepts other s then some other else none

/-- Tries the grids for `n`, `n + 1`, … significant digits below `10 ^ k`. -/
def search (t : Target) (k : Int) : (fuel n : Nat) → Decimal
  | 0, n => ⟨roundDiv (t.num * power 10 (n - k)) (t.den * power 10 (k - n)), k - n⟩
  | fuel + 1, n =>
    match t.onGrid (k - n) with
    | some d => ⟨d, k - n⟩
    | none => search t k fuel (n + 1)

end Shortest

/-- The shortest decimal of `m · 2 ^ e`, for `0 < m`. -/
def shortest (m : Nat) (e : Int) : Decimal :=
  let t := Shortest.Target.of m e
  let bits : Int := Nat.log2 m + e
  -- `10 ^ (bits · 0.30103)` is at most one decade away from the value
  let guess := bits * 30103 / 100000 - 1
  Shortest.search t (Shortest.magnitude t.num t.den 4 guess) 16 1

end Scaffold.Number
