import ApiSchema.Number.Double

/-!
# Shortest decimals

The decimal with the fewest digits among those that read back as a given double, and of these the
nearest to it.  The search goes through the decimal grids from one digit to seventeen; on each it
tests the two neighbours of the value in whole-number arithmetic.
-/

namespace ApiSchema.Number

/-- `digits * 10 ^ exponent`. -/
structure Decimal where
  digits : Nat
  exponent : Int
  deriving DecidableEq, Repr

/-- A value between the ends of the interval of numbers that round to it, all over one
denominator. -/
structure RoundingInterval where
  low : Nat
  value : Nat
  high : Nat
  den : Nat
  closed : Bool

/-- The interval of a positive magnitude; the lower half is narrower at a power of two. -/
def roundingInterval (x : Scaled) : RoundingInterval :=
  let unit := x.unit - 2
  let times := Nat.pow 2 unit.toNat
  let below := if x.count = Nat.pow 2 52 && -1074 < x.unit then 1 else 2
  { low := (4 * x.count - below) * times
    value := 4 * x.count * times
    high := (4 * x.count + 2) * times
    den := Nat.pow 2 (-unit).toNat
    closed := x.count % 2 == 0 }

/-- The same interval with all numbers divided by `10 ^ exponent`. -/
def RoundingInterval.inUnitsOfTen (i : RoundingInterval) (exponent : Int) : RoundingInterval :=
  let times := Nat.pow 10 (-exponent).toNat
  { i with
    low := i.low * times, value := i.value * times, high := i.high * times
    den := i.den * Nat.pow 10 exponent.toNat }

/-- Does the whole number lie in the interval? -/
def RoundingInterval.holds (i : RoundingInterval) (n : Nat) : Bool :=
  let m := n * i.den
  if i.closed then i.low ≤ m && m ≤ i.high else i.low < m && m < i.high

/-- The whole number in the interval that is nearest to its value, of the value's two neighbours;
a tie goes to the even one. -/
def RoundingInterval.nearest? (i : RoundingInterval) : Option Nat :=
  let below := i.value / i.den
  let above := below + 1
  match i.holds below, i.holds above with
  | false, false => none
  | true, false => some below
  | false, true => some above
  | true, true => some (roundDiv i.value i.den)

/-- The least `n` below the limit with `den ≤ num * 10 ^ n`. -/
def leadingZeros (num den : Nat) : Nat → Nat
  | 0 => 0
  | limit + 1 => if den ≤ num then 0 else leadingZeros (num * 10) den limit + 1

/-- The greatest `e` with `10 ^ e ≤ num / den`, for a value in the range of doubles. -/
def decimalExponent (num den : Nat) : Int :=
  if den ≤ num then ((Nat.toDigits 10 (num / den)).length : Int) - 1
  else -(leadingZeros num den 400 : Int)

/-- Moves the zeros at the end of the digits into the exponent. -/
def trimZeros : Nat → Decimal → Decimal
  | 0, d => d
  | limit + 1, d =>
    if d.digits % 10 = 0 then trimZeros limit ⟨d.digits / 10, d.exponent + 1⟩ else d

/-- Searches the grids with `count` digits and up to `more` digits more. -/
def searchGrids (i : RoundingInterval) (exponent : Int) (count : Nat) : Nat → Decimal
  | 0 => ⟨i.value / i.den, 0⟩
  | more + 1 =>
    let unit := exponent - count + 1
    match (i.inUnitsOfTen unit).nearest? with
    | some digits => ⟨digits, unit⟩
    | none => searchGrids i exponent (count + 1) more

/-- The shortest decimal that reads back as the absolute value of the double. -/
def Double.shortest (x : Double) : Decimal :=
  if x.magnitude = 0 then ⟨0, 0⟩
  else
    let i := roundingInterval x.scaled
    trimZeros 17 (searchGrids i (decimalExponent i.value i.den) 1 17)

end ApiSchema.Number
