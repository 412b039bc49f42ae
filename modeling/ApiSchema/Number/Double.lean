/-!
# Doubles

A double is kept as its 64 bits.  Its magnitude is a whole number of units of a power of two, and
`roundRatio` gives the nearest magnitude to a quotient, a half going to the even neighbour.  Decimal
text is read with the significand rounded first and a power of ten applied to it afterwards.
-/

namespace ApiSchema.Number

/-- A finite double. -/
structure Double where
  bits : UInt64
  deriving DecidableEq, Repr, Inhabited

/-- `count` units of size `2 ^ unit`. -/
structure Scaled where
  count : Nat
  unit : Int

/-- The quotient rounded to the nearest whole number, a half to the even one. -/
def roundDiv (num den : Nat) : Nat :=
  let low := num / den
  let twice := 2 * (num % den)
  if twice > den || (twice == den && low % 2 == 1) then low + 1 else low

/-- The bits, without sign, from which on a magnitude is infinite. -/
def infiniteBits : Nat := 2047 * Nat.pow 2 52

/-- The value of the magnitude with these bits. -/
def scaledOfBits (bits : Nat) : Scaled :=
  let exponent : Nat := bits / Nat.pow 2 52
  let fraction : Nat := bits % Nat.pow 2 52
  if exponent = 0 then ⟨fraction, -1074⟩ else ⟨fraction + Nat.pow 2 52, (exponent : Int) - 1075⟩

/-- The greatest `e` with `2 ^ e ≤ num / den`, for positive arguments. -/
def binaryExponent (num den : Nat) : Int :=
  let guess : Int := (num.log2 : Int) - (den.log2 : Int)
  if den * Nat.pow 2 guess.toNat ≤ num * Nat.pow 2 (-guess).toNat then guess else guess - 1

/-- The bits of the magnitude nearest to `num / den`; they can reach `infiniteBits`. -/
def roundRatio (num den : Nat) : Nat :=
  if num = 0 then 0
  else
    let unit := max (binaryExponent num den - 52) (-1074)
    let count := roundDiv (num * Nat.pow 2 (-unit).toNat) (den * Nat.pow 2 unit.toNat)
    (unit + 1074).toNat * Nat.pow 2 52 + count

/-- The bits of the magnitude nearest to a product. -/
def mulBits (a b : Nat) : Nat :=
  let x := scaledOfBits a
  let y := scaledOfBits b
  let unit := x.unit + y.unit
  roundRatio (x.count * y.count * Nat.pow 2 unit.toNat) (Nat.pow 2 (-unit).toNat)

/-- The bits of the magnitude nearest to a quotient. -/
def divBits (a b : Nat) : Nat :=
  let x := scaledOfBits a
  let y := scaledOfBits b
  let unit := x.unit - y.unit
  roundRatio (x.count * Nat.pow 2 unit.toNat) (y.count * Nat.pow 2 (-unit).toNat)

/-- The greatest power of ten that is a double. -/
def greatestTen : Nat := 308

/-- The bits of the magnitude nearest to `10 ^ n`. -/
def tenBits (n : Nat) : Nat := roundRatio (Nat.pow 10 n) 1

/-- The bits of `10 ^ exponent` times the magnitude with the given bits, one rounding at a time;
`none` when the result is infinite. -/
def applyTen (bits : Nat) (exponent : Int) : Option Nat :=
  if exponent.natAbs ≤ greatestTen then
    let result :=
      if 0 ≤ exponent then mulBits bits (tenBits exponent.natAbs)
      else divBits bits (tenBits exponent.natAbs)
    if result < infiniteBits then some result else none
  else if bits = 0 then some 0
  else if 0 ≤ exponent then none
  else applyTen (divBits bits (tenBits greatestTen)) (exponent + greatestTen)
termination_by exponent.natAbs
decreasing_by simp only [greatestTen] at *; omega

namespace Double

/-- The double with a sign and the bits of a magnitude. -/
def ofMagnitude (negative : Bool) (bits : Nat) : Double :=
  ⟨UInt64.ofNat (bits + if negative then Nat.pow 2 63 else 0)⟩

/-- The double read from `significand * 10 ^ exponent`; `none` when it is infinite. -/
def ofDecimal (negative : Bool) (significand : Nat) (exponent : Int) : Option Double :=
  (applyTen (roundRatio significand 1) exponent).map (ofMagnitude negative)

/-- The double nearest to a whole number. -/
def ofInt (n : Int) : Double := ofMagnitude (n < 0) (roundRatio n.natAbs 1)

/-- Is the sign bit set? -/
def isNegative (x : Double) : Bool := Nat.pow 2 63 ≤ x.bits.toNat

/-- The bits without the sign. -/
def magnitude (x : Double) : Nat := x.bits.toNat % Nat.pow 2 63

/-- The absolute value. -/
def scaled (x : Double) : Scaled := scaledOfBits x.magnitude

def isWhole (x : Double) : Bool :=
  0 ≤ x.scaled.unit || x.scaled.count % Nat.pow 2 (-x.scaled.unit).toNat == 0

/-- The value in units of the magnitude, with its sign. -/
def count (x : Double) : Int :=
  if x.isNegative then -(x.scaled.count : Int) else x.scaled.count

/-- Does the double have this whole value? -/
def equalsInt (x : Double) (n : Int) : Bool :=
  x.count * Nat.pow 2 x.scaled.unit.toNat == n * Nat.pow 2 (-x.scaled.unit).toNat

/-- Do two doubles have the same value?  The two zeros do. -/
def sameValue (x y : Double) : Bool :=
  x == y || (x.magnitude == 0 && y.magnitude == 0)

/-- The bits of the magnitude nearest to the difference of two doubles. -/
def distance (x y : Double) : Nat :=
  let unit := min x.scaled.unit y.scaled.unit
  let countOf (z : Double) : Int := z.count * Nat.pow 2 (z.scaled.unit - unit).toNat
  roundRatio ((countOf x - countOf y).natAbs * Nat.pow 2 unit.toNat) (Nat.pow 2 (-unit).toNat)

/-- The bits of the distance from one to the next double. -/
def stepAtOne : Nat := (1023 - 52) * Nat.pow 2 52

/-- Are two doubles closer to each other than one is to the next double? -/
def isNear (x y : Double) : Bool := x.distance y < stepAtOne

end Double

end ApiSchema.Number
