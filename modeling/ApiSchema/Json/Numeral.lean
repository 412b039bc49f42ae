import ApiSchema.Json.Basic
import ApiSchema.Json.Malformed

/-!
# Reading numbers

A numeral has a whole part without needless zeros, and may have decimals and an exponent.  Without
both it is a whole number if that fits into 64 bits.  Of a significand only the digits that fit
into 64 bits count; a whole part's further digits raise the exponent.
-/

namespace ApiSchema.Json

open Number

def isDigitByte (b : UInt8) : Bool := 48 ≤ b && b ≤ 57

/-- The digit that a byte stands for. -/
def digitValue (b : UInt8) : Nat := b.toNat - 48

/-- The digits read so far: `value * 10 ^ exponent`, and whether no further digit fits. -/
structure Significand where
  value : Nat
  exponent : Int
  full : Bool

namespace Significand

def greatest : Nat := Nat.pow 2 64 - 1

def addWhole (s : Significand) (digit : Nat) : Significand :=
  if s.full then { s with exponent := s.exponent + 1 }
  else if greatest < s.value * 10 + digit then { s with exponent := 1, full := true }
  else { s with value := s.value * 10 + digit }

def addDecimal (s : Significand) (digit : Nat) : Significand :=
  if s.full then s
  else if greatest < s.value * 10 + digit then { s with full := true }
  else { s with value := s.value * 10 + digit, exponent := s.exponent - 1 }

end Significand

/-- The greatest exponent that is counted. -/
def greatestExponent : Nat := Nat.pow 2 31 - 1

/-- The exponent that a run of digits spells, or how many of them make it too great. -/
def readExponent (digits : List UInt8) : Except Nat Nat :=
  go 0 0 digits
where
  /-- Continues after some digits that spell `value`. -/
  go (used value : Nat) : List UInt8 → Except Nat Nat
    | [] => .ok value
    | d :: rest =>
      let next := value * 10 + digitValue d
      if greatestExponent < next then .error (used + 1) else go (used + 1) next rest

/-- The JSON number of a whole part without decimals and exponent. -/
def wholeNumber (negative : Bool) (value : Nat) : JsonNumber :=
  if !negative then .whole value
  else if value = 0 || Nat.pow 2 63 < value then
    .double (Double.ofMagnitude true (roundRatio value 1))
  else .whole (-(value : Int))

/-- The double of a significand and an exponent, read in `used` bytes. -/
def doubleNumber (negative : Bool) (s : Significand) (exponent : Int) (used : Nat) :
    Except FaultAt (JsonNumber × Nat) :=
  match Double.ofDecimal negative s.value (s.exponent + exponent) with
  | some x => .ok (.double x, used)
  | none => .error ⟨.numberOutOfRange, used⟩

/-- Reads what follows the `e` of an exponent, after `used` bytes. -/
def readExponentPart (negative : Bool) (s : Significand) (used : Nat) (bytes : List UInt8) :
    Except FaultAt (JsonNumber × Nat) :=
  let (down, signs, rest) : Bool × Nat × List UInt8 :=
    match bytes with
    | 43 :: rest => (false, 1, rest)
    | 45 :: rest => (true, 1, rest)
    | rest => (false, 0, rest)
  let digits := rest.takeWhile isDigitByte
  let finish := used + signs + digits.length
  if digits.isEmpty then
    if rest.isEmpty then .error ⟨.endInValue, finish⟩ else .error ⟨.invalidNumber, finish + 1⟩
  else
    match readExponent digits with
    | .ok exponent => doubleNumber negative s (if down then -exponent else exponent) finish
    | .error count =>
      if s.value ≠ 0 && !down then .error ⟨.numberOutOfRange, used + signs + count⟩
      else .ok (.double (Double.ofMagnitude negative 0), finish)

/-- Reads what follows the decimal point, after `used` bytes. -/
def readDecimals (negative : Bool) (s : Significand) (used : Nat) (bytes : List UInt8) :
    Except FaultAt (JsonNumber × Nat) :=
  let digits := bytes.takeWhile isDigitByte
  let rest := bytes.drop digits.length
  let finish := used + digits.length
  let significand := (digits.map digitValue).foldl Significand.addDecimal { s with full := false }
  if digits.isEmpty then
    if rest.isEmpty then .error ⟨.endInValue, finish⟩ else .error ⟨.invalidNumber, finish + 1⟩
  else
    match rest with
    | 69 :: more => readExponentPart negative significand (finish + 1) more
    | 101 :: more => readExponentPart negative significand (finish + 1) more
    | _ => doubleNumber negative significand 0 finish

/-- Reads the part of a numeral after its sign, after `used` bytes. -/
def readUnsigned (negative : Bool) (used : Nat) (bytes : List UInt8) :
    Except FaultAt (JsonNumber × Nat) :=
  let digits := bytes.takeWhile isDigitByte
  let rest := bytes.drop digits.length
  let finish := used + digits.length
  let significand := (digits.map digitValue).foldl Significand.addWhole ⟨0, 0, false⟩
  match digits with
  | [] => if bytes.isEmpty then .error ⟨.endInValue, used⟩ else .error ⟨.invalidNumber, used + 1⟩
  | 48 :: _ :: _ => .error ⟨.invalidNumber, used + 2⟩
  | _ =>
    match rest with
    | 46 :: more => readDecimals negative significand (finish + 1) more
    | 69 :: more => readExponentPart negative significand (finish + 1) more
    | 101 :: more => readExponentPart negative significand (finish + 1) more
    | _ =>
      if significand.full then doubleNumber negative significand 0 finish
      else .ok (wholeNumber negative significand.value, finish)

/-- Reads a numeral at the start of a text; the answer tells how many bytes it takes. -/
def readNumeral : List UInt8 → Except FaultAt (JsonNumber × Nat)
  | 45 :: rest => readUnsigned true 1 rest
  | bytes => readUnsigned false 0 bytes

end ApiSchema.Json
