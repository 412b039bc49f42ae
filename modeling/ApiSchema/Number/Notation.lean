import ApiSchema.Number.Shortest

/-!
# Decimal notation

How numbers are written.  A double is plain when its leading digit stands between `10 ^ -5` and
`10 ^ 15`, and then has at least one decimal; else it has an exponent with a sign.
-/

namespace ApiSchema.Number

def digitsOf (n : Nat) : List Char := Nat.toDigits 10 n

/-- The least exponent of the leading digit that is written plainly. -/
def leastPlain : Int := -5

/-- The least exponent of the leading digit from which on an exponent is written. -/
def leastLarge : Int := 16

/-- Plain text: the digits with a point before the last `-exponent` of them. -/
def plainText (digits : List Char) (exponent : Int) : List Char :=
  if 0 ≤ exponent then digits ++ List.replicate exponent.toNat '0' ++ ['.', '0']
  else
    let places := (-exponent).toNat
    let padded := List.replicate (places + 1 - digits.length) '0' ++ digits
    padded.take (padded.length - places) ++ '.' :: padded.drop (padded.length - places)

/-- Text with an exponent: one digit before the point, and no point if there are no more. -/
def exponentText (digits : List Char) (leading : Int) : List Char :=
  let rest := digits.drop 1
  digits.take 1 ++ (if rest.isEmpty then [] else '.' :: rest) ++
    ['e', if leading < 0 then '-' else '+'] ++ digitsOf leading.natAbs

def Decimal.text (d : Decimal) : List Char :=
  let digits := digitsOf d.digits
  let leading := d.exponent + digits.length - 1
  if leastPlain ≤ leading && leading < leastLarge then plainText digits d.exponent
  else exponentText digits leading

def Double.text (x : Double) : List Char :=
  (if x.isNegative then ['-'] else []) ++ x.shortest.text

def intText (n : Int) : List Char :=
  (if n < 0 then ['-'] else []) ++ digitsOf n.natAbs

end ApiSchema.Number
