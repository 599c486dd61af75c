/-!
# Double-precision numbers

The finite numbers of the binary64 format that are not negative, as a mantissa
times a power of two. Arithmetic is exact up to the last step, which rounds to the
nearest number of the format and to the even mantissa half-way between two. A
result beyond the largest number is none.
-/

namespace JournalSite

/-- A number `mantissa · 2 ^ exponent` of the format. -/
structure Binary64 where
  /-- At most 53 bits. -/
  mantissa : Nat
  /-- At least -1074. -/
  exponent : Int
  deriving DecidableEq, Repr

namespace Binary64

/-- The quotient of two numbers, rounded to the nearest integer and half-way to the even one. -/
def roundedQuotient (n d : Nat) : Nat :=
  let q := n / d
  let twice := 2 * (n % d)
  if twice < d then q else if d < twice then q + 1 else q + q % 2

/-- The greatest `k` with `2 ^ k ≤ n / d`, for positive `n` and `d`. -/
def floorLog2 (n d : Nat) : Int :=
  let guess : Int := (Nat.log2 n : Int) - (Nat.log2 d : Int)
  if n * Nat.pow 2 (-guess).toNat < d * Nat.pow 2 guess.toNat then guess - 1 else guess

/-- The number nearest to `n / d`, and none if that is beyond the largest. -/
def ofRatio (n d : Nat) : Option Binary64 :=
  if n = 0 then some ⟨0, 0⟩
  else
    let exponent := max (floorLog2 n d - 52) (-1074)
    let mantissa := roundedQuotient (n * Nat.pow 2 (-exponent).toNat) (d * Nat.pow 2 exponent.toNat)
    let (mantissa, exponent) :=
      if mantissa = Nat.pow 2 53 then (Nat.pow 2 52, exponent + 1) else (mantissa, exponent)
    if 971 < exponent then none else some ⟨mantissa, exponent⟩

/-- The numerator of a number as a fraction of whole numbers. -/
def numerator (x : Binary64) : Nat := x.mantissa * Nat.pow 2 x.exponent.toNat

/-- The denominator of a number as a fraction of whole numbers. -/
def denominator (x : Binary64) : Nat := Nat.pow 2 (-x.exponent).toNat

/-- Whether the number is zero. -/
def isZero (x : Binary64) : Bool := x.mantissa == 0

/-- The product, rounded. -/
def mul (x y : Binary64) : Option Binary64 :=
  ofRatio (x.numerator * y.numerator) (x.denominator * y.denominator)

/-- The quotient by a number other than zero, rounded. -/
def div (x y : Binary64) : Option Binary64 :=
  ofRatio (x.numerator * y.denominator) (x.denominator * y.numerator)

/-- The number nearest to `10 ^ k`, for `k` up to 308. -/
def powerOfTen (k : Nat) : Binary64 :=
  (ofRatio (Nat.pow 10 k) 1).getD ⟨0, 0⟩

/-- Divides by `10 ^ k`, in steps of `10 ^ 308` and a last one for the rest, each of them rounded.
Zero stays zero. -/
def divPowerOfTen (x : Binary64) (k : Nat) : Option Binary64 :=
  if k ≤ 308 then x.div (powerOfTen k)
  else if x.isZero then some x
  else (x.div (powerOfTen 308)).bind fun y => divPowerOfTen y (k - 308)
termination_by k

/-- The number near `significand · 10 ^ exponent` that comes from rounding the significand and
then multiplying or dividing it by powers of ten. It need not be the nearest one. -/
def ofScaled (significand : Nat) (exponent : Int) : Option Binary64 := do
  let x ← ofRatio significand 1
  if exponent < 0 then x.divPowerOfTen (-exponent).toNat
  else if exponent ≤ 308 then x.mul (powerOfTen exponent.toNat)
  else if x.isZero then some x
  else none

end Binary64

end JournalSite
