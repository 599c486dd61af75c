import JournalSite.Number.Binary64

/-!
# The shortest decimal form of a number

A double-precision number is written with the fewest digits that still read back
as the same number; of several such decimals the nearest to the number is taken.
The numbers that read back as `x` form an interval around it that reaches half-way
to its two neighbours, ends included when the mantissa is even.

Decimals from `0.00001` to below `10 ^ 16` are written in positions, with at least
one digit after the point. All others have one digit before the point and an
exponent, whose sign is always written.
-/

namespace JournalSite

namespace Binary64

/-- A decimal `digits · 10 ^ exponent`. -/
structure Decimal where
  /-- The digits as a whole number. -/
  digits : Nat
  /-- The power of ten. -/
  exponent : Int
  deriving DecidableEq, Repr

/-- The numerator of a decimal as a fraction of whole numbers. -/
def Decimal.numerator (d : Decimal) : Nat := d.digits * Nat.pow 10 d.exponent.toNat

/-- The denominator of a decimal as a fraction of whole numbers. -/
def Decimal.denominator (d : Decimal) : Nat := Nat.pow 10 (-d.exponent).toNat

/-- Whether a decimal reads back as `x`: whether it lies between the half-way points to the
neighbours of `x`. The neighbour below a power of two is half as far away. -/
def readsBack (x : Binary64) (d : Decimal) : Bool :=
  let below := if x.mantissa = Nat.pow 2 52 ∧ -1074 < x.exponent then 1 else 2
  -- All in units of a quarter of the last place of `x`.
  let low := 4 * x.mantissa - below
  let high := 4 * x.mantissa + 2
  let left := d.numerator * 4 * x.denominator
  let unit := d.denominator * Nat.pow 2 x.exponent.toNat
  if x.mantissa % 2 = 0 then low * unit ≤ left && left ≤ high * unit
  else low * unit < left && left < high * unit

/-- The greatest `k` with `10 ^ k ≤ x`, for positive `x`. -/
def floorLog10 (x : Binary64) : Int :=
  let n := x.numerator
  let d := x.denominator
  if d ≤ n then ((Nat.toDigits 10 (n / d)).length : Int) - 1
  else
    let places := (Nat.toDigits 10 (d / n)).length
    if d ≤ n * Nat.pow 10 (places - 1) then -((places : Int) - 1) else -(places : Int)

/-- The decimal of so many digits that reads back as `x`: of the two next to `x` the nearer one
that does. -/
def decimalWith? (x : Binary64) (places : Nat) : Option Decimal :=
  let exponent := x.floorLog10 - (places : Int) + 1
  let n := x.numerator * Nat.pow 10 (-exponent).toNat
  let d := x.denominator * Nat.pow 10 exponent.toNat
  let lower : Decimal := ⟨n / d, exponent⟩
  let upper : Decimal := ⟨n / d + 1, exponent⟩
  let lowerIsNearer := 2 * (n % d) < d || (2 * (n % d) == d && n / d % 2 == 0)
  match readsBack x lower, readsBack x upper with
  | true, true => some (if lowerIsNearer then lower else upper)
  | true, false => some lower
  | false, true => some upper
  | false, false => none

/-- The shortest decimal that reads back as `x`. Seventeen digits always do. -/
def shortest (x : Binary64) : Decimal :=
  ((List.range' 1 17).findSome? (decimalWith? x)).getD ⟨0, 0⟩

/-- The decimal without the zeros its digits end with. -/
def stripped (digits : List Char) : List Char :=
  (digits.reverse.dropWhile (· == '0')).reverse

/-- A decimal in writing, from its digits without zeros at the end and the place of the point:
the value is `0.digits · 10 ^ point`. -/
def written (digits : List Char) (point : Int) : List Char :=
  let count : Int := digits.length
  if count ≤ point ∧ point ≤ 16 then
    digits ++ List.replicate (point - count).toNat '0' ++ ['.', '0']
  else if 0 < point ∧ point ≤ 16 then
    digits.take point.toNat ++ '.' :: digits.drop point.toNat
  else if -5 < point ∧ point ≤ 0 then
    '0' :: '.' :: (List.replicate (-point).toNat '0' ++ digits)
  else
    let exponent := point - 1
    let mantissa := match digits with
      | [] => []
      | [d] => [d]
      | d :: rest => d :: '.' :: rest
    mantissa ++ 'e' :: (if exponent < 0 then '-' else '+') :: Nat.toDigits 10 exponent.natAbs

/-- A number in its shortest form. -/
def text (x : Binary64) : String :=
  if x.isZero then "0.0"
  else
    let d := x.shortest
    let all := Nat.toDigits 10 d.digits
    String.ofList (written (stripped all) (d.exponent + all.length))

end Binary64

end JournalSite
