/-!
# Binary floating-point numbers

The finite numbers of the 64-bit binary format, as a sign, a significand below `2 ^ 53` and a power of two,
together with rounding of ratios to the nearest such number and the two operations that reading decimals needs.
-/

namespace TableScript

/-- The number `± significand * 2 ^ exponent`. -/
structure Binary64 where
  negative : Bool
  significand : Nat
  exponent : Int
  deriving DecidableEq, Repr

namespace Binary64

/-- The least exponent of the format. -/
def minExponent : Int := -1074

/-- The greatest exponent of the format. -/
def maxExponent : Int := 971

def zero (negative : Bool) : Binary64 := ⟨negative, 0, minExponent⟩

def isZero (x : Binary64) : Bool := x.significand = 0

/-- The nearest natural number to `num / den`, a half going to the even neighbour. -/
def roundQuotient (num den : Nat) : Nat :=
  let q := num / den
  let r := num % den
  if 2 * r < den then q else if den < 2 * r then q + 1 else q + q % 2

/-- The ratio `num / den` in units of `2 ^ exponent`, as a ratio. -/
def inUnits (num den : Nat) (exponent : Int) : Nat × Nat :=
  if 0 ≤ exponent then (num, den * Nat.pow 2 exponent.toNat) else (num * Nat.pow 2 (-exponent).toNat, den)

/-- The exponent at which `num / den` has a significand of 53 bits, but at least the least exponent. -/
def exponentFor (num den : Nat) : Int :=
  let estimate := max minExponent ((num.log2 : Int) - den.log2 - 53)
  let (n, d) := inUnits num den estimate
  if n / d < Nat.pow 2 53 then estimate else estimate + 1

/-- The number of the format nearest to `num / den`, ties to even; none when that is infinite. -/
def ofRatio? (negative : Bool) (num den : Nat) : Option Binary64 :=
  if num = 0 then some (zero negative)
  else
    let exponent := exponentFor num den
    let (n, d) := inUnits num den exponent
    let significand := roundQuotient n d
    let (significand, exponent) :=
      if significand < Nat.pow 2 53 then (significand, exponent) else (significand / 2, exponent + 1)
    if exponent ≤ maxExponent then some ⟨negative, significand, exponent⟩ else none

/-- The magnitude of a number as a ratio. -/
def ratio (x : Binary64) : Nat × Nat :=
  if 0 ≤ x.exponent then (x.significand * Nat.pow 2 x.exponent.toNat, 1)
  else (x.significand, Nat.pow 2 (-x.exponent).toNat)

/-- The product of two numbers, rounded. -/
def mul? (x y : Binary64) : Option Binary64 :=
  let (a, b) := x.ratio
  let (c, d) := y.ratio
  ofRatio? (x.negative != y.negative) (a * c) (b * d)

/-- The quotient of two numbers, rounded; the divisor is not zero. -/
def div? (x y : Binary64) : Option Binary64 :=
  let (a, b) := x.ratio
  let (c, d) := y.ratio
  ofRatio? (x.negative != y.negative) (a * d) (b * c)

/-- The number nearest to `10 ^ k`, for `k ≤ 308`. -/
def powerOfTen (k : Nat) : Binary64 :=
  (ofRatio? false (Nat.pow 10 k) 1).getD (zero false)

/-- Divides by `10 ^ k` in steps of at most 308 powers, rounding after each. -/
def divPowerOfTen (x : Binary64) (k : Nat) : Binary64 :=
  if k ≤ 308 then (x.div? (powerOfTen k)).getD (zero false)
  else if x.isZero then x
  else divPowerOfTen ((x.div? (powerOfTen 308)).getD (zero false)) (k - 308)
termination_by k

/-- The decimal `digits * 10 ^ exponent` as quick readers read it: the digits are rounded first, and the result
is multiplied by or divided by a rounded power of ten.  None when the number is too large. -/
def scale? (digits : Nat) (exponent : Int) : Option Binary64 :=
  match ofRatio? false digits 1 with
  | none => none
  | some x =>
    if exponent < 0 then some (divPowerOfTen x (-exponent).toNat)
    else if exponent ≤ 308 then x.mul? (powerOfTen exponent.toNat)
    else if x.isZero then some x
    else none

/-- The decimal `digits * 10 ^ exponent`, rounded once.  None when the number is too large. -/
def ofDecimal? (negative : Bool) (digits : Nat) (exponent : Int) : Option Binary64 :=
  let magnitude := (digits.log2 : Int) * 3 / 10 + exponent
  if digits = 0 || magnitude < -400 then some (zero negative)
  else if 400 < magnitude then none
  else if 0 ≤ exponent then ofRatio? negative (digits * Nat.pow 10 exponent.toNat) 1
  else ofRatio? negative digits (Nat.pow 10 (-exponent).toNat)

end Binary64

end TableScript
