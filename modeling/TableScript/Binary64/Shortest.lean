import TableScript.Binary64

/-!
# Shortest decimals

The decimal with the fewest digits that is read back as a given number, and among those of that length the one
nearest to it.  Two of them can be equally near; a `Tie` says which of them counts.
-/

namespace TableScript

/-- The decimal `0.d₁d₂… * 10 ^ point`. -/
structure ShortDecimal where
  digits : List Nat
  point : Int
  deriving Repr

/-- Which of two decimals half a unit away counts. -/
inductive Tie where
  | even
  | up
  deriving DecidableEq, Repr

namespace Binary64

/-- Whether the decimal `n * 10 ^ e` lies in the interval that rounds to the positive number `x`.  The interval
reaches half way to the neighbours and holds its ends when the significand is even. -/
def roundsTo (x : Binary64) (n : Nat) (e : Int) : Bool :=
  -- everything in units of `2 ^ (exponent - 2)`, times the power of ten of the denominator
  let unit := x.exponent - 2
  let upper := 4 * x.significand + 2
  let narrow := x.significand = Nat.pow 2 52 ∧ minExponent < x.exponent
  let lower := 4 * x.significand - (if narrow then 1 else 2)
  let scaleTwo := fun k : Nat => if 0 ≤ unit then k * Nat.pow 2 unit.toNat else k
  let value := (if 0 ≤ unit then n else n * Nat.pow 2 (-unit).toNat) * (if 0 ≤ e then Nat.pow 10 e.toNat else 1)
  let tens := if 0 ≤ e then 1 else Nat.pow 10 (-e).toNat
  let lower := scaleTwo lower * tens
  let upper := scaleTwo upper * tens
  if x.significand % 2 = 0 then lower ≤ value && value ≤ upper else lower < value && value < upper

/-- The greatest `n` with `n * 10 ^ e ≤ x`, and whether the next decimal is nearer to `x` or wins the tie. -/
def floorAt (tie : Tie) (x : Binary64) (e : Int) : Nat × Bool :=
  let (num, den) := x.ratio
  let (num, den) := if 0 ≤ e then (num, den * Nat.pow 10 e.toNat) else (num * Nat.pow 10 (-e).toNat, den)
  let n := num / den
  let half := 2 * (num % den)
  (n, den < half || (den = half && (tie = .up || n % 2 = 1)))

/-- The decimal of grid `10 ^ e` nearest to `x` that is read back as `x`, if there is one. -/
def onGrid? (tie : Tie) (x : Binary64) (e : Int) : Option Nat :=
  let (n, up) := x.floorAt tie e
  let (first, second) := if up then (n + 1, n) else (n, n + 1)
  if first ≠ 0 ∧ x.roundsTo first e then some first
  else if second ≠ 0 ∧ x.roundsTo second e then some second
  else none

/-- The decimal exponent of a positive number: the least `k` with `x < 10 ^ k`. -/
def decimalExponent (x : Binary64) : Int :=
  let (num, den) := x.ratio
  let estimate : Int := ((num.log2 : Int) - den.log2 - 1) * 30103 / 100000
  -- the estimate is at most two below
  let below := fun k : Int =>
    if 0 ≤ k then num < den * Nat.pow 10 k.toNat else num * Nat.pow 10 (-k).toNat < den
  if below estimate then estimate
  else if below (estimate + 1) then estimate + 1
  else if below (estimate + 2) then estimate + 2
  else estimate + 3

/-- Searches the grids from the coarsest on; `n` of them are left. -/
def searchGrids (tie : Tie) (x : Binary64) (point : Int) : Nat → Nat × Int
  | 0 => (0, point - 17)
  | left + 1 =>
    let e := point - (17 - left)
    match x.onGrid? tie e with
    | some n => (n, e)
    | none => searchGrids tie x point left

/-- The digits of a positive number, without the zeros at its end, and how many zeros those were. -/
def stripZeros (fuel n : Nat) : Nat × Nat :=
  match fuel with
  | 0 => (n, 0)
  | fuel + 1 => if n ≠ 0 ∧ n % 10 = 0 then
      let (m, k) := stripZeros fuel (n / 10)
      (m, k + 1)
    else (n, 0)

def digitsOf (n : Nat) : List Nat :=
  if n < 10 then [n] else digitsOf (n / 10) ++ [n % 10]

/-- The shortest decimal that is read back as the magnitude of a number. -/
def shortest (tie : Tie) (x : Binary64) : ShortDecimal :=
  if x.isZero then ⟨[0], 1⟩
  else
    let (n, e) := searchGrids tie x x.decimalExponent 17
    let (n, zeros) := stripZeros 20 n
    let digits := digitsOf n
    ⟨digits, e + zeros + digits.length⟩

end Binary64

end TableScript
