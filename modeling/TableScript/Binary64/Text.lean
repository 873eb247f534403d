import TableScript.Binary64.Shortest
import TableScript.Text.Numeral

/-!
# Texts of floating-point numbers

A layout says which shortest decimals are written with a point and which with an exponent.
-/

namespace TableScript

/-- How a shortest decimal is laid out. -/
structure FloatLayout where
  /-- The least decimal exponent written without an exponent mark. -/
  leastPoint : Option Int
  /-- The greatest decimal exponent written without an exponent mark. -/
  greatestPoint : Option Int
  /-- Whether a whole number ends in `.0`. -/
  wholeSuffix : Bool
  /-- Which of two equally near decimals is written. -/
  tie : Tie

/-- Numbers from `10 ^ -5` up to `10 ^ 16` are written with a point, others with an exponent. -/
def FloatLayout.mixed : FloatLayout := ⟨some (-4), some 16, true, .even⟩

/-- Every number is written out, whole numbers without a point. -/
def FloatLayout.positional : FloatLayout := ⟨none, none, false, .up⟩

/-- Every number is written out with a point. -/
def FloatLayout.pointed : FloatLayout := ⟨none, none, true, .up⟩

namespace Binary64

private def digitChars (digits : List Nat) : List Char :=
  digits.map fun d => Char.ofNat ('0'.toNat + d)

/-- The text of a number in a layout. -/
def text (layout : FloatLayout) (x : Binary64) : String :=
  let ⟨digits, point⟩ := x.shortest layout.tie
  let sign := if x.negative then ['-'] else []
  let chars := digitChars digits
  let suffix := if layout.wholeSuffix then ['.', '0'] else []
  let positional := layout.leastPoint.all (· ≤ point) && layout.greatestPoint.all (point ≤ ·)
  let body :=
    if x.isZero then '0' :: suffix
    else if positional then
      if point ≤ 0 then '0' :: '.' :: List.replicate (-point).toNat '0' ++ chars
      else if chars.length ≤ point then
        chars ++ List.replicate (point.toNat - chars.length) '0' ++ suffix
      else chars.take point.toNat ++ '.' :: chars.drop point.toNat
    else
      let fraction := if chars.length ≤ 1 then [] else '.' :: chars.drop 1
      let exponent := point - 1
      let mark := if exponent < 0 then '-' else '+'
      chars.take 1 ++ fraction ++ 'e' :: mark :: Text.decimalChars exponent.natAbs
  String.ofList (sign ++ body)

end Binary64

end TableScript
