/-!
# Numerals

Unsigned decimal numerals: how they are read (an optional plus sign, then ASCII digits, below a bound), which texts
write a number with a fraction, and how numbers are written, in decimal and in hexadecimal.
-/

namespace TableScript.Text

/-- The value of an ASCII decimal digit. -/
def digitValue? (c : Char) : Option Nat :=
  if '0' ≤ c ∧ c ≤ '9' then some (c.toNat - '0'.toNat) else none

/-- Reads digits after those that make up `acc`; every character has to be a digit. -/
def readDigitsFrom (acc : Nat) : List Char → Option Nat
  | [] => some acc
  | c :: cs => match digitValue? c with
    | some d => readDigitsFrom (10 * acc + d) cs
    | none => none

/-- Reads one or more digits. -/
def readDigits : List Char → Option Nat
  | [] => none
  | cs => readDigitsFrom 0 cs

/-- Reads an unsigned numeral, with or without a plus sign, whose value is below `bound`. -/
def readUnsigned (bound : Nat) (s : String) : Option Nat :=
  let digits := match s.toList with
    | '+' :: cs => readDigits cs
    | cs => readDigits cs
  digits.filter (· < bound)

/-- Drops a sign. -/
def dropSign : List Char → List Char
  | '+' :: cs | '-' :: cs => cs
  | cs => cs

/-- Nothing, or a power of ten: the letter E, a sign or none, and digits. -/
def isPower : List Char → Bool
  | [] => true
  | c :: cs => (c = 'e' || c = 'E') && (readDigits (dropSign cs)).isSome

/-- Digits, a point before, behind or among them or none, and a power of ten or none. -/
def isDecimal (cs : List Char) : Bool :=
  let whole := cs.takeWhile Char.isDigit
  let (fraction, rest) := match cs.dropWhile Char.isDigit with
    | '.' :: cs => (cs.takeWhile Char.isDigit, cs.dropWhile Char.isDigit)
    | cs => ([], cs)
  !(whole.isEmpty && fraction.isEmpty) && isPower rest

/-- A number with or without a sign: a decimal, or a word for infinity or for no number. -/
def isNumber (cs : List Char) : Bool :=
  let cs := dropSign cs
  ["inf", "infinity", "nan"].contains (String.ofList (cs.map Char.toLower)) || isDecimal cs

/-- The decimal digits of a number, the most significant first. -/
def decimalChars (n : Nat) : List Char :=
  if n < 10 then [Char.ofNat ('0'.toNat + n)]
  else decimalChars (n / 10) ++ [Char.ofNat ('0'.toNat + n % 10)]

/-- A number in decimal. -/
def decimal (n : Nat) : String :=
  String.ofList (decimalChars n)

/-- The lower-case hexadecimal digit of a number below 16. -/
def hexDigit (n : Nat) : Char :=
  if n < 10 then Char.ofNat ('0'.toNat + n) else Char.ofNat ('a'.toNat + (n - 10))

/-- The value of a hexadecimal digit, of either case. -/
def hexValue? (c : Char) : Option Nat :=
  if '0' ≤ c ∧ c ≤ '9' then some (c.toNat - '0'.toNat)
  else if 'a' ≤ c ∧ c ≤ 'f' then some (c.toNat - 'a'.toNat + 10)
  else if 'A' ≤ c ∧ c ≤ 'F' then some (c.toNat - 'A'.toNat + 10)
  else none

theorem hexValue?_hexDigit : ∀ n < 16, hexValue? (hexDigit n) = some n := by
  decide

/-- The two hexadecimal digits of a number below 256. -/
def hexByte (n : Nat) : List Char :=
  [hexDigit (n / 16), hexDigit (n % 16)]

end TableScript.Text
