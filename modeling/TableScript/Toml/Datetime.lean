import TableScript.Text.Numeral

/-!
# Dates and times of TOML

Dates, times and both, with or without an offset from universal time.  They are read as the text that writes them out
in full.  In a document their parts have their usual bounds; a text that is only marked as a date or time may also use
the 24th hour and offsets of up to a day.
-/

namespace TableScript.Toml

def isDecimal (c : Char) : Bool := (Text.digitValue? c).isSome

/-- The number that digits of a base write. -/
def digitsValue (base : Nat) (digits : List Char) : Nat :=
  digits.foldl (fun n c => base * n + (Text.hexValue? c).getD 0) 0

/-- Reads a number of exactly `count` digits in a range. -/
def readFixed (count low high : Nat) (cs : List Char) : Option (Nat × List Char) :=
  let digits := cs.take count
  if digits.length = count ∧ digits.all isDecimal then
    let n := digitsValue 10 digits
    if low ≤ n ∧ n ≤ high then some (n, cs.drop count) else none
  else none

/-- Takes a character off the front. -/
def expect (c : Char) : List Char → Option (List Char)
  | d :: rest => if d = c then some rest else none
  | [] => none

/-- A number with at least two digits. -/
def twoDigits (n : Nat) : String :=
  if n < 10 then "0" ++ Text.decimal n else Text.decimal n

def isLeapYear (year : Nat) : Bool :=
  year % 4 = 0 && (year % 100 ≠ 0 || year % 400 = 0)

def daysInMonth (year month : Nat) : Nat :=
  if month = 2 then if isLeapYear year then 29 else 28
  else if month = 4 ∨ month = 6 ∨ month = 9 ∨ month = 11 then 30
  else 31

/-- Reads a date. -/
def readDate (cs : List Char) : Option (String × List Char) := do
  let (year, rest) ← readFixed 4 0 9999 cs
  let (month, rest) ← readFixed 2 1 12 (← expect '-' rest)
  let (day, rest) ← readFixed 2 1 31 (← expect '-' rest)
  if daysInMonth year month < day then none
  else
    let yearText := String.ofList (cs.take 4)
    return (yearText ++ "-" ++ twoDigits month ++ "-" ++ twoDigits day, rest)

/-- The digits of a fraction of a second, of which nine count, without the zeros at their end. -/
def fractionText (digits : List Char) : String :=
  let digits := ((digits.take 9).reverse.dropWhile (· = '0')).reverse
  if digits.isEmpty then "" else String.ofList ('.' :: digits)

/-- Reads a time whose hour is at most `lastHour`. -/
def readTime (lastHour : Nat) (cs : List Char) : Option (String × List Char) := do
  let (hour, rest) ← readFixed 2 0 lastHour cs
  let (minute, rest) ← readFixed 2 0 59 (← expect ':' rest)
  let (second, rest) ← readFixed 2 0 60 (← expect ':' rest)
  let text := twoDigits hour ++ ":" ++ twoDigits minute ++ ":" ++ twoDigits second
  match rest with
  | '.' :: rest =>
    let digits := rest.takeWhile isDecimal
    if digits.isEmpty then none else return (text ++ fractionText digits, rest.drop digits.length)
  | rest => return (text, rest)

/-- The hours and minutes after the sign of an offset, as a text. -/
def readShift (lastHour lastMinute : Nat) (negative : Bool) (cs : List Char) : Option (String × List Char) := do
  let (hours, rest) ← readFixed 2 0 lastHour cs
  let (minutes, rest) ← readFixed 2 0 lastMinute (← expect ':' rest)
  let total := 60 * hours + minutes
  if 24 * 60 < total then none
  else
    let sign := if negative ∧ 0 < total then "-" else "+"
    return (sign ++ twoDigits (total / 60) ++ ":" ++ twoDigits (total % 60), rest)

/-- Reads what a time differs from universal time, if it is given. -/
def readOffset (lastHour lastMinute : Nat) : List Char → Option (String × List Char)
  | 'Z' :: rest | 'z' :: rest => some ("Z", rest)
  | '+' :: rest => readShift lastHour lastMinute false rest
  | '-' :: rest => readShift lastHour lastMinute true rest
  | rest => some ("", rest)

/-- Whether a character may stand between a date and a time. -/
def isDateEnd (c : Char) : Bool :=
  c = 'T' || c = 't' || c = ' '

/-- Reads a date, with a time if there is one. -/
def readDatetime (cs : List Char) : Option (String × List Char) := do
  let (date, rest) ← readDate cs
  match rest with
  | d :: more =>
    if isDateEnd d then
      match readTime 23 more with
      | some (time, rest) =>
        let (offset, rest) ← readOffset 23 59 rest
        return (date ++ "T" ++ time ++ offset, rest)
      | none => if d = ' ' then return (date, rest) else none
    else return (date, rest)
  | [] => return (date, [])

/-- The date or time that a whole text writes. -/
def datetimeOfText? (text : String) : Option String :=
  let cs := text.toList
  let finish : String × List Char → Option String
    | (text, []) => some text
    | _ => none
  if cs[2]? = some ':' then (readTime 24 cs).bind finish
  else do
    let (date, rest) ← readDate cs
    match rest with
    | d :: rest =>
      if isDateEnd d then
        let (time, rest) ← readTime 24 rest
        let (offset, rest) ← readOffset 99 99 rest
        finish (date ++ "T" ++ time ++ offset, rest)
      else none
    | [] => return date

end TableScript.Toml
