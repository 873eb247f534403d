import TableScript.Toml.Datetime
import TableScript.Toml.Value

/-!
# Strings and numbers of TOML

Readers of what is neither an array nor a table.  A reader gives its result with the rest of the text, or nothing
if the text does not fit.
-/

namespace TableScript.Toml

/-- Spaces and tabs. -/
def isSpace (c : Char) : Bool :=
  c = ' ' || c = '\t'

def skipSpace (cs : List Char) : List Char :=
  cs.dropWhile isSpace

/-- A character that may stand in comments and, but for quotes and backslashes, in strings. -/
def isPlain (c : Char) : Bool :=
  c = '\t' || (0x20 ≤ c.toNat && c.toNat ≠ 0x7F)

/-- Takes a line end off the front. -/
def dropLineEnd? : List Char → Option (List Char)
  | '\n' :: rest => some rest
  | '\r' :: '\n' :: rest => some rest
  | _ => none

/-! ## Strings -/

/-- Reads some hexadecimal digits as a character. -/
def readCodePoint (count : Nat) (cs : List Char) : Option Char := do
  let digits := cs.take count
  if digits.length < count then none
  else do
    let values ← digits.mapM Text.hexValue?
    let n := values.foldl (fun n d => 16 * n + d) 0
    if h : n.isValidChar then some (Char.ofNatAux n h) else none

/-- Reads an escape after its backslash: the character that it stands for, and how many it takes. -/
def readEscape : List Char → Option (Char × Nat)
  | 'b' :: _ => some ('\x08', 1)
  | 't' :: _ => some ('\t', 1)
  | 'n' :: _ => some ('\n', 1)
  | 'f' :: _ => some ('\x0c', 1)
  | 'r' :: _ => some ('\r', 1)
  | '"' :: _ => some ('"', 1)
  | '\\' :: _ => some ('\\', 1)
  | 'u' :: rest => (readCodePoint 4 rest).map (·, 5)
  | 'U' :: rest => (readCodePoint 8 rest).map (·, 9)
  | _ => none

/-- Reads a string on one line after its opening quote, after the characters in `done` (latest first).  The next
`skipped` characters belong to an escape already read. -/
def readBasicAfter (done : List Char) : Nat → List Char → Option (String × List Char)
  | _, [] => none
  | skipped + 1, _ :: cs => readBasicAfter done skipped cs
  | 0, c :: cs =>
    if c = '"' then some (String.ofList done.reverse, cs)
    else if c = '\\' then
      match readEscape cs with
      | some (d, length) => readBasicAfter (d :: done) length cs
      | none => none
    else if isPlain c then readBasicAfter (c :: done) 0 cs
    else none

/-- Reads a string on one line without escapes after its opening quote. -/
def readLiteral (cs : List Char) : Option (String × List Char) :=
  let body := cs.takeWhile fun c => isPlain c && c ≠ '\''
  match cs.drop body.length with
  | '\'' :: rest => some (String.ofList body, rest)
  | _ => none

/-- What three or more quotes in a row say inside a string of several lines: those over three belong to the
string. -/
def closingQuotes (count : Nat) : Option Nat :=
  if count ≤ 5 then some (count - 3) else none

/-- Passes a backslash at the end of a line: the line end and all white space after it. -/
def passLineEnd? (cs : List Char) : Option (List Char) :=
  match dropLineEnd? (skipSpace cs) with
  | none => none
  | some rest => some (go rest.length rest)
where
  go : Nat → List Char → List Char
  | 0, cs => cs
  | bound + 1, cs => match dropLineEnd? (skipSpace cs) with
    | some rest => go bound rest
    | none => skipSpace cs

/-- Reads a string of several lines after its opening quotes, with escapes if `escapes` says so.  `bound` bounds
the characters left. -/
def readLines (quote : Char) (escapes : Bool) (done : List Char) : Nat → List Char → Option (String × List Char)
  | 0, _ => none
  | _ + 1, [] => none
  | bound + 1, c :: cs =>
    if c = quote then
      let quotes := (c :: cs).takeWhile (· = quote)
      let rest := (c :: cs).drop quotes.length
      if quotes.length < 3 then readLines quote escapes (quotes ++ done) bound rest
      else match closingQuotes quotes.length with
        | some inside => some (String.ofList (List.replicate inside quote ++ done).reverse, rest)
        | none => none
    else if escapes ∧ c = '\\' then
      match passLineEnd? cs with
      | some rest => readLines quote escapes done bound rest
      | none => match readEscape cs with
        | some (d, length) => readLines quote escapes (d :: done) bound (cs.drop length)
        | none => none
    else match dropLineEnd? (c :: cs) with
      | some rest => readLines quote escapes ('\n' :: done) bound rest
      | none => if isPlain c then readLines quote escapes (c :: done) bound cs else none

/-- Reads a string of several lines after its opening quotes and the line end that may follow them. -/
def readMultiline (quote : Char) (escapes : Bool) (cs : List Char) : Option (String × List Char) :=
  let cs := (dropLineEnd? cs).getD cs
  readLines quote escapes [] (cs.length + 1) cs

/-- Reads a string of any of the four kinds. -/
def readString : List Char → Option (String × List Char)
  | '"' :: '"' :: '"' :: rest => readMultiline '"' true rest
  | '"' :: rest => readBasicAfter [] 0 rest
  | '\'' :: '\'' :: '\'' :: rest => readMultiline '\'' false rest
  | '\'' :: rest => readLiteral rest
  | _ => none

/-! ## Numbers -/

/-- Reads one or more digits, between any two of which one underscore may stand. -/
def readDigits (isDigit : Char → Bool) : List Char → Option (List Char × List Char)
  | [] => none
  | c :: cs => if isDigit c then some (c :: (more cs).1, (more cs).2) else none
where
  more : List Char → List Char × List Char
  | [] => ([], [])
  | [c] => if isDigit c then ([c], []) else ([], [c])
  | c :: d :: cs =>
    if isDigit c then (c :: (more (d :: cs)).1, (more (d :: cs)).2)
    else if c = '_' ∧ isDigit d then (d :: (more cs).1, (more cs).2)
    else ([], c :: d :: cs)

def isHexadecimal (c : Char) : Bool := (Text.hexValue? c).isSome
def isOctal (c : Char) : Bool := '0' ≤ c && c ≤ '7'
def isBinary (c : Char) : Bool := c = '0' || c = '1'

/-- Reads a sign, if there is one. -/
def readSign : List Char → Bool × List Char
  | '+' :: rest => (false, rest)
  | '-' :: rest => (true, rest)
  | rest => (false, rest)

/-- Reads the digits of a decimal integer; the first of several digits is not zero. -/
def readInteger : List Char → Option (List Char × List Char)
  | '0' :: rest => some (['0'], rest)
  | cs => readDigits isDecimal cs

/-- The integers have 64 bits. -/
def integerOf? (n : Int) : Option Toml :=
  if Int64.minValue.toInt ≤ n ∧ n ≤ Int64.maxValue.toInt then some (.integer n) else none

/-- Reads an integer in a base after its mark. -/
def readBased (base : Nat) (isDigit : Char → Bool) (cs : List Char) : Option (Toml × List Char) := do
  let (digits, rest) ← readDigits isDigit cs
  let value ← integerOf? (digitsValue base digits)
  return (value, rest)

/-- Reads an exponent after its mark. -/
def readExponent (cs : List Char) : Option (Int × List Char) := do
  let (negative, cs) := readSign cs
  let (digits, rest) ← readDigits isDecimal cs
  let n := digitsValue 10 digits
  return (if negative then -(n : Int) else n, rest)

/-- The floating-point number of a decimal.  One above all numbers of the format is refused, one below them all is
infinite. -/
def floatOf? (negative : Bool) (digits : List Char) (exponent : Int) : Option Toml :=
  match Binary64.ofDecimal? negative (digitsValue 10 digits) exponent with
  | some x => some (.float x)
  | none => if negative then some (.infinite true) else none

/-- Reads an integer or a floating-point number. -/
def readNumber (cs : List Char) : Option (Toml × List Char) :=
  match cs with
  | '0' :: 'x' :: rest => readBased 16 isHexadecimal rest
  | '0' :: 'o' :: rest => readBased 8 isOctal rest
  | '0' :: 'b' :: rest => readBased 2 isBinary rest
  | cs => do
    let (negative, cs) := readSign cs
    match cs with
    | 'i' :: 'n' :: 'f' :: rest => return (.infinite negative, rest)
    | 'n' :: 'a' :: 'n' :: rest => return (.notNumber, rest)
    | cs =>
      let (whole, rest) ← readInteger cs
      let withExponent (fraction : List Char) (rest : List Char) : Option (Toml × List Char) := do
        let digits := whole ++ fraction
        match rest with
        | 'e' :: rest | 'E' :: rest =>
          let (exponent, rest) ← readExponent rest
          return (← floatOf? negative digits (exponent - fraction.length), rest)
        | rest => return (← floatOf? negative digits (-fraction.length), rest)
      match rest with
      | '.' :: rest =>
        let (fraction, rest) ← readDigits isDecimal rest
        withExponent fraction rest
      | 'e' :: _ | 'E' :: _ => withExponent [] rest
      | rest =>
        let n : Int := digitsValue 10 whole
        return (← integerOf? (if negative then -n else n), rest)

/-! ## Dates, times and numbers -/

/-- Reads a date, a time, both or a number. -/
def readDateOrNumber (cs : List Char) : Option (Toml × List Char) :=
  let digits := (cs.takeWhile isDecimal).length
  match cs.drop digits with
  | '-' :: _ =>
    if digits = 4 then (readDatetime cs).map fun (text, rest) => (.datetime text, rest) else readNumber cs
  | ':' :: _ =>
    if digits = 2 then (readTime 23 cs).map fun (text, rest) => (.datetime text, rest) else readNumber cs
  | _ => readNumber cs

end TableScript.Toml
