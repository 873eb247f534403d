import TableScript.Dict
import TableScript.Json.Fault
import TableScript.Json.Value
import TableScript.Text.Numeral

/-!
# Reading JSON

Each reader takes the rest of the text and gives its result with what it left, or a problem with the number of
bytes that were unread where it showed.  A byte that cannot stand where it stands counts as read.
-/

namespace TableScript.Json

/-- A problem, and how many bytes were unread where it showed. -/
structure Fault where
  problem : Problem
  unread : Nat
  deriving DecidableEq, Repr

/-- The result of a reader: a value with the rest of the text, or a fault. -/
abbrev Step (α : Type) := Except Fault (α × List Char)

/-- A fault that shows before `rest`. -/
def faultBefore {α : Type} (problem : Problem) (rest : List Char) : Except Fault α :=
  .error ⟨problem, byteCount rest⟩

/-- A fault at the first byte of `rest`. -/
def faultAt {α : Type} (problem : Problem) (rest : List Char) : Except Fault α :=
  .error ⟨problem, byteCount rest - 1⟩

/-- The white space of JSON. -/
def isSpace (c : Char) : Bool :=
  c = ' ' || c = '\n' || c = '\t' || c = '\r'

def skipSpace (cs : List Char) : List Char :=
  cs.dropWhile isSpace

/-- Reads the rest of a word. -/
def readWord {α : Type} (value : α) : List Char → List Char → Step α
  | [], cs => .ok (value, cs)
  | _ :: _, [] => faultBefore .endInValue []
  | expected :: word, c :: cs =>
    if c = expected then readWord value word cs else faultAt .expectedIdentifier (c :: cs)

/-! ## Strings -/

/-- The value of four hexadecimal digits. -/
def fourHexDigits? (a b c d : Char) : Option Nat :=
  match Text.hexValue? a, Text.hexValue? b, Text.hexValue? c, Text.hexValue? d with
  | some a, some b, some c, some d => some (((a * 16 + b) * 16 + c) * 16 + d)
  | _, _, _, _ => none

/-- Reads four hexadecimal digits; any four bytes are taken for them. -/
def readFourHexDigits (cs : List Char) : Step Nat :=
  match cs with
  | a :: b :: c :: d :: rest =>
    match fourHexDigits? a b c d with
    | some n => .ok (n, rest)
    | none => .error ⟨.invalidEscape, byteCount cs - 4⟩
  | _ =>
    if byteCount cs < 4 then .error ⟨.endInString, 0⟩ else .error ⟨.invalidEscape, byteCount cs - 4⟩

/-- Reads the second half of a surrogate pair, whose first half was `high`. -/
def readLowSurrogate (high : Nat) : List Char → Except Fault Char
  | [] => .error ⟨.endInString, 0⟩
  | ['\\'] => .error ⟨.endInString, 0⟩
  | '\\' :: 'u' :: cs => match readFourHexDigits cs with
    | .error fault => .error fault
    | .ok (low, rest) =>
      if 0xDC00 ≤ low ∧ low ≤ 0xDFFF then
        .ok (Char.ofNat (0x10000 + (high - 0xD800) * 0x400 + (low - 0xDC00)))
      else faultBefore .loneSurrogate rest
  | '\\' :: cs => faultAt .endInEscape cs
  | cs => faultAt .endInEscape cs

/-- Reads an escape after its backslash: the character that it stands for, and how many it takes. -/
def readEscape : List Char → Except Fault (Char × Nat)
  | [] => .error ⟨.endInString, 0⟩
  | '"' :: _ => .ok ('"', 1)
  | '\\' :: _ => .ok ('\\', 1)
  | '/' :: _ => .ok ('/', 1)
  | 'b' :: _ => .ok ('\x08', 1)
  | 'f' :: _ => .ok ('\x0c', 1)
  | 'n' :: _ => .ok ('\n', 1)
  | 'r' :: _ => .ok ('\r', 1)
  | 't' :: _ => .ok ('\t', 1)
  | 'u' :: cs => match readFourHexDigits cs with
    | .error fault => .error fault
    | .ok (n, rest) =>
      if 0xDC00 ≤ n ∧ n ≤ 0xDFFF then faultBefore .loneSurrogate rest
      else if 0xD800 ≤ n ∧ n ≤ 0xDBFF then (readLowSurrogate n rest).map (·, 11)
      else .ok (Char.ofNat n, 5)
  | cs => faultAt .invalidEscape cs

/-- Reads the characters of a string up to its closing quote, after those in `done` (latest first).  The next
`skipped` characters belong to an escape already read. -/
def readCharsAfter (done : List Char) : Nat → List Char → Step (List Char)
  | _, [] => .error ⟨.endInString, 0⟩
  | skipped + 1, _ :: cs => readCharsAfter done skipped cs
  | 0, c :: cs =>
    if c = '"' then .ok (done.reverse, cs)
    else if c = '\\' then
      match readEscape cs with
      | .ok (d, length) => readCharsAfter (d :: done) length cs
      | .error fault => .error fault
    else if c.toNat < 0x20 then faultAt .controlCharacter (c :: cs)
    else readCharsAfter (c :: done) 0 cs

/-- Reads a string after its opening quote. -/
def readString (cs : List Char) : Step String :=
  match readCharsAfter [] 0 cs with
  | .ok (chars, rest) => .ok (String.ofList chars, rest)
  | .error fault => .error fault

/-! ## Numbers -/

/-- The integers that keep their exact value have 64 bits. -/
def maxSignificand : Nat := UInt64.size - 1

/-- Takes digits as long as the significand stays in range: the significand, the number of digits taken, and the
rest of the text. -/
def takeDigits (digits : Nat) (count : Nat) : List Char → Nat × Nat × List Char
  | [] => (digits, count, [])
  | c :: cs => match Text.digitValue? c with
    | some d =>
      if digits * 10 + d ≤ maxSignificand then takeDigits (digits * 10 + d) (count + 1) cs
      else (digits, count, c :: cs)
    | none => (digits, count, c :: cs)

def isDigit (c : Char) : Bool :=
  (Text.digitValue? c).isSome

/-- The exponents that are told apart; a larger one overflows or vanishes. -/
def maxExponentPart : Nat := Nat.pow 2 31 - 1

/-- Adds exponents, staying within 32 bits. -/
def clampExponent (e : Int) : Int :=
  max (-(maxExponentPart : Int) - 1) (min maxExponentPart e)

/-- The floating-point number of a mantissa. -/
def scaleNumber (negative : Bool) (digits : Nat) (exponent : Int) (rest : List Char) : Step Json :=
  match Binary64.scale? digits exponent with
  | some x => .ok (.float { x with negative := negative }, rest)
  | none => faultBefore .numberOutOfRange rest

/-- Takes the digits of an exponent.  None means that they exceed its range, with the rest after the digit that
does. -/
def takeExponent (value : Nat) : List Char → Option Nat × List Char
  | [] => (some value, [])
  | c :: cs => match Text.digitValue? c with
    | some d =>
      if value * 10 + d ≤ maxExponentPart then takeExponent (value * 10 + d) cs else (none, cs)
    | none => (some value, c :: cs)

/-- Reads an exponent after its mark. -/
def readExponent (negative : Bool) (digits : Nat) (exponent : Int) (cs : List Char) : Step Json :=
  let (down, cs) := match cs with
    | '+' :: rest => (false, rest)
    | '-' :: rest => (true, rest)
    | rest => (false, rest)
  match cs with
  | [] => .error ⟨.endInValue, 0⟩
  | c :: rest => match Text.digitValue? c with
    | none => faultAt .invalidNumber (c :: rest)
    | some first => match takeExponent first rest with
      | (some value, rest) =>
        scaleNumber negative digits (clampExponent (if down then exponent - value else exponent + value)) rest
      | (none, rest) =>
        if digits ≠ 0 ∧ !down then faultBefore .numberOutOfRange rest
        else .ok (.float (Binary64.zero negative), rest.dropWhile isDigit)

/-- Reads what may follow the digits of a number that has a fraction or an overlong integer part. -/
def readScaled (negative : Bool) (digits : Nat) (exponent : Int) (cs : List Char) : Step Json :=
  match cs with
  | 'e' :: rest | 'E' :: rest => readExponent negative digits exponent rest
  | rest => scaleNumber negative digits exponent rest

/-- Reads a fraction after its point. -/
def readFraction (negative : Bool) (digits : Nat) (exponent : Int) (cs : List Char) : Step Json :=
  let (digits, count, rest) := takeDigits digits 0 cs
  match rest with
  | [] => if count = 0 then .error ⟨.endInValue, 0⟩ else scaleNumber negative digits (exponent - count) []
  | c :: _ =>
    if isDigit c then readScaled negative digits (exponent - count) (rest.dropWhile isDigit)
    else if count = 0 then faultAt .invalidNumber rest
    else readScaled negative digits (exponent - count) rest

/-- Reads what may follow the integer part of a number. -/
def readNumberEnd (negative : Bool) (digits : Nat) (exponent : Int) (cs : List Char) : Step Json :=
  match cs with
  | '.' :: rest => readFraction negative digits exponent rest
  | rest => readScaled negative digits exponent rest

/-- The number of an integer literal. -/
def integerLiteral (negative : Bool) (digits : Nat) : Json :=
  if !negative then .integer digits
  else if digits = 0 ∨ -(digits : Int) < Int64.minValue.toInt then
    .float { (Binary64.ofRatio? false digits 1).getD (Binary64.zero false) with negative := true }
  else .integer (-digits)

/-- Reads a number after its sign. -/
def readNumber (negative : Bool) : List Char → Step Json
  | [] => .error ⟨.endInValue, 0⟩
  | '0' :: cs => match cs with
    | [] => .ok (integerLiteral negative 0, [])
    | c :: rest =>
      if isDigit c then faultAt .invalidNumber (c :: rest)
      else if c = '.' ∨ c = 'e' ∨ c = 'E' then readNumberEnd negative 0 0 (c :: rest)
      else .ok (integerLiteral negative 0, c :: rest)
  | c :: cs =>
    if !isDigit c then faultAt .invalidNumber (c :: cs)
    else
      let (digits, _, rest) := takeDigits 0 0 (c :: cs)
      match rest with
      | [] => .ok (integerLiteral negative digits, [])
      | d :: more =>
        if isDigit d then
          let overlong := rest.takeWhile isDigit
          readNumberEnd negative digits overlong.length (rest.drop overlong.length)
        else if d = '.' ∨ d = 'e' ∨ d = 'E' then readNumberEnd negative digits 0 rest
        else .ok (integerLiteral negative digits, d :: more)

/-! ## Values -/

/-- What a separator between the items of an array or an object says. -/
inductive Separator where
  | more
  | close

/-- Reads what stands before an item of an array. -/
def readListSeparator (first : Bool) (cs : List Char) : Step Separator :=
  match skipSpace cs with
  | [] => faultAt .endInList []
  | ']' :: rest => .ok (.close, rest)
  | c :: rest =>
    if first then .ok (.more, c :: rest)
    else if c = ',' then
      match skipSpace rest with
      | [] => faultAt .endInValue []
      | ']' :: more => faultAt .trailingComma (']' :: more)
      | more => .ok (.more, more)
    else faultAt .expectedCommaOrBracket (c :: rest)

/-- Reads what stands before a key of an object, and the key's opening quote. -/
def readKeySeparator (first : Bool) (cs : List Char) : Step Separator :=
  match skipSpace cs with
  | [] => faultAt .endInObject []
  | '}' :: rest => .ok (.close, rest)
  | c :: rest =>
    if first then
      if c = '"' then .ok (.more, rest) else faultAt .keyMustBeString (c :: rest)
    else if c = ',' then
      match skipSpace rest with
      | [] => faultAt .endInValue []
      | '"' :: more => .ok (.more, more)
      | '}' :: more => faultAt .trailingComma ('}' :: more)
      | more => faultAt .keyMustBeString more
    else faultAt .expectedCommaOrBrace (c :: rest)

/-- Reads the colon after a key. -/
def readColon (cs : List Char) : Step Unit :=
  match skipSpace cs with
  | [] => faultAt .endInObject []
  | ':' :: rest => .ok ((), rest)
  | rest => faultAt .expectedColon rest

/-- Reads the items of an array after those in `done` (latest first); the bound exceeds their number. -/
def readItems (read : List Char → Step Json) (done : List Json) : Nat → List Char → Step Json
  | 0, cs => faultAt .endInList cs
  | bound + 1, cs =>
    match readListSeparator done.isEmpty cs with
    | .error fault => .error fault
    | .ok (.close, rest) => .ok (.array done.reverse, rest)
    | .ok (.more, rest) =>
      match read rest with
      | .error fault => .error fault
      | .ok (item, rest) => readItems read (item :: done) bound rest

/-- Reads the members of an object into `members`; of members with the same key the last counts.  The bound exceeds
their number. -/
def readMembers (read : List Char → Step Json) (first : Bool) (members : List (String × Json)) :
    Nat → List Char → Step Json
  | 0, cs => faultAt .endInObject cs
  | bound + 1, cs =>
    match readKeySeparator first cs with
    | .error fault => .error fault
    | .ok (.close, rest) => .ok (.object members, rest)
    | .ok (.more, rest) =>
      match readString rest with
      | .error fault => .error fault
      | .ok (key, rest) =>
        match readColon rest with
        | .error fault => .error fault
        | .ok (_, rest) =>
          match read rest with
          | .error fault => .error fault
          | .ok (value, rest) => readMembers read false (Dict.insert key value members) bound rest

/-- Reads a value; `nested` reads the values inside it, of which there are fewer than `bound`, and is missing at the
nesting limit. -/
def readValueWith (bound : Nat) (nested : Option (List Char → Step Json)) (cs : List Char) : Step Json :=
  match skipSpace cs with
  | [] => faultAt .endInValue []
  | 'n' :: rest => readWord .null ['u', 'l', 'l'] rest
  | 't' :: rest => readWord (.bool true) ['r', 'u', 'e'] rest
  | 'f' :: rest => readWord (.bool false) ['a', 'l', 's', 'e'] rest
  | '-' :: rest => readNumber true rest
  | '"' :: rest => match readString rest with
    | .error fault => .error fault
    | .ok (text, rest) => .ok (.string text, rest)
  | '[' :: rest => match nested with
    | some read => readItems read [] bound rest
    | none => faultAt .recursionLimit ('[' :: rest)
  | '{' :: rest => match nested with
    | some read => readMembers read true [] bound rest
    | none => faultAt .recursionLimit ('{' :: rest)
  | c :: rest => if isDigit c then readNumber false (c :: rest) else faultAt .expectedValue (c :: rest)

/-- Reads a value with at most `depth` levels of arrays and objects. -/
def readNested (bound : Nat) : Nat → List Char → Step Json
  | 0 => readValueWith bound none
  | depth + 1 => readValueWith bound (some (readNested bound depth))

/-- The levels of nesting a text may have. -/
def maxDepth : Nat := 127

/-- Reads a value.  A text of `n` characters holds at most `n` values. -/
def readValue (cs : List Char) : Step Json :=
  readNested (cs.length + 1) maxDepth cs

/-- Only white space may follow a value. -/
def readEnd (cs : List Char) : Except Fault Unit :=
  match skipSpace cs with
  | [] => .ok ()
  | rest => faultAt .trailingCharacters rest

/-- A fault with its place in the whole text. -/
def Fault.locate (text : List Char) (fault : Fault) : SyntaxFault :=
  ⟨fault.problem, Position.ofUnread text fault.unread⟩

/-- Reads a JSON text. -/
def read (text : String) : Except SyntaxFault Json :=
  let cs := text.toList
  match readValue cs with
  | .error fault => .error (fault.locate cs)
  | .ok (value, rest) => match readEnd rest with
    | .error fault => .error (fault.locate cs)
    | .ok () => .ok value

end TableScript.Json
