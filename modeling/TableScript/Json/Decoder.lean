import TableScript.Json.Reader
import TableScript.Text.Escaped
import TableScript.Text.Split
import TableScript.Binary64.Text

/-!
# Decoding JSON

A decoder takes a JSON value to a value of another type, or says what about it does not fit.  It also reads the
value directly from a text; then whatever is wrong first in the text is reported, be it its grammar or its type,
with its place.
-/

namespace TableScript.Json

/-- What was found in place of something expected. -/
inductive Found where
  | null
  | bool (value : Bool)
  | integer (value : Int)
  | float (value : Binary64)
  | string (value : String)
  | sequence
  | map
  | unitVariant
  deriving DecidableEq, Repr

def Found.words : Found → String
  | .null => "null"
  | .bool value => "boolean `" ++ (if value then "true" else "false") ++ "`"
  | .integer value => "integer `" ++ toString value ++ "`"
  | .float value => "floating point `" ++ value.text .mixed ++ "`"
  | .string value => "string " ++ Text.escaped value
  | .sequence => "sequence"
  | .map => "map"
  | .unitVariant => "unit variant"

/-- What a value shows itself to be. -/
def found : Json → Found
  | null => .null
  | bool value => .bool value
  | integer value => .integer value
  | float value => .float value
  | string value => .string value
  | array _ => .sequence
  | object _ => .map

/-- Why a value does not fit. -/
inductive Misfit where
  | invalidType (found : Found) (expected : String)
  | invalidValue (found : Found) (expected : String)
  | invalidLength (length : Nat) (expected : String)
  | unknownVariant (name : String) (known : List String)
  | missingField (name : String)
  | duplicateField (name : String)
  deriving DecidableEq, Repr

/-- The names that are known, in words. -/
def oneOf (names : List String) : String :=
  match names with
  | [a, b] => "`" ++ a ++ "` or `" ++ b ++ "`"
  | [a] => "`" ++ a ++ "`"
  | names => "one of " ++ Text.join ", " (names.map fun name => "`" ++ name ++ "`")

def Misfit.message : Misfit → String
  | .invalidType found expected => "invalid type: " ++ found.words ++ ", expected " ++ expected
  | .invalidValue found expected => "invalid value: " ++ found.words ++ ", expected " ++ expected
  | .invalidLength length expected => "invalid length " ++ toString length ++ ", expected " ++ expected
  | .unknownVariant name known => "unknown variant `" ++ name ++ "`, expected " ++ oneOf known
  | .missingField name => "missing field `" ++ name ++ "`"
  | .duplicateField name => "duplicate field `" ++ name ++ "`"

/-- What is wrong first in a text that is to be decoded, and how many bytes were unread there. -/
inductive TextFault where
  | grammar (fault : Fault)
  | misfit (misfit : Misfit) (unread : Nat)
  deriving DecidableEq, Repr

abbrev DecodeStep (α : Type) := Except TextFault (α × List Char)

/-- Decoding of a value, and of the front of a text. -/
structure Decoder (α : Type) where
  ofJson : Json → Except Misfit α
  read : List Char → DecodeStep α

namespace Decoder

variable {α β σ : Type}

/-- A misfit that shows before `rest`. -/
def misfitBefore (misfit : Misfit) (rest : List Char) : DecodeStep α :=
  .error (.misfit misfit (byteCount rest))

/-- A step of the grammar as a step of decoding. -/
def lift (step : Step α) : DecodeStep α :=
  step.mapError .grammar

/-- Goes on with a value and the rest of the text. -/
def andThen (step : DecodeStep α) (next : α → List Char → DecodeStep β) : DecodeStep β :=
  match step with
  | .ok (a, rest) => next a rest
  | .error fault => .error fault

/-- Reports what stands at the front of a text in place of something expected. -/
def mismatch (expected : String) (cs : List Char) : DecodeStep α :=
  let scalar (step : Step Json) : DecodeStep α :=
    match step with
    | .ok (value, rest) => misfitBefore (.invalidType value.found expected) rest
    | .error fault => .error (.grammar fault)
  match skipSpace cs with
  | [] => lift (faultAt .endInValue [])
  | 'n' :: rest => scalar (readWord .null ['u', 'l', 'l'] rest)
  | 't' :: rest => scalar (readWord (.bool true) ['r', 'u', 'e'] rest)
  | 'f' :: rest => scalar (readWord (.bool false) ['a', 'l', 's', 'e'] rest)
  | '-' :: rest => scalar (readNumber true rest)
  | '"' :: rest => scalar ((readString rest).map fun (text, rest) => (.string text, rest))
  | '[' :: rest => misfitBefore (.invalidType .sequence expected) ('[' :: rest)
  | '{' :: rest => misfitBefore (.invalidType .map expected) ('{' :: rest)
  | c :: rest =>
    if isDigit c then scalar (readNumber false (c :: rest))
    else lift (faultAt .expectedValue (c :: rest))

def map (f : α → β) (decoder : Decoder α) : Decoder β where
  ofJson value := (decoder.ofJson value).map f
  read cs := (decoder.read cs).map fun (a, rest) => (f a, rest)

def bool : Decoder Bool where
  ofJson
    | .bool value => .ok value
    | value => .error (.invalidType value.found "a boolean")
  read cs := match skipSpace cs with
    | 't' :: rest => lift (readWord true ['r', 'u', 'e'] rest)
    | 'f' :: rest => lift (readWord false ['a', 'l', 's', 'e'] rest)
    | _ => mismatch "a boolean" cs

/-- The natural number that a number is, below a bound. -/
def naturalOf (name : String) (bound : Nat) : Json → Except Misfit Nat
  | .integer value =>
    if 0 ≤ value ∧ value < bound then .ok value.toNat else .error (.invalidValue (.integer value) name)
  | value => .error (.invalidType value.found name)

/-- Natural numbers below a bound; messages give the type a name. -/
def natural (name : String) (bound : Nat) : Decoder Nat where
  ofJson := naturalOf name bound
  read cs :=
    let number (step : Step Json) : DecodeStep Nat :=
      match step with
      | .error fault => .error (.grammar fault)
      | .ok (value, rest) => match naturalOf name bound value with
        | .ok n => .ok (n, rest)
        | .error misfit => misfitBefore misfit rest
    match skipSpace cs with
    | '-' :: rest => number (readNumber true rest)
    | c :: rest => if isDigit c then number (readNumber false (c :: rest)) else mismatch name cs
    | [] => mismatch name []

def text : Decoder String where
  ofJson
    | .string value => .ok value
    | value => .error (.invalidType value.found "a string")
  read cs := match skipSpace cs with
    | '"' :: rest => lift (readString rest)
    | _ => mismatch "a string" cs

/-- The entry with a name. -/
def variantNamed (variants : List (String × α)) (name : String) : Except Misfit α :=
  match variants.find? fun variant => variant.1 = name with
  | some variant => .ok variant.2
  | none => .error (.unknownVariant name (variants.map Prod.fst))

/-- Nothing, written as null. -/
def unit : Decoder Unit where
  ofJson
    | .null => .ok ()
    | value => .error (.invalidType value.found "unit")
  read cs := match skipSpace cs with
    | 'n' :: rest => lift (readWord () ['u', 'l', 'l'] rest)
    | _ => mismatch "unit" cs

/-- One of some names, as a string or as the only key of an object whose value is null. -/
def variant (variants : List (String × α)) : Decoder α where
  ofJson
    | .string name => variantNamed variants name
    | .object [(name, value)] => do
      let a ← variantNamed variants name
      unit.ofJson value
      return a
    | .object _ => .error (.invalidValue .map "map with a single key")
    | value => .error (.invalidType value.found "string or map")
  read cs :=
    let named (expected : String) (cs : List Char) : DecodeStep α :=
      match skipSpace cs with
      | '"' :: rest => match readString rest with
        | .error fault => .error (.grammar fault)
        | .ok (name, rest) => match variantNamed variants name with
          | .ok a => .ok (a, rest)
          | .error misfit => misfitBefore misfit rest
      | _ => mismatch expected cs
    match skipSpace cs with
    | [] => lift (faultAt .endInValue [])
    | '"' :: _ => named "variant identifier" cs
    | '{' :: rest => andThen (named "variant identifier" rest) fun a rest =>
      andThen (lift (readColon rest)) fun _ rest =>
      andThen (unit.read rest) fun _ rest =>
      match skipSpace rest with
      | [] => lift (faultBefore .endInObject [])
      | '}' :: rest => .ok (a, rest)
      | rest => lift (faultBefore .expectedValue rest)
    | rest => lift (faultAt .expectedValue rest)

/-- A value, or null for none. -/
def optional (decoder : Decoder α) : Decoder (Option α) where
  ofJson
    | .null => .ok none
    | value => (decoder.ofJson value).map some
  read cs := match skipSpace cs with
    | 'n' :: rest => lift (readWord none ['u', 'l', 'l'] rest)
    | _ => (decoder.read cs).map fun (a, rest) => (some a, rest)

/-- A decoder of values, reading a whole value from a text before it decodes. -/
def ofValue (ofJson : Json → Except Misfit α) : Decoder α where
  ofJson := ofJson
  read cs := match readValue cs with
    | .error fault => .error (.grammar fault)
    | .ok (value, rest) => match ofJson value with
      | .ok a => .ok (a, rest)
      | .error misfit => misfitBefore misfit rest

def list (decoder : Decoder α) : Decoder (List α) :=
  ofValue fun
    | .array items => items.mapM decoder.ofJson
    | value => .error (.invalidType value.found "a sequence")

/-- Objects with arbitrary keys. -/
def dict (decoder : Decoder α) : Decoder (List (String × α)) :=
  ofValue fun
    | .object members => members.mapM fun (key, value) => (decoder.ofJson value).map (key, ·)
    | value => .error (.invalidType value.found "a map")

/-- A field of a record: what its value does to a record under construction. -/
structure Field (σ : Type) where
  key : String
  decoder : Decoder (σ → σ)
  required : Bool := false

/-- Decodes the members of an object; members with unknown keys do not count. -/
def decodeMembers (fields : List (Field σ)) : List (String × Json) → σ → Except Misfit σ
  | [], state => .ok state
  | (key, value) :: members, state =>
    match fields.find? fun field => field.key = key with
    | none => decodeMembers fields members state
    | some field => match field.decoder.ofJson value with
      | .ok set => decodeMembers fields members (set state)
      | .error misfit => .error misfit

/-- Decodes the items of an array as the fields in their order. -/
def decodeItems (expected : String) : Nat → List (Field σ) → List Json → σ → Except Misfit σ
  | n, [], items, state =>
    if items.isEmpty then .ok state else .error (.invalidLength (n + items.length) "fewer elements in array")
  | n, field :: fields, [], state =>
    if field.required then .error (.invalidLength n expected) else decodeItems expected n fields [] state
  | n, field :: fields, item :: items, state => match field.decoder.ofJson item with
    | .ok set => decodeItems expected (n + 1) fields items (set state)
    | .error misfit => .error misfit

/-- The first required field that an object lacks. -/
def lacking? (fields : List (Field σ)) (members : List (String × Json)) : Option String :=
  (fields.find? fun field => field.required && (Dict.get? field.key members).isNone).map Field.key

/-! ### Reading records -/

/-- Skips a number after its sign. -/
def skipNumber (cs : List Char) : Step Unit :=
  let exponent (cs : List Char) : Step Unit :=
    let cs := match cs with
      | '+' :: rest | '-' :: rest => rest
      | rest => rest
    match cs with
    | c :: rest => if isDigit c then .ok ((), rest.dropWhile isDigit) else faultAt .invalidNumber (c :: rest)
    | [] => faultAt .invalidNumber []
  let fraction (cs : List Char) : Step Unit :=
    match cs with
    | c :: _ =>
      if isDigit c then
        match cs.dropWhile isDigit with
        | 'e' :: rest | 'E' :: rest => exponent rest
        | rest => .ok ((), rest)
      else faultAt .invalidNumber cs
    | [] => faultAt .invalidNumber []
  let integerEnd (cs : List Char) : Step Unit :=
    match cs with
    | '.' :: rest => fraction rest
    | 'e' :: rest | 'E' :: rest => exponent rest
    | rest => .ok ((), rest)
  match cs with
  | '0' :: rest => match rest with
    | c :: _ => if isDigit c then faultAt .invalidNumber rest else integerEnd rest
    | [] => .ok ((), [])
  | c :: rest => if isDigit c then integerEnd (rest.dropWhile isDigit) else faultAt .invalidNumber (c :: rest)
  | [] => faultAt .invalidNumber []

/-- Skips a string after its opening quote; an escaped surrogate need not be paired. -/
def skipCharsAfter : Nat → List Char → Step Unit
  | _, [] => .error ⟨.endInString, 0⟩
  | skipped + 1, _ :: cs => skipCharsAfter skipped cs
  | 0, c :: cs =>
    if c = '"' then .ok ((), cs)
    else if c = '\\' then
      match cs with
      | 'u' :: digits => match readFourHexDigits digits with
        | .ok _ => skipCharsAfter 5 cs
        | .error fault => .error fault
      | _ => match readEscape cs with
        | .ok _ => skipCharsAfter 1 cs
        | .error fault => .error fault
    else if c.toNat < 0x20 then faultBefore .controlCharacter (c :: cs)
    else skipCharsAfter 0 cs

/-- Skips a string after its opening quote. -/
def skipString (cs : List Char) : Step Unit :=
  skipCharsAfter 0 cs

/-- Skips a key with the colon after it. -/
def skipKey (cs : List Char) : Step Unit :=
  match skipSpace cs with
  | '"' :: rest => match skipString rest with
    | .ok (_, rest) => readColon rest
    | .error fault => .error fault
  | [] => faultAt .endInObject []
  | rest => faultAt .keyMustBeString rest

/-- What a skipped value is part of. -/
inductive Enclosure where
  | list
  | object

/-- Goes on after a value inside `enclosing`, or after the opening bracket of the innermost of them: closes what
ends here and passes a comma. -/
def skipSeparators : Bool → List Enclosure → List Char → Step (List Enclosure)
  | _, [], cs => .ok ([], cs)
  | afterValue, enclosure :: enclosing, cs =>
    match enclosure, skipSpace cs with
    | .list, [] => faultAt .endInList []
    | .object, [] => faultAt .endInObject []
    | .list, ']' :: rest => skipSeparators true enclosing rest
    | .object, '}' :: rest => skipSeparators true enclosing rest
    | enclosure, c :: rest =>
      if !afterValue then .ok (enclosure :: enclosing, c :: rest)
      else if c = ',' then .ok (enclosure :: enclosing, rest)
      else match enclosure with
        | .list => faultAt .expectedCommaOrBracket (c :: rest)
        | .object => faultAt .expectedCommaOrBrace (c :: rest)

/-- Skips a value of any depth; `bound` bounds the number of values left in the text. -/
def skipValues : Nat → List Enclosure → List Char → Step Unit
  | 0, _, cs => .ok ((), cs)
  | bound + 1, enclosing, cs =>
    let next (afterValue : Bool) (enclosing : List Enclosure) (cs : List Char) : Step Unit :=
      match skipSeparators afterValue enclosing cs with
      | .error fault => .error fault
      | .ok ([], rest) => .ok ((), rest)
      | .ok (.list :: enclosing, rest) => skipValues bound (.list :: enclosing) rest
      | .ok (.object :: enclosing, rest) => match skipKey rest with
        | .error fault => .error fault
        | .ok (_, rest) => skipValues bound (.object :: enclosing) rest
    let leaf (step : Step Unit) : Step Unit :=
      match step with
      | .error fault => .error fault
      | .ok (_, rest) => next true enclosing rest
    match skipSpace cs with
    | [] => faultAt .endInValue []
    | 'n' :: rest => leaf (readWord () ['u', 'l', 'l'] rest)
    | 't' :: rest => leaf (readWord () ['r', 'u', 'e'] rest)
    | 'f' :: rest => leaf (readWord () ['a', 'l', 's', 'e'] rest)
    | '-' :: rest => leaf (skipNumber rest)
    | '"' :: rest => leaf (skipString rest)
    | '[' :: rest => next false (.list :: enclosing) rest
    | '{' :: rest => next false (.object :: enclosing) rest
    | c :: rest => if isDigit c then leaf (skipNumber (c :: rest)) else faultAt .expectedValue (c :: rest)

/-- Skips a value. -/
def skipValue (cs : List Char) : Step Unit :=
  skipValues (cs.length + 1) [] cs

/-- Reads the members of an object after its brace; `seen` are the fields read so far. -/
def readFields (fields : List (Field σ)) (seen : List String) (first : Bool) (state : σ) :
    Nat → List Char → DecodeStep (σ × List String)
  | 0, cs => lift (faultAt .endInObject cs)
  | bound + 1, cs =>
    andThen (lift (readKeySeparator first cs)) fun
      | .close, rest => .ok ((state, seen), rest)
      | .more, rest =>
        andThen (lift (readString rest)) fun key rest =>
        match fields.find? fun field => field.key = key with
        | none =>
          andThen (lift (readColon rest)) fun _ rest =>
          andThen (lift (skipValue rest)) fun _ rest =>
          readFields fields seen false state bound rest
        | some field =>
          if seen.contains key then
            match skipSpace rest with
            | '}' :: rest => misfitBefore (.duplicateField key) rest
            | rest => misfitBefore (.duplicateField key) rest
          else
            andThen (lift (readColon rest)) fun _ rest =>
            andThen (field.decoder.read rest) fun set rest =>
            readFields fields (key :: seen) false (set state) bound rest

/-- Reads the end of an array of which no more items are wanted. -/
def readListEnd (cs : List Char) : Step Unit :=
  match skipSpace cs with
  | [] => faultAt .endInList []
  | ']' :: rest => .ok ((), rest)
  | ',' :: rest => match skipSpace rest with
    | ']' :: more => faultAt .trailingComma (']' :: more)
    | more => faultAt .trailingCharacters more
  | rest => faultAt .trailingCharacters rest

/-- Reads the items of an array after its bracket as the fields in their order. -/
def readPositional (expected : String) (n : Nat) (state : σ) : List (Field σ) → List Char → DecodeStep σ
  | [], cs => andThen (lift (readListEnd cs)) fun _ rest => .ok (state, rest)
  | field :: fields, cs =>
    andThen (lift (readListSeparator (n = 0) cs)) fun
      | .close, rest => match (field :: fields).findIdx? Field.required with
        | some i => misfitBefore (.invalidLength (n + i) expected) rest
        | none => .ok (state, rest)
      | .more, rest =>
        andThen (field.decoder.read rest) fun set rest =>
        readPositional expected (n + 1) (set state) fields rest

/-- A record, as an object or as an array of its fields in order.  Fields that are not required keep the value
that the starting record has. -/
def record (name : String) (fields : List (Field σ)) (start : σ) : Decoder σ :=
  let expected := "struct " ++ name
  let expectedLength := expected ++ " with " ++ toString fields.length ++ " elements"
  { ofJson := fun
      | .object members => do
        let state ← decodeMembers fields members start
        match lacking? fields members with
        | some key => .error (.missingField key)
        | none => .ok state
      | .array items => decodeItems expectedLength 0 fields items start
      | value => .error (.invalidType value.found expected)
    read := fun cs => match skipSpace cs with
      | '{' :: rest =>
        andThen (readFields fields [] true start (rest.length + 1) rest) fun (state, seen) rest =>
        match fields.find? fun field => field.required && !seen.contains field.key with
        | some field => misfitBefore (.missingField field.key) rest
        | none => .ok (state, rest)
      | '[' :: rest => readPositional expectedLength 0 start fields rest
      | _ => mismatch expected cs }

/-- The words for what is wrong first in a text. -/
def TextFault.describe (text : List Char) : TextFault → String
  | .grammar fault => (fault.locate text).message
  | .misfit misfit unread => misfit.message ++ (Position.ofUnread text unread).suffix

/-- Decodes a text. -/
def ofText (decoder : Decoder α) (text : String) : Except String α :=
  let cs := text.toList
  match decoder.read cs with
  | .error fault => .error (TextFault.describe cs fault)
  | .ok (a, rest) => match readEnd rest with
    | .ok () => .ok a
    | .error fault => .error (TextFault.describe cs (.grammar fault))

end Decoder

end TableScript.Json
