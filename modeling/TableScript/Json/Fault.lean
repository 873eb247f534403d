/-!
# Faults of JSON texts

What can be wrong with a JSON text, and the place at which it shows.  A reader works on the rest of its text, so
a fault first says how many bytes were still unread; `Fault.locate` turns that into a line and a column.
-/

namespace TableScript.Json

inductive Problem where
  | endInValue
  | endInObject
  | endInList
  | endInString
  | expectedValue
  | expectedIdentifier
  | expectedColon
  | expectedCommaOrBrace
  | expectedCommaOrBracket
  | keyMustBeString
  | trailingComma
  | trailingCharacters
  | invalidNumber
  | numberOutOfRange
  | invalidEscape
  | endInEscape
  | loneSurrogate
  | controlCharacter
  | recursionLimit
  deriving DecidableEq, Repr

def Problem.message : Problem → String
  | .endInValue => "EOF while parsing a value"
  | .endInObject => "EOF while parsing an object"
  | .endInList => "EOF while parsing a list"
  | .endInString => "EOF while parsing a string"
  | .expectedValue => "expected value"
  | .expectedIdentifier => "expected ident"
  | .expectedColon => "expected `:`"
  | .expectedCommaOrBrace => "expected `,` or `\x7d`"
  | .expectedCommaOrBracket => "expected `,` or `]`"
  | .keyMustBeString => "key must be a string"
  | .trailingComma => "trailing comma"
  | .trailingCharacters => "trailing characters"
  | .invalidNumber => "invalid number"
  | .numberOutOfRange => "number out of range"
  | .invalidEscape => "invalid escape"
  | .endInEscape => "unexpected end of hex escape"
  | .loneSurrogate => "lone leading surrogate in hex escape"
  | .controlCharacter => "control character (\\u0000-\\u001F) found while parsing a string"
  | .recursionLimit => "recursion limit exceeded"

/-- The number of bytes of a text. -/
def byteCount (cs : List Char) : Nat :=
  cs.foldl (fun n c => n + c.utf8Size) 0

/-- A line and a column, both counted in the bytes up to a place: the column is the number of bytes since the
last line feed. -/
structure Position where
  line : Nat
  column : Nat
  deriving DecidableEq, Repr

/-- The position after the first `bytes` bytes of a text, when `position` is the one before it. -/
def Position.advance (position : Position) (bytes : Nat) : List Char → Position
  | [] => position
  | c :: cs =>
    if bytes = 0 then position
    else if c = '\n' then advance ⟨position.line + 1, 0⟩ (bytes - 1) cs
    else
      let size := min bytes c.utf8Size
      advance ⟨position.line, position.column + size⟩ (bytes - size) cs

/-- A problem with the place at which it shows. -/
structure SyntaxFault where
  problem : Problem
  position : Position
  deriving DecidableEq, Repr

/-- The words for a place that end a message. -/
def Position.suffix (position : Position) : String :=
  " at line " ++ toString position.line ++ " column " ++ toString position.column

def SyntaxFault.message (fault : SyntaxFault) : String :=
  fault.problem.message ++ fault.position.suffix

/-- The position at which `unread` bytes of a text are left. -/
def Position.ofUnread (text : List Char) (unread : Nat) : Position :=
  Position.advance ⟨1, 0⟩ (byteCount text - unread) text

end TableScript.Json
