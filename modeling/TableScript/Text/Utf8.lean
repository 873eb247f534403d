/-!
# UTF-8

Decoding bytes as characters.  Bytes that fit nowhere are grouped as far as they begin a character, and each such
group stands for one character that could not be read.
-/

namespace TableScript.Text

/-- What a first byte announces: the bits it carries, the number of bytes that follow, and the range of the first
of these. -/
structure Lead where
  bits : Nat
  following : Nat
  low : Nat := 0x80
  high : Nat := 0xBF

/-- The meaning of a byte that begins a character. -/
def lead? (byte : UInt8) : Option Lead :=
  let n := byte.toNat
  if n < 0x80 then some { bits := n, following := 0 }
  else if n < 0xC2 then none
  else if n < 0xE0 then some { bits := n - 0xC0, following := 1 }
  else if n = 0xE0 then some { bits := 0, following := 2, low := 0xA0 }
  else if n = 0xED then some { bits := 0xD, following := 2, high := 0x9F }
  else if n < 0xF0 then some { bits := n - 0xE0, following := 2 }
  else if n = 0xF0 then some { bits := 0, following := 3, low := 0x90 }
  else if n < 0xF4 then some { bits := n - 0xF0, following := 3 }
  else if n = 0xF4 then some { bits := 4, following := 3, high := 0x8F }
  else none

/-- Reads the bytes that follow a first byte: the number of bytes read, and the code point unless one is
missing. -/
def readFollowing (low high bits : Nat) : Nat → List UInt8 → Nat × Option Nat
  | 0, _ => (0, some bits)
  | _ + 1, [] => (0, none)
  | following + 1, byte :: bytes =>
    if low ≤ byte.toNat ∧ byte.toNat ≤ high then
      let (count, result) := readFollowing 0x80 0xBF (64 * bits + (byte.toNat - 0x80)) following bytes
      (count + 1, result)
    else (0, none)

/-- Decodes bytes after the characters in `done` (latest first).  The next `skipped` bytes belong to a character
already read. -/
def decodeAfter (done : List (Option Char)) : Nat → List UInt8 → List (Option Char)
  | _, [] => done.reverse
  | skipped + 1, _ :: bytes => decodeAfter done skipped bytes
  | 0, byte :: bytes =>
    match lead? byte with
    | none => decodeAfter (none :: done) 0 bytes
    | some lead =>
      let (count, result) := readFollowing lead.low lead.high lead.bits lead.following bytes
      decodeAfter (result.map Char.ofNat :: done) count bytes

/-- The characters that bytes stand for, with nothing for each that cannot be read. -/
def decode (bytes : List UInt8) : List (Option Char) :=
  decodeAfter [] 0 bytes

/-- The text that bytes stand for, if all of it can be read. -/
def ofBytes? (bytes : List UInt8) : Option String :=
  ((decode bytes).mapM id).map String.ofList

/-- The text that bytes stand for, with a replacement character for what cannot be read. -/
def ofBytes (bytes : List UInt8) : String :=
  String.ofList ((decode bytes).map fun c => c.getD '\uFFFD')

/-- The bytes of a text. -/
def toBytes (s : String) : List UInt8 :=
  s.toUTF8.toList

end TableScript.Text
