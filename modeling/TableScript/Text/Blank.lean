/-!
# Blanks

The white space of Unicode (property `White_Space`), and what the library builds on it: trimming a text and
asking whether it is blank.
-/

namespace TableScript.Text

/-- The characters with the Unicode property `White_Space`. -/
def isBlankChar (c : Char) : Bool :=
  let n := c.toNat
  (9 ≤ n && n ≤ 13) || n == 0x20 || n == 0x85 || n == 0xA0 || n == 0x1680 ||
  (0x2000 ≤ n && n ≤ 0x200A) || n == 0x2028 || n == 0x2029 || n == 0x202F || n == 0x205F || n == 0x3000

/-- Drops the characters satisfying `p` from the end. -/
def dropEndWhile (p : Char → Bool) (cs : List Char) : List Char :=
  (cs.reverse.dropWhile p).reverse

/-- Drops the characters satisfying `p` from both ends. -/
def trimWhile (p : Char → Bool) (cs : List Char) : List Char :=
  dropEndWhile p (cs.dropWhile p)

/-- Drops blanks from both ends. -/
def trimChars (cs : List Char) : List Char :=
  trimWhile isBlankChar cs

/-- Drops blanks from both ends of a text. -/
def trim (s : String) : String :=
  String.ofList (trimChars s.toList)

/-- No character other than blanks. -/
def isBlank (s : String) : Bool :=
  s.toList.all isBlankChar

end TableScript.Text
