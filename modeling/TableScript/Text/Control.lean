/-!
# Control characters

The characters of the Unicode category `Cc`.
-/

namespace TableScript.Text

/-- A character of the Unicode category `Cc`. -/
def isControl (c : Char) : Bool :=
  c.toNat < 0x20 || (0x7F ≤ c.toNat && c.toNat < 0xA0)

end TableScript.Text
