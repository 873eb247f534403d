import TableScript.Text.Combining
import TableScript.Text.Invisible
import TableScript.Text.Numeral

/-!
# Escaped texts

Texts in double quotes, as messages and log lines show them: quotes, backslashes and what cannot be seen, or attaches
to what stands before it, are escaped.
-/

namespace TableScript.Text

/-- The hexadecimal digits of a number, without zeros in front. -/
def hexChars (n : Nat) : List Char :=
  if n < 16 then [hexDigit n] else hexChars (n / 16) ++ [hexDigit (n % 16)]

/-- A character between double quotes. -/
def escapedChar (c : Char) : List Char :=
  if c = '\x00' then ['\\', '0']
  else if c = '\t' then ['\\', 't']
  else if c = '\r' then ['\\', 'r']
  else if c = '\n' then ['\\', 'n']
  else if c = '"' then ['\\', '"']
  else if c = '\\' then ['\\', '\\']
  else if 0x20 ≤ c.toNat && c.toNat < 0x7F then [c]
  else if isCombining c || isInvisible c then ['\\', 'u', '{'] ++ hexChars c.toNat ++ ['}']
  else [c]

/-- A text in double quotes. -/
def escaped (s : String) : String :=
  String.ofList ('"' :: (s.toList.flatMap escapedChar ++ ['"']))

end TableScript.Text
