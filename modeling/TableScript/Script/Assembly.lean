import TableScript.Text.Blank
import TableScript.Text.Split

/-!
# Assembly

Texts joined with one blank line between them.
-/

namespace TableScript

/-- A carriage return or a line feed. -/
def isLineBreak (c : Char) : Bool :=
  c = '\n' || c = '\r'

/-- The texts without their last line breaks, except blank ones. -/
def keptChars (texts : List (List Char)) : List (List Char) :=
  (texts.map (Text.dropEndWhile isLineBreak)).filter fun text => !text.all Text.isBlankChar

/-- The kept texts with one blank line between them and a line feed at the end. -/
def assembleChars (texts : List (List Char)) : List Char :=
  let body := ['\n', '\n'].intercalate (keptChars texts)
  if body.isEmpty then [] else body ++ ['\n']

/-- Joins texts with one blank line between them.  Blank texts are left out, and a result that is not empty ends
in a line feed. -/
def assemble (texts : List String) : String :=
  String.ofList (assembleChars (texts.map String.toList))

end TableScript
