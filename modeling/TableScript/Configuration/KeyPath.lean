import TableScript.Text.LowerCase
import TableScript.Text.Numeral

/-!
# Key paths

Keys of settings that lead into tables and lists: `logging.level` is the member `level` of the member `logging`,
and `hosts[0]` the first item of `hosts`.
-/

namespace TableScript

/-- A step into a table or a list.  A negative index counts from the end. -/
inductive KeyStep where
  | member (name : String)
  | item (index : Int)
  deriving DecidableEq, Repr

namespace KeyStep

/-- A character that names in a path may have. -/
def isNameChar (c : Char) : Bool :=
  c.isAlphanum || c = ' ' || c = '_' || c = '-'

/-- A character that may stand around an index. -/
def isIndexBlank (c : Char) : Bool :=
  c = ' ' || c = '\t'

/-- Reads an index of 64 bits as it stands between brackets. -/
def readIndex (cs : List Char) : Option Int :=
  let cs := ((cs.dropWhile isIndexBlank).reverse.dropWhile isIndexBlank).reverse
  let value : Option Int := match cs with
    | '-' :: digits => (Text.readDigits digits).map fun n => -(n : Int)
    | digits => (Text.readDigits digits).map fun n => (n : Int)
  value.filter fun n => Int64.minValue.toInt ≤ n && n ≤ Int64.maxValue.toInt

/-- Reads steps, each of them a point with a name or an index in brackets. -/
def readSteps : List Char → Option (List KeyStep)
  | [] => some []
  | c :: cs =>
    if c = '.' then
      let name := cs.takeWhile isNameChar
      if name.isEmpty then none
      else (readSteps (cs.dropWhile isNameChar)).map (member (Text.lowerCase (String.ofList name)) :: ·)
    else if c = '[' && cs.contains ']' then
      match readIndex (cs.takeWhile (· != ']')) with
      | some index => (readSteps ((cs.dropWhile (· != ']')).drop 1)).map (item index :: ·)
      | none => none
    else none
termination_by cs => cs.length
decreasing_by
  all_goals
    have := (List.dropWhile_sublist isNameChar (l := cs)).length_le
    have := (List.dropWhile_sublist (· != ']') (l := cs)).length_le
    simp only [List.length_cons, List.length_drop]
    omega

end KeyStep

/-- The steps of a key.  A key that does not begin with a name, or that cannot be read as steps, is one name. -/
def keyPath (key : String) : List KeyStep :=
  (KeyStep.readSteps ('.' :: key.toList)).getD [.member (Text.lowerCase key)]

end TableScript
