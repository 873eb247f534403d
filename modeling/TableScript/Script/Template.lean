import TableScript.Text.Replace

/-!
# Templates

A template is a text with placeholders, which are names in braces.  Filling binds one name after another, so a
value that holds a placeholder of a later name is filled in turn.
-/

namespace TableScript

/-- The values that fragments are filled with. -/
inductive Parameter where
  | fileLiteral
  | column
  | xFit
  | yFit
  | xEval
  | yEval
  | randomState
  | criterion
  | degree
  deriving DecidableEq, Repr

def Parameter.name : Parameter → String
  | .fileLiteral => "file_literal"
  | .column => "column"
  | .xFit => "x_fit"
  | .yFit => "y_fit"
  | .xEval => "x_eval"
  | .yEval => "y_eval"
  | .randomState => "random_state"
  | .criterion => "criterion"
  | .degree => "degree"

namespace Template

/-- The placeholder of a name. -/
def placeholder (name : List Char) : List Char :=
  '{' :: (name ++ ['}'])

/-- Replaces the placeholder of a name by a value. -/
def bindChars (text : List Char) (name value : List Char) : List Char :=
  Text.replaceAll (placeholder name) value text

/-- Fills a text with some values, one after another. -/
def fill (template : String) (bindings : List (String × String)) : String :=
  String.ofList
    (bindings.foldl (fun text binding => bindChars text binding.1.toList binding.2.toList) template.toList)

end Template

/-- A part of a line of a fragment. -/
inductive Piece where
  | text (text : String)
  | hole (parameter : Parameter)
  deriving DecidableEq, Repr

namespace Piece

instance : Coe String Piece := ⟨text⟩

instance : Coe Parameter Piece := ⟨hole⟩

def chars : Piece → List Char
  | text s => s.toList
  | hole parameter => Template.placeholder parameter.name.toList

end Piece

end TableScript
