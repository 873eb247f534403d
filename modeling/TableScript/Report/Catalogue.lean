import TableScript.Grid
import TableScript.Json.Printer
import TableScript.Script.Fragment

/-!
# The catalogue

The families with their algorithms, labels and hyperparameters, as a table or as JSON.
-/

namespace TableScript.Catalogue

/-- The name of a hyperparameter in listings. -/
def parameterName : Parameter → String
  | .degree => "polynomial_degree"
  | parameter => parameter.name

def parameterNames (algorithm : Algorithm) : List String :=
  algorithm.hyperparameters.map parameterName

def row (algorithm : Algorithm) : List String :=
  let names := parameterNames algorithm
  [algorithm.family.name, algorithm.name, algorithm.label, if names.isEmpty then "-" else Text.join ", " names]

def text : String :=
  Grid.text ["Family", "Algorithm", "Label", "Hyperparameters"]
    (Family.all.flatMap fun family => family.algorithms.map row)

def algorithmJson (algorithm : Algorithm) : Json :=
  .object [
    ("hyperparameters", .strings (parameterNames algorithm)),
    ("id", .string algorithm.name),
    ("label", .string algorithm.label)]

def familyJson (family : Family) : Json :=
  .object [
    ("algorithms", .array (family.algorithms.map algorithmJson)),
    ("family", .string family.name)]

def json : String :=
  Json.pretty (.object [
    ("families", .array (Family.all.map familyJson)),
    ("total", .natural Algorithm.all.length)])

end TableScript.Catalogue
