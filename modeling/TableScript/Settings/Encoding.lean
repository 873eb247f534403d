import TableScript.Json.Decoder
import TableScript.Settings

/-!
# Generator settings as JSON

An object with the members `unknown_algorithm` and `ragged_rows`; a policy left out keeps its default.
-/

namespace TableScript

open Json (Decoder)

def AlgorithmPolicy.decoder : Decoder AlgorithmPolicy :=
  Decoder.variant ([AlgorithmPolicy.error, .skip].map fun policy => (policy.name, policy))

def RowPolicy.decoder : Decoder RowPolicy :=
  Decoder.variant ([RowPolicy.allow, .reject].map fun policy => (policy.name, policy))

namespace Settings

def fields : List (Decoder.Field Settings) := [
  { key := "unknown_algorithm"
    decoder := AlgorithmPolicy.decoder.map fun value settings => { settings with unknownAlgorithm := value } },
  { key := "ragged_rows"
    decoder := RowPolicy.decoder.map fun value settings => { settings with raggedRows := value } }]

def decoder : Decoder Settings :=
  Decoder.record "GeneratorSettings" fields {}

def toJson (settings : Settings) : Json :=
  .object [
    ("unknown_algorithm", .string settings.unknownAlgorithm.name),
    ("ragged_rows", .string settings.raggedRows.name)]

end Settings

end TableScript
