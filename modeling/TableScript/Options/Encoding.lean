import TableScript.Json.Decoder
import TableScript.Options.Edit

/-!
# Options and edits as JSON

Options are objects with a member for each field, or arrays of the fields in order; fields left out keep their
defaults.  An edit is an object whose only key names it.
-/

namespace TableScript

open Json (Decoder Misfit)

def Family.decoder : Decoder Family :=
  Decoder.variant (Family.all.map fun family => (family.name, family))

def Algorithm.decoder : Decoder Algorithm :=
  Decoder.variant (Algorithm.all.map fun algorithm => (algorithm.name, algorithm))

def Criterion.decoder : Decoder Criterion :=
  Decoder.variant (Criterion.all.map fun criterion => (criterion.name, criterion))

def Flag.decoder : Decoder Flag :=
  Decoder.variant (Flag.all.map fun flag => (flag.name, flag))

namespace Options

/-- The field of a switch. -/
def flagField (flag : Flag) : Decoder.Field Options where
  key := flag.name
  decoder := Decoder.bool.map fun value options => options.setFlag value flag

def fields : List (Decoder.Field Options) :=
  Flag.all.map flagField ++ [
    { key := "algorithm_family"
      decoder := (Decoder.optional Family.decoder).map fun value options =>
        { options with family := value } },
    { key := "algorithm"
      decoder := (Decoder.optional Algorithm.decoder).map fun value options =>
        { options with algorithm := value } },
    { key := "categorical_column"
      decoder := (Decoder.optional (Decoder.natural "usize" UInt64.size)).map fun value options =>
        { options with categoricalColumn := value.map UInt64.ofNat } },
    { key := "polynomial_degree"
      decoder := (Decoder.natural "u8" UInt8.size).map fun value options =>
        { options with polynomialDegree := UInt8.ofNat value } },
    { key := "criterion"
      decoder := Criterion.decoder.map fun value options => { options with criterion := value } },
    { key := "classification_random_state"
      decoder := Decoder.text.map fun value options =>
        { options with classificationRandomState := value } },
    { key := "regression_random_state"
      decoder := Decoder.text.map fun value options =>
        { options with regressionRandomState := value } }]

def decoder : Decoder Options :=
  Decoder.record "OptionModel" fields {}

/-- The options with every field. -/
def toJson (options : Options) : Json :=
  .object ((Flag.all.map fun flag => (flag.name, .bool (options.flag flag))) ++ [
    ("algorithm_family", .ofOption (fun family => .string family.name) options.family),
    ("algorithm", .ofOption (fun algorithm => .string algorithm.name) options.algorithm),
    ("categorical_column", .ofOption (fun column => .natural column.toNat) options.categoricalColumn),
    ("polynomial_degree", .natural options.polynomialDegree.toNat),
    ("criterion", .string options.criterion.name),
    ("classification_random_state", .string options.classificationRandomState),
    ("regression_random_state", .string options.regressionRandomState)])

end Options

namespace Edit

/-- How the value under an edit's name is decoded: as one value, or as an array of two, of which the first is
decoded before the second. -/
inductive Shape where
  | single (decode : Json → Except Misfit Edit)
  | pair (decode : Json → Except Misfit (Json → Except Misfit Edit))

/-- The names of the edits with their shapes. -/
def shapes : List (String × Shape) := [
  ("Toggle", .single fun value => (Flag.decoder.ofJson value).map toggle),
  ("SetFlag", .pair fun flag => (Flag.decoder.ofJson flag).map fun flag value =>
    (Decoder.bool.ofJson value).map (setFlag flag)),
  ("SelectFamily", .single fun value => ((Decoder.optional Family.decoder).ofJson value).map selectFamily),
  ("SelectAlgorithm", .single fun value =>
    ((Decoder.optional Algorithm.decoder).ofJson value).map selectAlgorithm),
  ("SetCategoricalColumn", .single fun value => (Decoder.text.ofJson value).map setCategoricalColumn),
  ("SetPolynomialDegree", .single fun value =>
    ((Decoder.natural "u8" UInt8.size).ofJson value).map fun degree => setPolynomialDegree (UInt8.ofNat degree)),
  ("SetCriterion", .single fun value => (Criterion.decoder.ofJson value).map setCriterion),
  ("SetRandomState", .pair fun family => (Family.decoder.ofJson family).map fun family text =>
    (Decoder.text.ofJson text).map (setRandomState family))]

/-- Decodes what stands under the name of an edit. -/
def Shape.decode (name : String) (value : Json) : Shape → Except Misfit Edit
  | .single decode => decode value
  | .pair decode =>
    let expected := "tuple variant OptionEdit::" ++ name
    match value with
    | .array [] => .error (.invalidType .null expected)
    | .array (first :: more) => do
      let decodeSecond ← decode first
      match more with
      | [] => .error (.invalidLength 1 (expected ++ " with 2 elements"))
      | second :: more => do
        let edit ← decodeSecond second
        if more.isEmpty then return edit
        else .error (.invalidLength (2 + more.length) "fewer elements in array")
    | value => .error (.invalidType value.found "tuple variant")

/-- Decodes an edit. -/
def ofJson : Json → Except Misfit Edit
  | .object [(name, value)] => do
    let shape ← Decoder.variantNamed shapes name
    shape.decode name value
  | .object _ => .error (.invalidValue .map "map with a single key")
  | .string name => do
    match ← Decoder.variantNamed shapes name with
    | .single _ => .error (.invalidType .unitVariant "newtype variant")
    | .pair _ => .error (.invalidType .unitVariant "tuple variant")
  | value => .error (.invalidType value.found "string or map")

end Edit

end TableScript
