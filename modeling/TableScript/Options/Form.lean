import TableScript.Event
import TableScript.Json.Printer
import TableScript.Json.Reader
import TableScript.Options.Validate

/-!
# Forms

Options as named texts, as forms and option files carry them.  Each option is known under one or more names; of
those present the first counts.  The field `options` may hold a JSON object with more fields, which count where
the form itself has no field of the same name.
-/

namespace TableScript

/-- The options that a form can set. -/
inductive FormOption where
  | flag (flag : Flag)
  | family
  | algorithm
  | column
  | degree
  | criterion
  | randomState (family : Family)
  deriving DecidableEq, Repr

namespace FormOption

def all : List FormOption :=
  Flag.all.map flag ++
    [family, algorithm, column, degree, criterion, randomState .classification, randomState .regression]

/-- The names under which a form may hold an option, the one that counts first in front. -/
def names : FormOption → List String
  | flag .importLibraries => ["importLibraries"]
  | flag .dropFirstColumn => ["dropFirstColumn"]
  | flag .handleMissingData => ["handleMissingData"]
  | flag .categoricalFeature => ["categoricalData", "categoricalFeature"]
  | flag .categoricalTargetPresent => ["categoricalTargetPresent"]
  | flag .splitDataset => ["splitDataset"]
  | flag .performScaling => ["performScaling"]
  | family => ["algorithmCategory", "algorithmFamily"]
  | algorithm => ["selectedAlgorithm", "algorithm"]
  | column => ["categoricalInput", "categoricalColumnIndex"]
  | degree => ["polynomialDegree"]
  | criterion => ["decisionTreeCriterion", "criterion"]
  | randomState .classification => ["classificationRandomState"]
  | randomState .regression => ["regressionRandomState"]

end FormOption

/-- Whether some option is known under a name. -/
def isOptionName (name : String) : Bool :=
  FormOption.all.any fun option => option.names.contains name

/-- Named texts, in the order of their names. -/
structure Form where
  fields : List (String × String) := []
  deriving DecidableEq, Repr

namespace Form

/-- The name of the field that holds nested fields. -/
def nestedName : String := "options"

def insert (form : Form) (name value : String) : Form :=
  ⟨Dict.insert name value form.fields⟩

/-- Inserts pairs one after another. -/
def insertAll (form : Form) (pairs : List (String × String)) : Form :=
  ⟨Dict.insertAll pairs form.fields⟩

def ofPairs (pairs : List (String × String)) : Form :=
  insertAll {} pairs

def get? (form : Form) (name : String) : Option String :=
  Dict.get? name form.fields

def size (form : Form) : Nat :=
  form.fields.length

/-- The text of a JSON value that is a boolean, a number or a string. -/
def scalarText : Json → Option String
  | .string text => some text
  | .null | .array _ | .object _ => none
  | value => some value.compact

/-- Adds the members of a nested object where the form has no field of their names. -/
def addNested : List (String × Json) → List (String × String) → Except GenerationError (List (String × String))
  | [], fields => .ok fields
  | (name, value) :: members, fields => match scalarText value with
    | none => .error (.validation nestedName (.notScalar name))
    | some text =>
      addNested members (if (Dict.get? name fields).isSome then fields else Dict.insert name text fields)

/-- The fields of a form together with its nested fields. -/
def expand (form : Form) : Except GenerationError (List (String × String)) :=
  match form.get? nestedName with
  | none => .ok form.fields
  | some text =>
    let fields := Dict.erase nestedName form.fields
    match Json.read text with
    | .error fault => .error (.validation nestedName (.invalidJson fault))
    | .ok (.object members) => addNested members fields
    | .ok _ => .error (.validation nestedName .notObject)

/-- The name and the text of an option: the first of its names that is present. -/
def effective? (fields : List (String × String)) (option : FormOption) : Option (String × String) :=
  option.names.findSome? fun name => (Dict.get? name fields).map (name, ·)

/-- Reads a switch. -/
def readFlag (name text : String) : Except GenerationError Bool :=
  let text := Text.trim text
  if text = "true" then .ok true
  else if text = "false" then .ok false
  else .error (.validation name (.notBoolean text))

/-- Reads a text that may be blank for none. -/
def readOptional {α : Type} (text : String) (read : String → Except GenerationError α) :
    Except GenerationError (Option α) :=
  let text := Text.trim text
  if text = "" then .ok none else (read text).map some

def readFamily (name text : String) : Except GenerationError Family :=
  match Family.ofName? text with
  | some family => .ok family
  | none => .error (.validation name (.unknownFamily text))

/-- Reads an algorithm, which has to belong to the family. -/
def readAlgorithm (family? : Option Family) (name text : String) : Except GenerationError Algorithm :=
  match Algorithm.ofName? text with
  | none => .error (.unknownAlgorithm ((family?.map Family.name).getD "") text)
  | some algorithm => match family? with
    | none => .error (.validation name (.requiresFamily algorithm))
    | some family =>
      if family.offers algorithm then .ok algorithm
      else .error (.validation name (.foreignAlgorithm algorithm family))

/-- Reads a degree; a blank text leaves the default. -/
def readDegree (name text : String) : Except GenerationError (Option UInt8) :=
  let trimmed := Text.trim text
  if trimmed = "" then .ok none
  else match Text.readUnsigned UInt8.size trimmed with
    | none => .error (.validation name (.notDegree text))
    | some degree => do
      checkDegree name degree
      return some (UInt8.ofNat degree)

def readCriterion (name text : String) : Except GenerationError Criterion :=
  match Criterion.ofName? text with
  | some criterion => .ok criterion
  | none => .error (.validation name (.unknownCriterion text))

def readRandomState (name text : String) : Except GenerationError String := do
  checkRandomState name text
  return Text.trim text

/-- Reads an option if it is present, and otherwise leaves the options as they are. -/
def readInto (fields : List (String × String)) (option : FormOption) (options : Options)
    (read : String → String → Except GenerationError Options) : Except GenerationError Options :=
  match effective? fields option with
  | some (name, text) => read name text
  | none => .ok options

/-- Reads the switches in order. -/
def readFlags (fields : List (String × String)) (options : Options) : Except GenerationError Options :=
  Flag.all.foldlM (fun options flag => readInto fields (.flag flag) options fun name text =>
    (readFlag name text).map fun value => options.setFlag value flag) options

/-- The options that some fields stand for. -/
def decode (fields : List (String × String)) : Except GenerationError Options := do
  let options ← readFlags fields {}
  let options ← readInto fields .family options fun name text => do
    return { options with family := ← readOptional text (readFamily name) }
  let options ← readInto fields .algorithm options fun name text => do
    return { options with algorithm := ← readOptional text (readAlgorithm options.family name) }
  let options ← readInto fields .column options fun _ text =>
    .ok { options with categoricalColumn := readColumn text }
  let options ← readInto fields .degree options fun name text => do
    return { options with polynomialDegree := (← readDegree name text).getD options.polynomialDegree }
  let options ← readInto fields .criterion options fun name text => do
    return { options with criterion := (← readOptional text (readCriterion name)).getD .gini }
  let options ← readInto fields (.randomState .classification) options fun name text => do
    return { options with classificationRandomState := ← readRandomState name text }
  readInto fields (.randomState .regression) options fun name text => do
    return { options with regressionRandomState := ← readRandomState name text }

/-- The event that tells of a field that no option has. -/
def ignored (name : String) : Event where
  level := .debug
  source := .form
  message := "Ignoring unknown option field"
  fields := [("key", .plain name)]

/-- The options that a form stands for.  Fields under names that no option has do not count. -/
def parse (form : Form) : Traced GenerationError Options := do
  let fields ← .ofExcept form.expand
  let options ← .ofExcept (decode fields)
  .tellAll (((fields.map Prod.fst).filter fun name => !isOptionName name).map ignored)
  return options

end Form

end TableScript
