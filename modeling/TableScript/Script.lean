import TableScript.Digest
import TableScript.Options.Validate
import TableScript.Script.Assembly
import TableScript.Script.Render

/-!
# Scripts

Generation: the options are checked, the plan is built, each stage is rendered with the symbols of those before
it, and the texts are assembled.  Without a dataset the script is empty.
-/

namespace TableScript

structure Script where
  text : String := ""
  /-- The stages of the script in order. -/
  producedBy : List StageId := []
  /-- The import lines that the text needs but does not have. -/
  missingImports : List String := []
  deriving DecidableEq, Repr

namespace Script

def fingerprint (script : Script) : String :=
  Digest.hex script.text

def isEmpty (script : Script) : Bool :=
  script.text = ""

def contains (script : Script) (id : StageId) : Bool :=
  script.producedBy.contains id

end Script

namespace Generate

/-- The event that tells of an empty script. -/
def noDataset : Event where
  level := .debug
  source := .generation
  message := "No dataset loaded, emitting empty script"

/-- The event that tells of a rendered stage. -/
def rendered (stage : Stage) : Event where
  level := .debug
  source := .generation
  message := "Rendered stage"
  fields := [("stage", .plain stage.id.name), ("rank", .number stage.rank)]

/-- The event that tells of import lines left out. -/
def importsOff (count : Nat) : Event where
  level := .warn
  source := .generation
  message := "Library imports are off; the script references names it does not import"
  fields := [("count", .number count)]

/-- Renders the stages that are left, when the symbols in `scope` have been made. -/
def renderFrom (options : Options) (dataset : Dataset) (plan : Plan) (scope : Scope) :
    List StageId → Traced GenerationError (List String)
  | [] => pure []
  | id :: ids =>
    let stage := id.stage
    match scope.firstMissing? (stage.requires options) with
    | some missing => .throw (.dependency id (.symbol missing))
    | none => do
      let text ← id.render options dataset plan scope
      .tell (rendered stage)
      let texts ← renderFrom options dataset plan (scope.extend (stage.produces options)) ids
      return text :: texts

end Generate

open Generate in
/-- Generates the script of a dataset under some options. -/
def generate (settings : Settings) (options : Options) (dataset? : Option Dataset) :
    Traced GenerationError Script := do
  .ofExcept options.validate
  match dataset? with
  | none => do
    .tell noDataset
    return {}
  | some dataset => do
    let plan ← Plan.build options settings.unknownAlgorithm
    let texts ← renderFrom options dataset plan [] plan.stages
    let missing := if options.importLibraries then [] else plan.importLines options []
    if !missing.isEmpty then .tell (importsOff missing.length)
    return { text := assemble texts, producedBy := plan.stages, missingImports := missing }

end TableScript
