import TableScript.Text.Split

/-!
# Reading arguments

Arguments are read from the left.  An option with a value takes the part after its equals sign or else the next
argument that is no option itself; after two dashes nothing is an option.  The value of an option is looked at
when the next option or operand begins, so that of two faults the earlier one is reported.
-/

namespace TableScript

/-- Why a command line is not followed. -/
inductive UsageFault where
  | helpRequested
  | nothingRequested
  | missingCommand
  | unknownCommand
  | missingOperand
  | unknownArgument
  /-- An option that excludes another, or that may stand only once. -/
  | conflict
  /-- A value that is missing or none of those allowed. -/
  | invalidValue
  | malformedPair
  /-- A value for an option that takes none. -/
  | unwantedValue
  deriving DecidableEq, Repr

namespace Arguments

/-- What an option does to what has been read. -/
inductive Effect (σ : Type) where
  | flag (set : σ → σ)
  | value (set : String → σ → Except UsageFault σ)

/-- An option, which is given by its name after two dashes, or an operand. -/
structure Rule (σ : Type) where
  name : String
  effect : Effect σ
  repeatable : Bool := false

/-- What a list of arguments may hold. -/
structure Rules (σ : Type) where
  options : List (Rule σ)
  operands : List (Rule σ) := []
  /-- The words that end the list, if nothing else stands in their place. -/
  commands : List String := []

/-- What has been read so far. -/
structure Progress (σ : Type) where
  value : σ
  /-- The options that may not stand again. -/
  seen : List String := []
  /-- What has a value that is still to come or to be looked at. -/
  pending : Option (Rule σ × Option String) := none
  operands : List (Rule σ)
  /-- Whether nothing is an option any more. -/
  literal : Bool := false

variable {σ : Type}

/-- Carries out a rule, with its value if it takes one. -/
def apply (rule : Rule σ) (value : Option String) (progress : Progress σ) :
    Except UsageFault (Progress σ) := do
  let repeated := !rule.repeatable && progress.seen.contains rule.name
  let seen := rule.name :: progress.seen
  match rule.effect, value with
  | .flag set, _ =>
    if repeated then .error .conflict else .ok { progress with value := set progress.value, seen }
  | .value _, none => .error .invalidValue
  | .value set, some value =>
    if repeated then .error .conflict else .ok { progress with value := ← set value progress.value, seen }

/-- Carries out the rule whose value has been waited for. -/
def settle (progress : Progress σ) : Except UsageFault (Progress σ) :=
  match progress.pending with
  | none => .ok progress
  | some (rule, value) => apply rule value { progress with pending := none }

/-- Whether the next argument is the value of an option. -/
def awaitsValue (progress : Progress σ) : Bool :=
  match progress.pending with
  | some (_, none) => true
  | _ => false

/-- Reads an option without its dashes. -/
def readOption (rules : Rules σ) (text : List Char) (progress : Progress σ) :
    Except UsageFault (Progress σ) := do
  let (name, value) := match Text.splitOnce '=' text with
    | some (name, value) => (String.ofList name, some (String.ofList value))
    | none => (String.ofList text, none)
  match rules.options.find? fun rule => rule.name = name with
  | none =>
    if name = "help" then
      if value.isSome then .error .unwantedValue
      else
        let _ ← settle progress
        .error .helpRequested
    else .error .unknownArgument
  | some rule =>
    match rule.effect, value with
    | .flag _, some _ => .error .unwantedValue
    | .flag _, none => apply rule none (← settle progress)
    | .value _, some value => apply rule (some value) (← settle progress)
    | .value _, none => return { ← settle progress with pending := some (rule, none) }

/-- Reads an operand. -/
def readOperand (rules : Rules σ) (text : String) (progress : Progress σ) : Except UsageFault (Progress σ) := do
  match progress.operands with
  | [] =>
    if rules.commands.isEmpty then .error .unknownArgument
    else if progress.literal ∧ rules.commands.contains text then .error .unknownArgument
    else .error .unknownCommand
  | rule :: operands => return { ← settle progress with pending := some (rule, some text), operands }

/-- Reads one argument that does not end the list. -/
def readArgument (rules : Rules σ) (text : String) (progress : Progress σ) : Except UsageFault (Progress σ) :=
  if progress.literal then readOperand rules text progress
  else match text.toList with
    | ['-', '-'] => .ok { progress with literal := true }
    | '-' :: '-' :: name => readOption rules name progress
    | '-' :: 'h' :: _ => do
      let _ ← settle progress
      .error .helpRequested
    | '-' :: _ :: _ => .error .unknownArgument
    | _ => match progress.pending with
      | some (rule, none) => .ok { progress with pending := some (rule, some text) }
      | _ => readOperand rules text progress

/-- Reads arguments up to one that ends the list, which is given with those after it. -/
def readFrom (rules : Rules σ) (progress : Progress σ) :
    List String → Except UsageFault (Progress σ × Option (String × List String))
  | [] => .ok (progress, none)
  | text :: arguments =>
    if !progress.literal && !awaitsValue progress && rules.commands.contains text then
      .ok (progress, some (text, arguments))
    else do readFrom rules (← readArgument rules text progress) arguments

def read (rules : Rules σ) (start : σ) (arguments : List String) :
    Except UsageFault (Progress σ × Option (String × List String)) :=
  readFrom rules { value := start, operands := rules.operands } arguments

end Arguments

end TableScript
