/-!
# Events

What happens on the way to a result is told in events: a level, the part of the program that speaks, a message
and named values.  `Traced` pairs an outcome with the events up to it; an error ends the events, and those before
it stay.
-/

namespace TableScript

inductive Level where
  | error
  | warn
  | info
  | debug
  | trace
  deriving DecidableEq, Repr

namespace Level

def name : Level → String
  | .error => "ERROR"
  | .warn => "WARN"
  | .info => "INFO"
  | .debug => "DEBUG"
  | .trace => "TRACE"

/-- How much a level tells, from 1 for errors only to 5 for everything. -/
def verbosity : Level → Nat
  | .error => 1
  | .warn => 2
  | .info => 3
  | .debug => 4
  | .trace => 5

end Level

/-- The parts of the program that speak. -/
inductive Source where
  | program
  | command
  | globalFile
  | workspaceFiles
  | dataset
  | form
  | plan
  | fragments
  | generation
  deriving DecidableEq, Repr

/-- The name under which a part speaks; its segments are separated by two colons. -/
def Source.target : Source → String
  | .program => "pipewright"
  | .command => "pipewright::cli::route"
  | .globalFile => "pipewright::config::sources::global_file"
  | .workspaceFiles => "pipewright::config::sources::workspace_file"
  | .dataset => "pipewright::dataset"
  | .form => "pipewright::options::form"
  | .plan => "pipewright::pipeline::plan"
  | .fragments => "pipewright::pipeline::fragments"
  | .generation => "pipewright::pipeline::synthesize"

/-- A value told with an event: a text that logs quote, a text that they write as it is, or a number. -/
inductive FieldValue where
  | quoted (text : String)
  | plain (text : String)
  | number (n : Nat)
  deriving DecidableEq, Repr

structure Event where
  level : Level
  source : Source
  message : String
  fields : List (String × FieldValue) := []
  deriving DecidableEq, Repr

/-- An outcome with the events up to it. -/
structure Traced (ε α : Type) where
  outcome : Except ε α
  events : List Event

namespace Traced

variable {ε α β : Type}

def pure (a : α) : Traced ε α := ⟨.ok a, []⟩

/-- Goes on with the value of an outcome; an error ends the events. -/
def bind (x : Traced ε α) (f : α → Traced ε β) : Traced ε β :=
  match x.outcome with
  | .ok a => ⟨(f a).outcome, x.events ++ (f a).events⟩
  | .error e => ⟨.error e, x.events⟩

instance : Monad (Traced ε) where
  pure := pure
  bind := bind

/-- An outcome without events. -/
def ofExcept (outcome : Except ε α) : Traced ε α := ⟨outcome, []⟩

def throw (e : ε) : Traced ε α := ⟨.error e, []⟩

/-- Tells an event. -/
def tell (event : Event) : Traced ε Unit := ⟨.ok (), [event]⟩

def tellAll (events : List Event) : Traced ε Unit := ⟨.ok (), events⟩

/-- Puts errors into another type. -/
def mapError {δ : Type} (f : ε → δ) (x : Traced ε α) : Traced δ α :=
  ⟨x.outcome.mapError f, x.events⟩

/-- Tells an event about an error after those up to it. -/
def tellError (about : ε → Event) (x : Traced ε α) : Traced ε α :=
  match x.outcome with
  | .ok _ => x
  | .error e => ⟨x.outcome, x.events ++ [about e]⟩

@[simp] theorem outcome_pure (a : α) : (Pure.pure a : Traced ε α).outcome = .ok a := rfl

@[simp] theorem events_pure (a : α) : (Pure.pure a : Traced ε α).events = [] := rfl

@[simp] theorem outcome_ofExcept (outcome : Except ε α) : (ofExcept outcome).outcome = outcome := rfl

@[simp] theorem outcome_tell (event : Event) : (tell event : Traced ε Unit).outcome = .ok () := rfl

@[simp] theorem outcome_bind (x : Traced ε α) (f : α → Traced ε β) :
    (x >>= f).outcome = x.outcome >>= fun a => (f a).outcome := by
  show (Traced.bind x f).outcome = _
  unfold Traced.bind
  cases x.outcome <;> rfl

end Traced

end TableScript
