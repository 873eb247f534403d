import TableScript.Log.Directive
import TableScript.Text.Split

/-!
# Log filters

A filter is a list of directives, the most specific first.  Of the directives that concern an event the first
decides.
-/

namespace TableScript.Log

abbrev Filter := List Directive

namespace Filter

/-- Puts a directive at its place, instead of one with the same scope. -/
def insert (directive : Directive) : Filter → Filter
  | [] => [directive]
  | other :: filter =>
    if directive.sameScope other then directive :: filter
    else if directive.precedes other then directive :: other :: filter
    else other :: insert directive filter

/-- Adds a directive, if it can be decided on events alone: there are no spans that others could speak about. -/
def add (filter : Filter) (directive : Directive) : Filter :=
  if directive.isStatic then filter.insert directive else filter

def ofDirectives (directives : List Directive) : Filter :=
  directives.foldl add []

/-- Whether an event passes. -/
def allows (filter : Filter) (event : Event) : Bool :=
  match List.find? (fun directive => directive.concerns event) filter with
  | some directive => directive.admits event.level
  | none => false

/-- The texts between the commas of a text, without empty ones. -/
def pieces (text : String) : List String :=
  ((Text.splitOn ',' text.toList).map String.ofList).filter (· ≠ "")

/-- The filter of directives between commas. -/
def read (text : String) : Except DirectiveFault Filter :=
  ((pieces text).mapM Directive.read).map ofDirectives

/-- What is said about a text that is passed over because it is no directive. -/
def complaint (text : String) (fault : DirectiveFault) : String :=
  "ignoring `" ++ text ++ "`: " ++ fault.message ++ "\n"

/-- The filter of those texts between commas that are directives, with complaints about the others.  Where there
is no directive, errors pass. -/
def readLeniently (text : String) : Filter × List String :=
  let results := (pieces text).map fun piece => (piece, Directive.read piece)
  let directives := results.filterMap fun (_, result) => result.toOption
  let complaints := results.filterMap fun (piece, result) => match result with
    | .ok _ => none
    | .error fault => some (complaint piece fault)
  (if directives.isEmpty then [{ limit := some .error }] else ofDirectives directives, complaints)

end Filter

end TableScript.Log
