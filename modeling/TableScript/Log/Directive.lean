import TableScript.Event
import TableScript.Pattern.Reader

/-!
# Log directives

A directive says which events a log lets through: those up to a level, of the sources whose names begin with a
target, inside a span, with certain fields.  Its written form is `target[span{field=value}]=level`, of which
everything but a target or a level may be left out.
-/

namespace TableScript.Log

/-- Why a text is no directive. -/
inductive DirectiveFault where
  | malformed
  | unknownLevel
  /-- The value of a field is no pattern that can be used. -/
  | unusablePattern (fault : PatternFault)
  deriving DecidableEq, Repr

def DirectiveFault.message : DirectiveFault → String
  | .malformed => "invalid filter directive"
  | .unknownLevel =>
    "error parsing level filter: expected one of \"off\", \"error\", \"warn\", \"info\", \"debug\", \"trace\", " ++
      "or a number 0-5"
  | .unusablePattern fault => "invalid field filter: " ++ fault.message

/-- The most that a directive lets through; without a level it lets nothing through. -/
abbrev Limit := Option Level

/-- Reads a level by its number or its name in any case; the empty text names errors. -/
def readLimit (text : String) : Except DirectiveFault Limit :=
  match Text.readUnsigned UInt64.size text with
  | some 0 => .ok none
  | some 1 => .ok (some .error)
  | some 2 => .ok (some .warn)
  | some 3 => .ok (some .info)
  | some 4 => .ok (some .debug)
  | some 5 => .ok (some .trace)
  | _ => match text.toLower with
    | "" => .ok (some .error)
    | "error" => .ok (some .error)
    | "warn" => .ok (some .warn)
    | "info" => .ok (some .info)
    | "debug" => .ok (some .debug)
    | "trace" => .ok (some .trace)
    | "off" => .ok none
    | _ => .error .unknownLevel

/-- A field that a directive asks for, and whether it asks for a value of it. -/
structure FieldDemand where
  name : String
  hasValue : Bool
  deriving DecidableEq, Repr

structure Directive where
  limit : Limit := some .trace
  target : Option String := none
  span : Option String := none
  fields : List FieldDemand := []
  deriving DecidableEq, Repr

namespace Directive

/-! ## Reading -/

/-- What is being read of a directive, and where it began. -/
inductive Place where
  | beginning
  | levelOrTarget (start : Nat)
  | span (start : Nat)
  | field (start : Nat)
  | afterFields
  | afterSpan
  | level (start : Nat)
  | complete
  deriving DecidableEq, Repr

/-- The characters of a text, each with its place: the number of bytes before it. -/
def placesFrom (place : Nat) : List Char → List (Nat × Char)
  | [] => []
  | c :: cs => (place, c) :: placesFrom (place + c.utf8Size) cs

/-- The characters from one place up to another. -/
def slice (text : List (Nat × Char)) (start stop : Nat) : String :=
  String.ofList ((text.filter fun (place, _) => start ≤ place && place < stop).map Prod.snd)

/-- The characters from one place to the end. -/
def rest (text : List (Nat × Char)) (start : Nat) : String :=
  String.ofList ((text.filter fun (place, _) => start ≤ place).map Prod.snd)

/-- A character that a level or target may begin with. -/
def beginsName (c : Char) : Bool :=
  c = '-' || c = ':' || c = '_' || Text.isAlphanumeric c

/-- A directive that is a level or else names a target, of which everything is let through. -/
def ofName (text : String) (directive : Directive) : Directive :=
  match readLimit text with
  | .ok limit => { directive with limit := limit, target := none }
  | .error _ => { directive with limit := some .trace, target := some text }

/-- Sets the level that a text writes; an empty text lets everything through. -/
def withLevel (text : String) (directive : Directive) : Except DirectiveFault Directive :=
  if text = "" then .ok { directive with limit := some .trace }
  else (readLimit text).map fun limit => { directive with limit := limit }

/-- Why a text is no value of a field: neither a number nor a pattern that can be used. -/
def valueFault? (value : List Char) : Option PatternFault :=
  if Text.isNumber value then none else Pattern.textFault? value

/-- Adds the field that a text asks for.  A second equals sign ends its value. -/
def withField (text : String) (directive : Directive) : Except DirectiveFault Directive :=
  let name := String.ofList (text.toList.takeWhile (· ≠ '='))
  let add (hasValue : Bool) : Directive := { directive with fields := directive.fields ++ [{ name, hasValue }] }
  match text.toList.dropWhile (· ≠ '=') with
  | [] => if text = "" then .error .malformed else .ok (add false)
  | _ :: value => match valueFault? (value.takeWhile (· ≠ '=')) with
    | some fault => .error (.unusablePattern fault)
    | none => .ok (add true)

/-- Goes on by the character at a place. -/
def step (text : List (Nat × Char)) (state : Place × Directive) (i : Nat) (c : Char) :
    Except DirectiveFault (Place × Directive) :=
  let (place, directive) := state
  match place with
  | .beginning =>
    if c = '[' then .ok (.span (i + 1), directive)
    else if beginsName c then .ok (.levelOrTarget i, directive)
    else .error .malformed
  | .levelOrTarget start =>
    if c = '=' then .ok (.level (i + 1), { directive with target := some (slice text start i) })
    else if c = '[' then .ok (.span (i + 1), { directive with target := some (slice text start i) })
    else if c = ',' then .ok (.complete, directive.ofName (rest text start))
    else .ok (place, directive)
  | .span start =>
    if c = ']' then .ok (.afterSpan, { directive with span := some (slice text start i) })
    else if c = '{' then
      let span := slice text start i
      .ok (.field (i + 1), { directive with span := if span = "" then none else some span })
    else .ok (place, directive)
  | .field start =>
    if c = '}' then (directive.withField (slice text start i)).map fun directive => (.afterFields, directive)
    else if c = ',' then
      (directive.withField (slice text start i)).map fun directive => (.field (i + 1), directive)
    else .ok (place, directive)
  | .afterFields => if c = ']' then .ok (.afterSpan, directive) else .error .malformed
  | .afterSpan => if c = '=' then .ok (.level (i + 1), directive) else .error .malformed
  | .level start =>
    if c = ',' then (directive.withLevel (slice text start i)).map fun directive => (.complete, directive)
    else .ok (place, directive)
  | .complete => .error .malformed

/-- Ends a directive. -/
def finish (text : List (Nat × Char)) (state : Place × Directive) : Except DirectiveFault Directive :=
  let (place, directive) := state
  match place with
  | .levelOrTarget start => .ok (directive.ofName (rest text start))
  | .level start => directive.withLevel (rest text start)
  | .afterSpan | .complete => .ok directive
  | .beginning | .span _ | .field _ | .afterFields => .error .malformed

/-- Reads a directive.  White space around it is passed over, but places are counted in the text without it. -/
def read (text : String) : Except DirectiveFault Directive := do
  let places := placesFrom 0 text.toList
  let state ← (placesFrom 0 (Text.trimChars text.toList)).foldlM
    (fun state (i, c) => step places state i c) (.beginning, {})
  finish places state

/-! ## Matching -/

/-- Whether a directive can be decided on an event alone: it asks for no span and no value. -/
def isStatic (directive : Directive) : Bool :=
  directive.span.isNone && directive.fields.all (!·.hasValue)

/-- Whether a directive speaks about an event: by the beginning of its source's name, and by its fields. -/
def concerns (directive : Directive) (event : Event) : Bool :=
  (directive.target.all fun target => target.toList.isPrefixOf event.source.target.toList) &&
    directive.fields.all fun field =>
      field.name = "message" || event.fields.any fun entry => entry.1 = field.name

/-- Whether a directive lets events of a level through. -/
def admits (directive : Directive) (level : Level) : Bool :=
  directive.limit.any fun limit => level.verbosity ≤ limit.verbosity

/-- The names of the fields that a directive asks for. -/
def fieldNames (directive : Directive) : List String :=
  directive.fields.map FieldDemand.name

/-- Whether two directives speak about the same events. -/
def sameScope (a b : Directive) : Bool :=
  a.target = b.target && a.fieldNames = b.fieldNames

/-- The length of a directive's target; no target is shorter than any. -/
def targetLength (directive : Directive) : Nat :=
  (directive.target.map fun target => target.utf8ByteSize + 1).getD 0

/-- Whether a directive is asked before another: longer targets first, then more fields. -/
def precedes (a b : Directive) : Bool :=
  if a.targetLength ≠ b.targetLength then b.targetLength < a.targetLength
  else if a.fields.length ≠ b.fields.length then b.fields.length < a.fields.length
  else if a.target ≠ b.target then b.target.getD "" < a.target.getD ""
  else b.fieldNames < a.fieldNames

end Directive

end TableScript.Log
