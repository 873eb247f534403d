import TableScript.Pattern
import TableScript.Text.Alphanumeric
import TableScript.Text.Blank
import TableScript.Text.Numeral

/-!
# Reading patterns

The parts of a pattern are read one after another; groups and brackets that have been opened wait on a stack until
they are closed.  Counted repetitions and properties of Unicode characters are not read.
-/

namespace TableScript

namespace Pattern

/-! ## White space and comments -/

/-- Drops white space, and comments up to the end of their lines. -/
def dropLayout (inComment : Bool) : List Char → List Char
  | [] => []
  | c :: cs =>
    if inComment then dropLayout (c ≠ '\n') cs
    else if Text.isBlankChar c then dropLayout false cs
    else if c = '#' then dropLayout true cs
    else c :: cs

/-- Drops what separates the parts of a pattern, if there may be such. -/
def skipLayout (spaced : Bool) (cs : List Char) : List Char :=
  if spaced then dropLayout false cs else cs

/-- The character after a hyphen.  A comment is looked into here. -/
def peek? (spaced : Bool) (cs : List Char) : Option Char :=
  if spaced then
    match cs.dropWhile Text.isBlankChar with
    | '#' :: rest => (rest.dropWhile Text.isBlankChar).head? <|> cs.head?
    | rest => rest.head? <|> cs.head?
  else cs.head?

/-! ## Escapes -/

/-- Reads hexadecimal digits after those that make up a number. -/
def readHexFrom (spaced : Bool) (number : Nat) : Nat → List Char → Option (Nat × List Char)
  | 0, cs => some (number, cs)
  | count + 1, cs => match skipLayout spaced cs with
    | [] => none
    | c :: cs => (Text.hexValue? c).bind fun digit => readHexFrom spaced (16 * number + digit) count cs

/-- Reads a character by its number in so many digits. -/
def readCodePoint (spaced isByte : Bool) (count : Nat) (cs : List Char) : Option (Pattern × List Char) := do
  let (number, rest) ← readHexFrom spaced 0 count cs
  if number.isValidChar then return (single ⟨Char.ofNat number, isByte⟩, rest) else none

/-- What a backslash and a letter stand for. -/
def ofLetter? : Char → Option Pattern
  | 'd' | 's' | 'w' => some (kind false)
  | 'D' | 'S' | 'W' => some (kind true)
  | 'a' => some (single { char := '\x07' })
  | 'f' => some (single { char := '\x0C' })
  | 't' => some (single { char := '\t' })
  | 'n' => some (single { char := '\n' })
  | 'r' => some (single { char := '\r' })
  | 'v' => some (single { char := '\x0B' })
  | 'A' | 'z' => some anchor
  | 'b' | 'B' => some boundary
  | _ => none

/-- Reads what follows a backslash. -/
def readEscape (spaced : Bool) : List Char → Option (Pattern × List Char)
  | [] => none
  | 'x' :: cs => readCodePoint spaced true 2 cs
  | 'u' :: cs => readCodePoint spaced false 4 cs
  | 'U' :: cs => readCodePoint spaced false 8 cs
  | c :: cs =>
    if c = '<' || c = '>' then some (boundary, cs)
    else if c.toNat < 0x80 && !c.isAlphanum then some (single { char := c }, cs)
    else (ofLetter? c).map (·, cs)

/-! ## Sets -/

def hyphen : CharSet := .single { char := '-' }

/-- The names of the classes of ASCII characters. -/
def classNames : List String :=
  ["alnum", "alpha", "ascii", "blank", "cntrl", "digit", "graph", "lower", "print", "punct", "space", "upper",
    "word", "xdigit"]

/-- Reads the name of a class between colons, after a bracket. -/
def readClass? : List Char → Option (CharSet × List Char)
  | ':' :: cs =>
    let (negated, cs) := match cs with
      | '^' :: cs => (true, cs)
      | cs => (false, cs)
    let name := String.ofList (cs.takeWhile (· ≠ ':'))
    match cs.dropWhile (· ≠ ':') with
    | ':' :: ']' :: rest => if classNames.contains name then some (.named negated, rest) else none
    | _ => none
  | _ => none

/-- A character or a kind of characters as a set. -/
def toSet? : Pattern → Option CharSet
  | single char => some (.single char)
  | kind negated => some (.kind negated)
  | _ => none

/-- Reads an escape or a character between brackets. -/
def readMember (spaced : Bool) : List Char → Option (Pattern × List Char)
  | [] => none
  | '\\' :: cs => readEscape spaced cs
  | c :: cs => some (single { char := c }, cs)

/-- Reads a range of characters, or a member of a set by itself. -/
def readRange (spaced : Bool) (cs : List Char) : Option (CharSet × List Char) := do
  let (first, rest) ← readMember spaced cs
  match skipLayout spaced rest with
  | [] => none
  | '-' :: after =>
    let next := peek? spaced after
    if next = some ']' || next = some '-' then return (← toSet? first, '-' :: after)
    else
      let (last, rest) ← readMember spaced (skipLayout spaced after)
      match first, last with
      | single first, single last => if first.char ≤ last.char then some (.range first last, rest) else none
      | _, _ => none
  | rest => return (← toSet? first, rest)

/-- A bracket that is open, its members the last first. -/
structure Bracket where
  negated : Bool
  /-- The operator before the members, and its left side. -/
  pending : Option (SetOperator × CharSet) := none
  members : List CharSet := []
  /-- Nothing but hyphens has been read, so that a bracket or a hyphen stands for itself. -/
  fresh : Bool := true

namespace Bracket

def add (bracket : Bracket) (member : CharSet) : Bracket :=
  { bracket with members := member :: bracket.members }

/-- What has been read between brackets. -/
def content (bracket : Bracket) : CharSet :=
  let members := match bracket.members with
    | [] => .empty
    | [member] => member
    | members => .union members.reverse
  match bracket.pending with
  | some (operator, left) => .combined operator left members
  | none => members

def close (bracket : Bracket) : CharSet :=
  .bracketed bracket.negated bracket.content

/-- Takes all that has been read for the left side of an operator. -/
def operate (bracket : Bracket) (operator : SetOperator) : Bracket :=
  { bracket with pending := some (operator, bracket.content), members := [] }

end Bracket

/-- Opens a bracket. -/
def openBracket (spaced : Bool) (cs : List Char) : Bracket × List Char :=
  match skipLayout spaced cs with
  | '^' :: cs => ({ negated := true }, cs)
  | cs => ({ negated := false }, cs)

/-- Reads the rest of a set, in as many steps at most. -/
def readSetFrom (spaced : Bool) : Nat → Bracket → List Bracket → List Char → Option (CharSet × List Char)
  | 0, _, _, _ => none
  | steps + 1, bracket, outer, cs =>
    match skipLayout spaced cs with
    | [] => none
    | c :: rest =>
      if bracket.fresh && c = '-' then readSetFrom spaced steps (bracket.add hyphen) outer rest
      else if bracket.fresh && bracket.members.isEmpty && c = ']' then
        readSetFrom spaced steps { bracket.add (.single { char := c }) with fresh := false } outer rest
      else
        let bracket := { bracket with fresh := false }
        match c, rest with
        | ']', rest => match outer with
          | [] => some (bracket.close, rest)
          | enclosing :: outer => readSetFrom spaced steps (enclosing.add bracket.close) outer rest
        | '[', rest => match readClass? rest with
          | some (member, rest) => readSetFrom spaced steps (bracket.add member) outer rest
          | none =>
            let (inner, rest) := openBracket spaced rest
            readSetFrom spaced steps inner (bracket :: outer) rest
        | '&', '&' :: rest => readSetFrom spaced steps (bracket.operate .intersection) outer rest
        | '-', '-' :: rest => readSetFrom spaced steps (bracket.operate .difference) outer rest
        | '~', '~' :: rest => readSetFrom spaced steps (bracket.operate .symmetricDifference) outer rest
        | c, rest =>
          (readRange spaced (c :: rest)).bind fun (member, rest) =>
            readSetFrom spaced steps (bracket.add member) outer rest

/-- Reads a set after its opening bracket. -/
def readSet (spaced : Bool) (cs : List Char) : Option (CharSet × List Char) :=
  let (bracket, rest) := openBracket spaced cs
  readSetFrom spaced (rest.length + 1) bracket [] rest

/-! ## Groups -/

/-- Whether a group may have a name. -/
def isGroupName : List Char → Bool
  | [] => false
  | c :: cs =>
    (c = '_' || Text.isAlphabetic c) &&
      cs.all fun c => c = '_' || c = '.' || c = '[' || c = ']' || Text.isAlphanumeric c

/-- Reads flags up to a colon or a parenthesis, which is left.  `on` says whether no hyphen has been read, and
`complete` whether a flag has been read after it. -/
def readFlags (on complete : Bool) (flags : PatternFlags) : List Char → Option (PatternFlags × List Char)
  | [] => none
  | c :: cs =>
    if c = ':' || c = ')' then if complete then some (flags, c :: cs) else none
    else if c = '-' then if on then readFlags false false flags cs else none
    else (PatternFlag.ofChar? c).bind fun flag =>
      if flags.any fun entry => entry.1 = flag then none else readFlags on true (flags ++ [(flag, on)]) cs

/-- What an opening parenthesis begins. -/
inductive Opening where
  | group (flags : PatternFlags)
  | namedGroup (name : String)
  | switch (flags : PatternFlags)

/-- Reads the name of a group, which a closing angle bracket ends. -/
def readName (cs : List Char) : Option (Opening × List Char) :=
  let name := cs.takeWhile (· ≠ '>')
  match cs.dropWhile (· ≠ '>') with
  | [] => none
  | _ :: rest => if isGroupName name then some (.namedGroup (String.ofList name), rest) else none

/-- Reads what an opening parenthesis begins. -/
def readOpening : List Char → Option (Opening × List Char)
  | '?' :: '=' :: _ | '?' :: '!' :: _ | '?' :: '<' :: '=' :: _ | '?' :: '<' :: '!' :: _ => none
  | '?' :: 'P' :: '<' :: cs => readName cs
  | '?' :: '<' :: cs => readName cs
  | '?' :: cs => (readFlags true true [] cs).bind fun
    | (flags, ':' :: rest) => some (.group flags, rest)
    | ([], _) => none
    | (flags, rest) => some (.switch flags, rest.drop 1)
  | cs => some (.group [], cs)

/-! ## Patterns -/

/-- Alternatives that are being read, the last first, each a list of parts, the last first. -/
structure Parts where
  finished : List Pattern := []
  current : List Pattern := []

namespace Parts

def add (parts : Parts) (pattern : Pattern) : Parts :=
  { parts with current := pattern :: parts.current }

/-- The alternative that is being read. -/
def alternative (parts : Parts) : Pattern :=
  match parts.current with
  | [] => .empty
  | [pattern] => pattern
  | patterns => .sequence patterns.reverse

/-- Begins a further alternative. -/
def branch (parts : Parts) : Parts where
  finished := parts.alternative :: parts.finished

def pattern (parts : Parts) : Pattern :=
  match parts.finished with
  | [] => parts.alternative
  | finished => .alternatives (parts.alternative :: finished).reverse

/-- Repeats the last part. -/
def repeatLast? (parts : Parts) : Option Parts :=
  match parts.current with
  | [] | .empty :: _ | .switch _ :: _ => none
  | pattern :: current => some { parts with current := .repetition pattern :: current }

end Parts

/-- What has been read of a pattern. -/
structure Reading where
  parts : Parts := {}
  /-- Whether white space and comments separate the parts. -/
  spaced : Bool := false
  /-- The groups that are open, the innermost first: their flags, what stands before them and how it is spaced. -/
  outer : List (PatternFlags × Parts × Bool) := []
  names : List String := []

namespace Reading

def add (reading : Reading) (pattern : Pattern) : Reading :=
  { reading with parts := reading.parts.add pattern }

/-- Opens a group. -/
def enter (reading : Reading) (flags : PatternFlags) : Reading :=
  { reading with
    parts := {}
    spaced := flags.apply .spaced reading.spaced
    outer := (flags, reading.parts, reading.spaced) :: reading.outer }

/-- Closes a group. -/
def leave? (reading : Reading) : Option Reading :=
  match reading.outer with
  | [] => none
  | (flags, parts, spaced) :: outer =>
    some { reading with parts := parts.add (.group flags reading.parts.pattern), spaced, outer }

/-- Goes on by what an opening parenthesis begins. -/
def begin? (reading : Reading) : Opening → Option Reading
  | .group flags => some (reading.enter flags)
  | .namedGroup name =>
    if reading.names.contains name then none
    else some { reading.enter [] with names := name :: reading.names }
  | .switch flags => some { reading.add (.switch flags) with spaced := flags.apply .spaced reading.spaced }

/-- Goes on by a character and what follows it. -/
def step? (reading : Reading) (c : Char) (rest : List Char) : Option (Reading × List Char) :=
  match c with
  | '(' => do
    let (opening, rest) ← readOpening (skipLayout reading.spaced rest)
    return (← reading.begin? opening, rest)
  | ')' => reading.leave?.map (·, rest)
  | '|' => some ({ reading with parts := reading.parts.branch }, rest)
  | '[' => (readSet reading.spaced rest).map fun (content, rest) => (reading.add (.set content), rest)
  | '?' | '*' | '+' =>
    let rest := match rest with
      | '?' :: rest => rest
      | rest => rest
    reading.parts.repeatLast?.map fun parts => ({ reading with parts }, rest)
  | '{' => none
  | '\\' => (readEscape reading.spaced rest).map fun (pattern, rest) => (reading.add pattern, rest)
  | '.' => some (reading.add .any, rest)
  | '^' | '$' => some (reading.add .anchor, rest)
  | c => some (reading.add (.single { char := c }), rest)

/-- The pattern that has been read, if no group is open. -/
def finish? (reading : Reading) : Option Pattern :=
  if reading.outer.isEmpty then some reading.parts.pattern else none

/-- Reads the rest of a pattern, in as many steps at most. -/
def run? (reading : Reading) : Nat → List Char → Option Pattern
  | 0, _ => none
  | steps + 1, cs => match skipLayout reading.spaced cs with
    | [] => reading.finish?
    | c :: rest => (reading.step? c rest).bind fun (reading, rest) => reading.run? steps rest

end Reading

/-- Reads a pattern.  Every step takes a character, so there are no more steps than characters. -/
def read? (cs : List Char) : Option Pattern :=
  Reading.run? {} (cs.length + 1) cs

/-- Why a text cannot be used as a pattern, if it cannot. -/
def textFault? (cs : List Char) : Option PatternFault :=
  match read? cs with
  | some pattern => pattern.fault?
  | none => some .malformed

end Pattern

end TableScript
