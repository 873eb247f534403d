/-!
# Patterns

Regular expressions by which a log may ask for the value of a field.  No value is ever compared with one, so what
matters is whether a pattern can be used: how deeply its parts are nested, and which of them need properties of
Unicode characters, of which patterns know none.
-/

namespace TableScript

/-- A character of a pattern, and whether it is written as a byte. -/
structure PatternChar where
  char : Char
  isByte : Bool := false
  deriving DecidableEq, Repr

/-- What a pattern may switch on and off. -/
inductive PatternFlag where
  | caseless
  | lines
  | dotAll
  | lazy
  | unicode
  | lineEnds
  | spaced
  deriving DecidableEq, Repr

namespace PatternFlag

def ofChar? : Char → Option PatternFlag
  | 'i' => some caseless
  | 'm' => some lines
  | 's' => some dotAll
  | 'U' => some lazy
  | 'u' => some unicode
  | 'R' => some lineEnds
  | 'x' => some spaced
  | _ => none

end PatternFlag

/-- Flags, each with whether it is switched on. -/
abbrev PatternFlags := List (PatternFlag × Bool)

/-- Whether a flag is on after a change of flags, given whether it was on before. -/
def PatternFlags.apply (flags : PatternFlags) (flag : PatternFlag) (before : Bool) : Bool :=
  (flags.lookup flag).getD before

inductive SetOperator where
  | intersection
  | difference
  | symmetricDifference
  deriving DecidableEq, Repr

/-- A set of characters, as written between brackets. -/
inductive CharSet where
  | empty
  | single (char : PatternChar)
  | range (first last : PatternChar)
  /-- A class of ASCII characters by its name, such as `[:alpha:]`. -/
  | named (negated : Bool)
  /-- Digits, white space or the characters of words. -/
  | kind (negated : Bool)
  | bracketed (negated : Bool) (content : CharSet)
  | union (sets : List CharSet)
  | combined (operator : SetOperator) (left right : CharSet)
  deriving Repr

inductive Pattern where
  | empty
  /-- A change of flags for what follows. -/
  | switch (flags : PatternFlags)
  | single (char : PatternChar)
  | any
  /-- The beginning or end of a line or text. -/
  | anchor
  /-- A place where a word begins or ends, or where none does. -/
  | boundary
  /-- Digits, white space or the characters of words. -/
  | kind (negated : Bool)
  | set (content : CharSet)
  | repetition (pattern : Pattern)
  | group (flags : PatternFlags) (pattern : Pattern)
  | sequence (patterns : List Pattern)
  | alternatives (patterns : List Pattern)
  deriving Repr

/-- The flags that decide whether a pattern can be used. -/
structure PatternModes where
  caseless : Bool := false
  unicode : Bool := true
  deriving DecidableEq, Repr

def PatternModes.change (modes : PatternModes) (flags : PatternFlags) : PatternModes where
  caseless := flags.apply .caseless modes.caseless
  unicode := flags.apply .unicode modes.unicode

/-- Why a text cannot be used as a pattern. -/
inductive PatternFault where
  | malformed
  | unicodeBoundary
  deriving DecidableEq, Repr

def PatternFault.message : PatternFault → String
  | .malformed => "error building NFA"
  | .unicodeBoundary =>
    "unsupported regex feature for DFAs: cannot build DFAs for regexes with Unicode word boundaries; " ++
      "switch to ASCII word boundaries, or heuristically enable Unicode word boundaries or use a different " ++
      "regex engine"

/-! ## Nesting -/

namespace CharSet

mutual

/-- How many brackets, unions and operators stand within one another. -/
def depth : CharSet → Nat
  | empty | single _ | range _ _ | named _ | kind _ => 0
  | bracketed _ content => content.depth + 1
  | union sets => greatestDepth sets + 1
  | combined _ left right => max left.depth right.depth + 1

/-- The depth of the deepest of some sets. -/
def greatestDepth : List CharSet → Nat
  | [] => 0
  | set :: sets => max set.depth (greatestDepth sets)

end

end CharSet

namespace Pattern

mutual

/-- How many groups, repetitions, sequences, alternatives and sets stand within one another. -/
def depth : Pattern → Nat
  | empty | switch _ | single _ | any | anchor | boundary | kind _ => 0
  | set content => content.depth
  | repetition pattern => pattern.depth + 1
  | group _ pattern => pattern.depth + 1
  | sequence patterns => greatestDepth patterns + 1
  | alternatives patterns => greatestDepth patterns + 1

/-- The depth of the deepest of some patterns. -/
def greatestDepth : List Pattern → Nat
  | [] => 0
  | pattern :: patterns => max pattern.depth (greatestDepth patterns)

end

/-- The greatest depth of a pattern. -/
def maxDepth : Nat := 250

end Pattern

/-! ## Use -/

/-- Whether a set may hold a character. -/
def PatternModes.admits (modes : PatternModes) (char : PatternChar) : Bool :=
  if modes.unicode then !modes.caseless else char.char.toNat < 0x80

namespace CharSet

mutual

/-- Whether a set can be used.  Sets of Unicode characters know no case and no kinds of characters.  Sets of bytes
hold ASCII characters alone, so none of them is negated. -/
def isUsable (modes : PatternModes) : CharSet → Bool
  | empty => true
  | single char => modes.admits char
  | range first last => modes.admits first && modes.admits last
  | named negated => if modes.unicode then !modes.caseless else !negated
  | kind negated => !modes.unicode && !negated
  | bracketed negated content => (modes.unicode || !negated) && content.isUsable modes
  | union sets => areUsable modes sets
  | combined _ left right => left.isUsable modes && right.isUsable modes

/-- Whether each of some sets can be used. -/
def areUsable (modes : PatternModes) : List CharSet → Bool
  | [] => true
  | set :: sets => set.isUsable modes && areUsable modes sets

end

end CharSet

namespace Pattern

mutual

/-- The modes after a pattern, if it can be used.  `boundaries` says whether boundaries of Unicode words can. -/
def modesAfter? (boundaries : Bool) (modes : PatternModes) : Pattern → Option PatternModes
  | empty | anchor => some modes
  | switch flags => some (modes.change flags)
  | single char =>
    if modes.unicode then if modes.caseless then none else some modes
    else if char.isByte && 0x80 ≤ char.char.toNat then none else some modes
  | any => if modes.unicode then some modes else none
  | boundary => if modes.unicode && !boundaries then none else some modes
  | kind negated => if modes.unicode || negated then none else some modes
  | set content => if content.isUsable modes then some modes else none
  | repetition pattern => pattern.modesAfter? boundaries modes
  | group flags pattern => (pattern.modesAfter? boundaries (modes.change flags)).map fun _ => modes
  | sequence patterns => modesAfterAll? boundaries modes patterns
  | alternatives patterns => modesAfterAll? boundaries modes patterns

/-- The modes after some patterns, one after another. -/
def modesAfterAll? (boundaries : Bool) (modes : PatternModes) : List Pattern → Option PatternModes
  | [] => some modes
  | pattern :: patterns =>
    (pattern.modesAfter? boundaries modes).bind fun modes => modesAfterAll? boundaries modes patterns

end

/-- Why a pattern cannot be used, if it cannot. -/
def fault? (pattern : Pattern) : Option PatternFault :=
  if maxDepth < pattern.depth || (pattern.modesAfter? true {}).isNone then some .malformed
  else if (pattern.modesAfter? false {}).isNone then some .unicodeBoundary
  else none

end Pattern

end TableScript
