import TableScript.Dict
import TableScript.Toml.Scalar

/-!
# Reading TOML

A document is read line by line into a tree of tables.  A table that a header or a dotted key only passes through
is implicit; a header may define it once later, and only dotted keys may add to one that dotted keys have made.
Members keep the order of the document; a table that was implicit stands where its header is.
-/

namespace TableScript.Toml

/-- A part of a document: a value, a table, or the tables of an array. -/
inductive Node where
  | value (value : Toml)
  | table (implicit dotted : Bool) (members : List (String × Node))
  | tables (items : List (List (String × Node)))
  deriving Inhabited

mutual

def Node.toToml : Node → Toml
  | .value value => value
  | .table _ _ members => .table (membersToToml members)
  | .tables items => .array (tablesToToml items)

def membersToToml : List (String × Node) → List (String × Toml)
  | [] => []
  | (key, node) :: members => (key, node.toToml) :: membersToToml members

def tablesToToml : List (List (String × Node)) → List Toml
  | [] => []
  | members :: items => .table (membersToToml members) :: tablesToToml items

end

/-- Puts a member in the place of the one with its key, or after all others. -/
def setMember (key : String) (node : Node) : List (String × Node) → List (String × Node)
  | [] => [(key, node)]
  | (other, old) :: members =>
    if other = key then (key, node) :: members else (other, old) :: setMember key node members

/-- What is done to the members of a table, of which it is known whether dotted keys made it. -/
abbrev Change := Bool → List (String × Node) → Option (List (String × Node))

/-- Changes the table at the end of a path, making the tables on the way that are missing. -/
def update (byDottedKey : Bool) (change : Change) : List String → Change
  | [], isDotted, members => change isDotted members
  | key :: path, _, members => match Dict.get? key members with
    | none => do
      let inner ← update byDottedKey change path byDottedKey []
      return setMember key (.table true byDottedKey inner) members
    | some (.value _) => none
    | some (.table implicit isDotted inner) =>
      if byDottedKey ∧ !implicit then none
      else do
        let inner ← update byDottedKey change path isDotted inner
        return setMember key (.table implicit isDotted inner) members
    | some (.tables items) => do
      let last ← items.getLast?
      let last ← update byDottedKey change path false last
      return setMember key (.tables (items.dropLast ++ [last])) members

/-- Puts a value under a dotted key into a table; nothing may stand there yet. -/
def insertValue (path : List String) (key : String) (value : Toml) (members : List (String × Node)) :
    Option (List (String × Node)) :=
  update true (fun isDotted inner =>
    if isDotted = path.isEmpty then none
    else match Dict.get? key inner with
      | none => some (setMember key (.value value) inner)
      | some _ => none) path false members

/-- Defines the table of a header. -/
def defineTable (path : List String) (key : String) (root : List (String × Node)) :
    Option (List (String × Node)) :=
  update false (fun _ members => match Dict.get? key members with
    | none => some (setMember key (.table false false []) members)
    | some (.table true false inner) => some (Dict.erase key members ++ [(key, .table false false inner)])
    | some _ => none) path false root

/-- Adds a table to the array of a header. -/
def addTable (path : List String) (key : String) (root : List (String × Node)) :
    Option (List (String × Node)) :=
  update false (fun _ members => match Dict.get? key members with
    | none => some (setMember key (.tables [[]]) members)
    | some (.tables items) => some (setMember key (.tables (items ++ [[]])) members)
    | some _ => none) path false root

/-- Changes the table that the last header defined. -/
def updateTable (change : List (String × Node) → Option (List (String × Node))) :
    List String → List (String × Node) → Option (List (String × Node))
  | [], members => change members
  | key :: path, members => match Dict.get? key members with
    | some (.table implicit dotted inner) => do
      let inner ← updateTable change path inner
      return setMember key (.table implicit dotted inner) members
    | some (.tables items) => do
      let last ← items.getLast?
      let last ← updateTable change path last
      return setMember key (.tables (items.dropLast ++ [last])) members
    | _ => none

/-! ## Keys and values -/

def isBareKeyChar (c : Char) : Bool :=
  ('A' ≤ c && c ≤ 'Z') || ('a' ≤ c && c ≤ 'z') || ('0' ≤ c && c ≤ '9') || c = '-' || c = '_'

/-- Reads one part of a key. -/
def readSimpleKey : List Char → Option (String × List Char)
  | '"' :: rest => readBasicAfter [] 0 rest
  | '\'' :: rest => readLiteral rest
  | cs =>
    let key := cs.takeWhile isBareKeyChar
    if key.isEmpty then none else some (String.ofList key, cs.drop key.length)

/-- Reads the parts of a key with the white space around them; at most `bound` of them. -/
def readKey : Nat → List Char → Option (List String × List Char)
  | 0, _ => none
  | bound + 1, cs => do
    let (key, rest) ← readSimpleKey (skipSpace cs)
    match skipSpace rest with
    | '.' :: rest =>
      let (keys, rest) ← readKey bound rest
      return (key :: keys, rest)
    | rest => return ([key], rest)

/-- The number of levels that keys and values may have. -/
def maxDepth : Nat := 79

/-- Reads a key as the path to a table and the last part. -/
def readPath (cs : List Char) : Option ((List String × String) × List Char) := do
  let (keys, rest) ← readKey maxDepth cs
  let last ← keys.getLast?
  return ((keys.dropLast, last), rest)

/-- Skips a comment, if there is one. -/
def skipComment : List Char → List Char
  | '#' :: rest => rest.dropWhile isPlain
  | rest => rest

/-- Skips white space, comments and line ends, inside a comment at first or not. -/
def skipLinesFrom : Bool → List Char → List Char
  | _, [] => []
  | _, '\n' :: cs => skipLinesFrom false cs
  | _, '\r' :: '\n' :: cs => skipLinesFrom false cs
  | true, c :: cs => if isPlain c then skipLinesFrom true cs else c :: cs
  | false, c :: cs =>
    if isSpace c then skipLinesFrom false cs
    else if c = '#' then skipLinesFrom true cs
    else c :: cs

def skipLines (cs : List Char) : List Char :=
  skipLinesFrom false cs

/-- A reader of values. -/
abbrev ValueReader := List Char → Option (Toml × List Char)

/-- Reads the items of an array after those in `done` (latest first); the bound exceeds their number. -/
def readItems (read : ValueReader) (done : List Toml) : Nat → ValueReader
  | 0, _ => none
  | bound + 1, cs => match skipLines cs with
    | ']' :: rest => some (.array done.reverse, rest)
    | cs => do
      let (item, rest) ← read cs
      match skipLines rest with
      | ',' :: rest => readItems read (item :: done) bound rest
      | ']' :: rest => some (.array (item :: done).reverse, rest)
      | _ => none

/-- Reads a key with its value. -/
def readPair (read : ValueReader) (cs : List Char) :
    Option (((List String × String) × Toml) × List Char) := do
  let (path, rest) ← readPath cs
  let rest ← expect '=' rest
  let (value, rest) ← read (skipSpace rest)
  return ((path, value), rest)

/-- Reads the pairs of an inline table after those in `members`; the bound exceeds their number. -/
def readPairs (read : ValueReader) (members : List (String × Node)) : Nat → ValueReader
  | 0, _ => none
  | bound + 1, cs => do
    let (((path, key), value), rest) ← readPair read cs
    let members ← insertValue path key value members
    match skipSpace rest with
    | ',' :: rest => readPairs read members bound rest
    | '}' :: rest => some (.table (membersToToml members), rest)
    | _ => none

/-- Reads a value; `nested` reads the values inside it, of which there are fewer than `bound`. -/
def readValueWith (bound : Nat) (nested : Option ValueReader) : ValueReader
  | '[' :: rest => match nested with
    | some read => readItems read [] bound rest
    | none => none
  | '{' :: rest => match nested with
    | some read => match skipSpace rest with
      | '}' :: rest => some (.table [], rest)
      | rest => readPairs read [] bound rest
    | none => none
  | 't' :: 'r' :: 'u' :: 'e' :: rest => some (.bool true, rest)
  | 'f' :: 'a' :: 'l' :: 's' :: 'e' :: rest => some (.bool false, rest)
  | '"' :: rest => (readString ('"' :: rest)).map fun (text, rest) => (.string text, rest)
  | '\'' :: rest => (readString ('\'' :: rest)).map fun (text, rest) => (.string text, rest)
  | cs => readDateOrNumber cs

/-- Reads a value with at most `depth` levels of arrays and inline tables. -/
def readValue (bound : Nat) : Nat → ValueReader
  | 0 => readValueWith bound none
  | depth + 1 => readValueWith bound (some (readValue bound depth))

/-! ## Documents -/

/-- What has been read of a document: its tables, and the header whose table the next lines belong to. -/
structure State where
  root : List (String × Node) := []
  header : List String := []

/-- Reads the end of a line: white space, a comment, and a line end unless the text ends. -/
def readLineEnd (cs : List Char) : Option (List Char) :=
  match skipComment (skipSpace cs) with
  | [] => some []
  | rest => dropLineEnd? rest

/-- Reads a header after its bracket. -/
def readHeader (state : State) (cs : List Char) : Option (State × List Char) :=
  match cs with
  | '[' :: cs => do
    let ((path, key), rest) ← readPath cs
    let rest ← expect ']' (← expect ']' rest)
    let root ← addTable path key state.root
    return (⟨root, path ++ [key]⟩, rest)
  | cs => do
    let ((path, key), rest) ← readPath cs
    let rest ← expect ']' rest
    let root ← defineTable path key state.root
    return (⟨root, path ++ [key]⟩, rest)

/-- Reads the lines of a document; at most `bound` of them. -/
def readDocument (state : State) : Nat → List Char → Option State
  | 0, _ => none
  | bound + 1, cs => match skipSpace cs with
    | [] => some state
    | '#' :: rest => do readDocument state bound (← readLineEnd ('#' :: rest))
    | '\n' :: rest => readDocument state bound rest
    | '\r' :: rest => do readDocument state bound (← expect '\n' rest)
    | '[' :: rest => do
      let (state, rest) ← readHeader state rest
      readDocument state bound (← readLineEnd rest)
    | rest => do
      let (((path, key), value), rest) ← readPair (readValue (bound + 2) maxDepth) rest
      let root ← updateTable (insertValue path key value) state.header state.root
      readDocument { state with root := root } bound (← readLineEnd rest)

/-- Reads a TOML document as the members of its root table. -/
def read (text : String) : Option (List (String × Toml)) :=
  let cs := match text.toList with
    | '\uFEFF' :: rest => rest
    | cs => cs
  (readDocument {} (cs.length + 2) cs).map fun state => membersToToml state.root

end TableScript.Toml
