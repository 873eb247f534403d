import TableScript.Path
import TableScript.Text.Utf8

/-!
# File stores

Files, directories and links below a root, and the directory that relative paths start from.  Every directory on the
way of a path has to exist, and a path leads on from a link along the path that the link holds.
-/

namespace TableScript

/-- Why a file cannot be used. -/
inductive FileProblem where
  | notFound
  | exists
  | notDirectory
  | isDirectory
  | nameTooLong
  | tooManyLinks
  | zeroByte
  | notText
  deriving DecidableEq, Repr

def FileProblem.message : FileProblem → String
  | .notFound => "No such file or directory (os error 2)"
  | .exists => "File exists (os error 17)"
  | .notDirectory => "Not a directory (os error 20)"
  | .isDirectory => "Is a directory (os error 21)"
  | .nameTooLong => "File name too long (os error 36)"
  | .tooManyLinks => "Too many levels of symbolic links (os error 40)"
  | .zeroByte => "file name contained an unexpected NUL byte"
  | .notText => "stream did not contain valid UTF-8"

inductive Entry where
  | file (content : List UInt8)
  | directory
  /-- Stands for what a path leads to from the directory of the link. -/
  | link (target : String)
  deriving DecidableEq, Repr

/-- The names of the directories down to a place, and its own. -/
abbrev Location := List String

structure FileStore where
  entries : List (Location × Entry) := []
  workingDirectory : Location := []
  deriving DecidableEq, Repr

namespace FileStore

/-- What there is at a place; the root is a directory. -/
def entry? (store : FileStore) : Location → Option Entry
  | [] => some .directory
  | location => (store.entries.find? fun entry => entry.1 = location).map Prod.snd

/-- Puts an entry in place of the one at its place. -/
def put (store : FileStore) (location : Location) (entry : Entry) : FileStore :=
  { store with entries := (location, entry) :: store.entries.filter fun other => other.1 ≠ location }

/-- The most bytes of a name. -/
def maxNameSize : Nat := 255

/-- The most bytes of a path. -/
def maxPathSize : Nat := 4095

/-- The most links that a path may lead along. -/
def maxLinks : Nat := 40

/-- Where a path begins that is seen from a directory. -/
def startFrom (directory : Location) (path : String) : Location :=
  if Path.isAbsolute path then [] else directory

/-- Where a path begins. -/
def start (store : FileStore) (path : String) : Location :=
  startFrom store.workingDirectory path

/-- What stands between the slashes of a path that may be used. -/
def pieces (path : String) : Except FileProblem (List String) :=
  if path.toList.contains '\x00' then .error .zeroByte
  else if path = "" then .error .notFound
  else if maxPathSize < path.utf8ByteSize then .error .nameTooLong
  else .ok ((Text.splitOn '/' path.toList).map String.ofList)

/-- The place that a part of a path stands for in a directory. -/
def step (store : FileStore) (location : Location) (part : String) : Except FileProblem Location :=
  match store.entry? location with
  | none => .error .notFound
  | some .directory =>
    if part = "" ∨ part = "." then .ok location
    else if part = ".." then .ok location.dropLast
    else if maxNameSize < part.utf8ByteSize then .error .nameTooLong
    else .ok (location ++ [part])
  | some _ => .error .notDirectory

/-- Where a walk stops. -/
inductive Stop where
  /-- At the end of the path. -/
  | place (location : Location)
  /-- At a link, with the parts of the path after it. -/
  | link (location : Location) (target : String) (rest : List String)

/-- Goes from a place along the parts of a path, up to the first link. -/
def stride (store : FileStore) : Location → List String → Except FileProblem Stop
  | location, [] => .ok (.place location)
  | location, part :: path =>
    match store.step location part with
    | .error problem => .error problem
    | .ok next => match store.entry? next with
      | some (.link target) => .ok (.link next target path)
      | _ => store.stride next path

/-- Goes from a place along the parts of a path and along the links on it, as long as these are not too many. -/
def walk (store : FileStore) (links : Nat) (location : Location) (path : List String) :
    Except FileProblem Location :=
  match store.stride location path with
  | .error problem => .error problem
  | .ok (.place location) => .ok location
  | .ok (.link location target rest) => match links, pieces target with
    | 0, _ => .error .tooManyLinks
    | _, .error problem => .error problem
    | links + 1, .ok parts => store.walk links (startFrom location.dropLast target) (parts ++ rest)

/-- The place that a path leads to, at which there need not be anything. -/
def locate (store : FileStore) (path : String) : Except FileProblem Location := do
  store.walk maxLinks (store.start path) (← pieces path)

/-- The place that the last part of a path names, where there may be a link. -/
def locateLast (store : FileStore) (path : String) : Except FileProblem Location := do
  let parts ← pieces path
  store.step (← store.walk maxLinks (store.start path) parts.dropLast) (parts.getLastD "")

/-- What a path leads to. -/
def lookUp (store : FileStore) (path : String) : Except FileProblem (Location × Entry) := do
  let location ← store.locate path
  match store.entry? location with
  | some entry => .ok (location, entry)
  | none => .error .notFound

def isPresent (store : FileStore) (path : String) : Bool :=
  (store.lookUp path).isOk

def isFile (store : FileStore) (path : String) : Bool :=
  match store.lookUp path with
  | .ok (_, .file _) => true
  | _ => false

def isDirectory (store : FileStore) (path : String) : Bool :=
  match store.lookUp path with
  | .ok (_, .directory) => true
  | _ => false

/-- The content of a file. -/
def read (store : FileStore) (path : String) : Except FileProblem (List UInt8) := do
  match ← store.lookUp path with
  | (_, .file content) => .ok content
  | (_, .directory) => .error .isDirectory
  | (_, .link _) => .error .tooManyLinks

/-- The content of a file as a text. -/
def readText (store : FileStore) (path : String) : Except FileProblem String := do
  match Text.ofBytes? (← store.read path) with
  | some text => .ok text
  | none => .error .notText

/-- The absolute path of a place. -/
def pathOf (location : Location) : String :=
  "/" ++ Text.join "/" location

/-- A path as seen from the working directory. -/
def absolute (store : FileStore) (path : String) : String :=
  Path.join (pathOf store.workingDirectory) path

/-- The path of the place that a path leads to, or the path itself if it leads to nothing or that path is too long. -/
def realPath (store : FileStore) (path : String) : String :=
  match store.lookUp path with
  | .ok (location, _) => if maxPathSize < (pathOf location).utf8ByteSize then path else pathOf location
  | .error _ => path

/-! ## Changes -/

/-- Makes a directory under a path that does not end in a slash. -/
def makeDirectory (store : FileStore) (path : String) : Except FileProblem FileStore := do
  let location ← store.locateLast path
  match store.entry? location with
  | some _ => .error .exists
  | none => .ok (store.put location .directory)

/-- Makes a directory that there may be already. -/
def ensureDirectory (store : FileStore) (path : String) : Except FileProblem FileStore :=
  match store.makeDirectory path with
  | .ok store => .ok store
  | .error problem => if store.isDirectory path then .ok store else .error problem

/-- Makes the first of some directories, each of which lies in the next, and those of the others that are missing.
What was made before a problem stays. -/
def makeDirectories (store : FileStore) : List String → Except FileProblem Unit × FileStore
  | [] => (.ok (), store)
  | path :: above =>
    match store.ensureDirectory path with
    | .ok store => (.ok (), store)
    | .error .notFound =>
      match store.makeDirectories above with
      | (.error problem, store) => (.error problem, store)
      | (.ok (), store) => match store.ensureDirectory path with
        | .ok store => (.ok (), store)
        | .error problem => (.error problem, store)
    | .error problem => (.error problem, store)

/-- Opens a file for writing at its end; one that is missing is made.  A name with a slash after it can only be that
of a directory, whether there is one or not. -/
def openAtEnd (store : FileStore) (path : String) : Except FileProblem (Location × FileStore) := do
  let names := (← pieces path).filter (· ≠ "")
  if path.toList.getLast? = some '/' ∧ names.getLast? ≠ some "." ∧ names.getLast? ≠ some ".." then
    let _ ← store.walk maxLinks (store.start path) (names.dropLast ++ ["."])
    throw .isDirectory
  else
    let location ← store.locate path
    match store.entry? location with
    | some (.file _) => return (location, store)
    | some .directory => throw .isDirectory
    | some (.link _) => throw .tooManyLinks
    | none => return (location, store.put location (.file []))

/-- The entries that differ from those of an earlier store, from the outside in. -/
def changesSince (store earlier : FileStore) : List (Location × Entry) :=
  (store.entries.filter fun (location, entry) => earlier.entry? location ≠ some entry).mergeSort
    fun a b => a.1.length ≤ b.1.length

/-- Writes at the end of a file. -/
def append (store : FileStore) (location : Location) (content : List UInt8) : FileStore :=
  match store.entry? location with
  | some (.file before) => store.put location (.file (before ++ content))
  | _ => store

end FileStore

end TableScript
