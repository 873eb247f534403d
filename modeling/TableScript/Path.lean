import TableScript.Text.Split

/-!
# Paths

Paths as texts: their parts between slashes, what they are joined to, and the names and extensions at their ends.
A path that begins with a slash is absolute.
-/

namespace TableScript.Path

def isAbsolute (path : String) : Bool :=
  path.toList.head? = some '/'

/-- What stands between the slashes; doubled slashes and single dots say nothing. -/
def parts (path : String) : List String :=
  ((Text.splitOn '/' path.toList).map String.ofList).filter fun part => part ≠ "" && part ≠ "."

/-- A path as seen from a directory. -/
def join (directory path : String) : String :=
  if isAbsolute path ∨ directory = "" then path
  else if directory.toList.getLast? = some '/' then directory ++ path
  else directory ++ "/" ++ path

/-- The name of what a path leads to. -/
def fileName? (path : String) : Option String :=
  (parts path).getLast?.filter (· ≠ "..")

/-- A file name up to its last dot and after it; a name that only begins with a dot has no extension. -/
def splitExtension (name : String) : String × Option String :=
  match Text.splitOnce '.' name.toList.reverse with
  | some (extension, stem) =>
    if stem.isEmpty then (name, none)
    else (String.ofList stem.reverse, some (String.ofList extension.reverse))
  | none => (name, none)

def extension? (path : String) : Option String :=
  (fileName? path).bind fun name => (splitExtension name).2

/-- Drops slashes and single dots that say nothing from the end of a path, given backwards. -/
def dropEmptyEnd : List Char → List Char
  | ['/'] => ['/']
  | '/' :: cs => dropEmptyEnd cs
  | '.' :: '/' :: cs => dropEmptyEnd ('/' :: cs)
  | cs => cs

/-- A path without its last part, if it has one. -/
def parent? (path : String) : Option String :=
  match dropEmptyEnd path.toList.reverse with
  | [] => none
  | ['/'] => none
  | cs => some (String.ofList (dropEmptyEnd (cs.dropWhile (· ≠ '/'))).reverse)

/-- A path and those above it, from the inside out, as far as they name something. -/
def ancestry (path : String) : List String :=
  go path.length path
where
  go : Nat → String → List String
  | 0, _ => []
  | bound + 1, path =>
    if path = "" then []
    else path :: ((parent? path).map (go bound)).getD []

/-- A path with an extension after its name, if it has one. -/
def withAddedExtension (path extension : String) : String :=
  match fileName? path with
  | none => path
  | some _ => String.ofList (dropEmptyEnd path.toList.reverse).reverse ++ "." ++ extension

/-- The way from a directory to a path, for absolute paths; a directory does not lead up. -/
def relativeTo (path directory : String) : String :=
  Text.join "/" (go (parts path) (parts directory))
where
  go : List String → List String → List String
  | part :: path, above :: directory =>
    if part = above then go path directory
    else (above :: directory).map (fun _ => "..") ++ part :: path
  | path, directory => directory.map (fun _ => "..") ++ path

end TableScript.Path
