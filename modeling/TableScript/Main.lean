import Std.Time.DateTime
import TableScript.Program

/-!
# The command-line program

Reads the environment and the files that a run may use, runs the program on them, and writes what comes of it.
-/

namespace TableScript.CommandLineProgram

/-- The variables that the process was started with. -/
def readVariables : IO (List (String × String)) := do
  let bytes ← IO.FS.readBinFile "/proc/self/environ"
  let entries := Text.splitOn '\x00' (Text.ofBytes bytes.toList).toList
  return Dict.ofList (entries.filterMap fun entry =>
    (Text.splitOnce '=' entry).map fun (name, value) => (String.ofList name, String.ofList value))

/-- The time in universal time, to the nanosecond. -/
def readTime : IO String := do
  let now := (← Std.Time.Timestamp.now).toNanosecondsSinceUnixEpoch
  let moment := Std.Time.PlainDateTime.ofWallTime (Std.Time.WallTime.ofNanoseconds now)
  let padded (width n : Nat) : String :=
    let digits := Text.decimal n
    String.ofList (List.replicate (width - digits.length) '0') ++ digits
  let date := padded 4 moment.date.year.toInt.toNat ++ "-" ++ padded 2 moment.date.month.toNat ++ "-" ++
    padded 2 moment.date.day.toNat
  let time := padded 2 moment.time.hour.toNat ++ ":" ++ padded 2 moment.time.minute.toNat ++ ":" ++
    padded 2 moment.time.second.toNat ++ "." ++ padded 9 moment.time.nanosecond.toNat
  return date ++ "T" ++ time ++ "+00:00"

/-- What there is at a path that leads along no link before its end; what cannot be read counts as missing. -/
def readEntry (path : String) : IO (Option Entry) := do
  let place := (← IO.currentDir) / path
  if ← place.pathExists then
    try
      let target := (← IO.FS.realPath place).toString
      if target ≠ path then return some (.link target)
      else if ← place.isDir then return some .directory
      else return some (.file (← IO.FS.readBinFile place).toList)
    catch _ => return none
  else return none

/-- Adds what there is at a place to a store, unless the store knows it. -/
def readPlace (files : FileStore) (location : Location) : IO FileStore := do
  if (files.entry? location).isSome then return files
  match ← readEntry (FileStore.pathOf location) with
  | some entry => return files.put location entry
  | none => return files

/-- Adds what there is at the places down to one to a store. -/
def readDown (files : FileStore) (location : Location) : IO FileStore :=
  ((List.range (location.length + 1)).map location.take).foldlM readPlace files

/-- Adds what the parts of a path lead past to a store, from a place on.  Links are read with their targets, which lead
along no other links. -/
def readAlong : FileStore → Location → List String → IO FileStore
  | files, _, [] => return files
  | files, location, part :: parts => do
    let next := if part = ".." then location.dropLast else location ++ [part]
    let files ← readPlace files next
    match files.entry? next with
    | some (.link target) =>
      let location := Path.parts target
      readAlong (← readDown files location) location parts
    | _ => readAlong files next parts

/-- Adds what some paths lead past to a store. -/
def readPaths (files : FileStore) (paths : List String) : IO FileStore :=
  paths.foldlM (fun files path => readAlong files (files.start path) (Path.parts path)) files

/-- Makes a directory, or adds to a file what it has more than before. -/
def writeChange (before : FileStore) (change : Location × Entry) : IO Unit := do
  let path := FileStore.pathOf change.1
  match change.2 with
  | .link _ => return
  | .directory => IO.FS.createDirAll path
  | .file content =>
    let known := match before.entry? change.1 with
      | some (.file earlier) => earlier.length
      | _ => 0
    let handle ← IO.FS.Handle.mk path .append
    handle.write (content.drop known).toByteArray

/-- The files that a run with these arguments may use.  The place of the user's file is known when it has been read. -/
def readFiles (environment : Environment) (arguments : List String) : IO FileStore := do
  let directory := Path.parts (← IO.currentDir).toString
  let start ← readDown { workingDirectory := directory } directory
  match CommandLine.parse arguments with
  | .error _ => return start
  | .ok commandLine =>
    let options := commandLine.options
    let files ← readPaths start (Program.configurationPaths environment start options)
    let files ← readPaths files (Program.configurationPaths environment files options)
    readPaths files (Program.workPaths environment files commandLine)

end TableScript.CommandLineProgram

open TableScript CommandLineProgram in
def main (arguments : List String) : IO UInt32 := do
  let environment : Environment := { entries := ← readVariables }
  let files ← readFiles environment arguments
  let outcome := Program.run environment files (← readTime) arguments
  (outcome.files.changesSince files).forM (writeChange files)
  IO.print outcome.stdout
  IO.eprint outcome.stderr
  return UInt32.ofNat outcome.exitCode
