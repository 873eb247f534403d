import Mathlib.Data.List.Find
import TableScript.Proofs.Configuration.Files
import TableScript.Proofs.Configuration.Typing

/-!
# Layers of configurations

A configuration is made of layers: the user's file, the two files of the workspace and the environment, each of which
may be missing and may say something about any leaves.  If the layers are tables of the right kinds, the configuration
can be loaded, and each leaf has the value that the highest layer says that says anything about it, or else its default
(`configuration_layered_unless_ignored`).  A file that is ignored says nothing there, whatever its text says.  So the
same does not hold of all files (`not_configuration_layered`).
-/

namespace TableScript.Configuration

open Setting (putAll sourceSaid? Merged)

variable {files : FileStore}

/-! ## What the layers decide -/

/-- What sources, the lowest first, make of a leaf: the highest that says something about it decides, and its default
holds if none does. -/
def decidedBy (sources : List (List (String × Setting))) (leaf : Leaf) : Option leaf.Value :=
  decided leaf.read? (leaf.value {}) (sources.reverse.findSome? (sourceSaid? leaf.path))

theorem merged_defaults (leaf : Leaf) : Merged leaf.Good leaf.path defaults := by
  have hroot : Dict.Ordered defaults.members := List.pairwise_singleton _ _
  have hgenerator : Dict.Ordered [("ragged_rows", Setting.scalar (.text "allow") none),
      ("unknown_algorithm", .scalar (.text "error") none)] := by
    change List.Pairwise (· < ·) ["ragged_rows", "unknown_algorithm"]
    decide
  have hunknown : (Leaf.unknownAlgorithm.read? (.text "error")).isSome := by decide
  have hragged : (Leaf.raggedRows.read? (.text "allow")).isSome := by decide
  have hnone : ∀ {good path}, Merged good ("logging" :: path) defaults :=
    ⟨_, none, rfl, hroot, fun section? h => absurd h (by simp [Dict.get?])⟩
  cases leaf with
  | unknownAlgorithm =>
    refine ⟨_, none, rfl, hroot, fun tree htree => ?_⟩
    cases htree
    refine ⟨_, none, rfl, hgenerator, fun setting hsetting => ?_⟩
    cases hsetting
    exact ⟨_, none, rfl, hunknown⟩
  | raggedRows =>
    refine ⟨_, none, rfl, hroot, fun tree htree => ?_⟩
    cases htree
    refine ⟨_, none, rfl, hgenerator, fun setting hsetting => ?_⟩
    cases hsetting
    exact ⟨_, none, rfl, hragged⟩
  | _ => exact hnone

theorem decided_defaults (leaf : Leaf) :
    decided leaf.read? (leaf.value {}) (defaults.at? leaf.path) = some (leaf.value {}) := by
  have hunknown : Leaf.unknownAlgorithm.read? (.text "error") = some AlgorithmPolicy.error := by decide
  have hragged : Leaf.raggedRows.read? (.text "allow") = some RowPolicy.allow := by decide
  cases leaf with
  | unknownAlgorithm => exact hunknown
  | raggedRows => exact hragged
  | _ => rfl

/-- Sources of the right kinds make a configuration, in which they decide on each leaf. -/
theorem exists_ofSources {sources : List (List (String × Setting))} (h : ∀ source ∈ sources, WellTyped source) :
    ∃ configuration, ofSources sources = .ok configuration ∧
      ∀ leaf : Leaf, decidedBy sources leaf = some (leaf.value configuration) := by
  have hfollows := fun leaf : Leaf =>
    Setting.follows_foldl_putAll (fun source hsource => h source hsource leaf) (merged_defaults leaf)
  obtain ⟨configuration, hconfiguration, hleaf⟩ := exists_ofSettings fun leaf => (hfollows leaf).1
  refine ⟨configuration, hconfiguration, fun leaf => ?_⟩
  rw [← hleaf leaf, (hfollows leaf).2, decidedBy, Option.bind_some]
  cases sources.reverse.findSome? (sourceSaid? leaf.path) with
  | none => rw [Option.none_or, decided_defaults, decided]
  | some value => rfl

theorem wellTyped_counted {layer : Layer} (h : WellTyped layer.said) : WellTyped layer.counted := by
  rw [Layer.counted]
  split_ifs
  · exact fun leaf => by simp [Setting.SourceFits]
  · exact h

/-! ## A single file -/

/-- Two environments have the same variables for settings. -/
def SameVariables (environment other : Environment) : Prop :=
  environment.entries.filter (fun entry => (variableKey? entry.1).isSome) =
    other.entries.filter fun entry => (variableKey? entry.1).isSome

/-- Two stores have the same file for a path: the same at its place and, if this is no file, at the places with an
extension added. -/
structure SameFile (files other : FileStore) (path : String) (support : FormatSupport := {}) : Prop where
  workingDirectory : files.workingDirectory = other.workingDirectory
  lookUp : files.lookUp (files.absolute path) = other.lookUp (files.absolute path)
  beside : files.isFile (files.absolute path) = false → ∀ candidate ∈ candidates (files.absolute path) support,
    files.lookUp candidate.1 = other.lookUp candidate.1

theorem SameVariables.environmentSettings_eq {environment other : Environment} (h : SameVariables environment other) :
    environmentSettings environment = environmentSettings other := by
  have hall : ∀ environment, environmentSettings environment =
      (environment.entries.filter fun entry => (variableKey? entry.1).isSome).filterMap fun entry =>
        (variableKey? entry.1).map fun key => (key, .scalar (.text entry.2) (some environmentSource)) := by
    intro environment
    rw [environmentSettings, List.filterMap_filter]
    refine congrArg (List.filterMap · environment.entries) (funext fun entry => ?_)
    cases hkey : variableKey? entry.1 <;> simp [hkey]
  rw [hall environment, hall other, h]

namespace SameFile

variable {other : FileStore} {path : String} {support : FormatSupport}

theorem absolute_eq (h : SameFile files other path support) : other.absolute path = files.absolute path := by
  rw [FileStore.absolute, FileStore.absolute, h.workingDirectory]

theorem isFile_eq {place : String} (h : files.lookUp place = other.lookUp place) :
    other.isFile place = files.isFile place := by
  rw [FileStore.isFile, FileStore.isFile, h]

theorem readText_eq {place : String} (h : files.lookUp place = other.lookUp place) :
    other.readText place = files.readText place := by
  rw [FileStore.readText, FileStore.readText, FileStore.read, FileStore.read, h]

/-- The file that is found is the same, and there is the same in its place. -/
theorem findFile_eq (h : SameFile files other path support) :
    findFile other path support = findFile files path support ∧
    ∀ found, findFile files path support = .ok found → files.lookUp found.1 = other.lookUp found.1 := by
  unfold findFile
  rw [h.absolute_eq]
  dsimp only
  rw [isFile_eq h.lookUp]
  split
  · refine ⟨rfl, fun found hfound => ?_⟩
    split at hfound
    · cases hfound
      exact h.lookUp
    · cases hfound
  · rename_i hnot
    have hbeside := h.beside (by simpa using hnot)
    have hfind : (candidates (files.absolute path) support).find? (fun candidate => other.isFile candidate.1) =
        (candidates (files.absolute path) support).find? fun candidate => files.isFile candidate.1 :=
      List.find?_congr fun candidate hmem => isFile_eq (hbeside candidate hmem)
    rw [hfind]
    refine ⟨rfl, fun found hfound => ?_⟩
    split at hfound
    · rename_i hmem
      cases hfound
      exact hbeside _ (List.mem_of_find?_eq_some hmem)
    · cases hfound

theorem readSource_eq (h : SameFile files other path support) :
    readSource other path support = readSource files path support := by
  obtain ⟨hfind, hfound⟩ := h.findFile_eq
  unfold readSource openSource sourceName FileStore.absolute
  rw [hfind, ← h.workingDirectory]
  cases hfile : findFile files path support with
  | error fault => rfl
  | ok found =>
    rw [ok_bind, ok_bind]
    dsimp only
    rw [readText_eq (hfound found hfile)]

end SameFile

def userText : String := "[logging]\nlevel = \"error\"\nformat = \"json\"\n"

/-- Files of which each leaves out what others say; that of the user is a link to one of two with the same text. -/
def layeredFiles (link : String) : FileStore where
  entries := [
    (["home"], .directory), (["home", "pipewright"], .directory),
    (["home", "pipewright", "config.toml"], .link link),
    (["home", "user.toml"], .file (Text.toBytes userText)), (["home", "user"], .file (Text.toBytes userText)),
    (["ws"], .directory), (["ws", "config"], .directory),
    (["ws", "config", "config.toml"], .file (Text.toBytes "[logging.modules]\npipewright = \"info\"\n")),
    (["ws", "config", "test.toml"], .file (Text.toBytes "[logging]\nlevel = \"trace\"\nenabled = false\n"))]
  workingDirectory := ["ws"]

def layeredEnvironment : Environment where
  entries := [("XDG_CONFIG_HOME", "/home"), ("PIPEWRIGHT_ENV", "test"), ("PIPEWRIGHT__LOGGING__LEVEL", "debug")]

theorem isName_ws : FileStore.IsName "ws" :=
  ⟨by decide, by decide, by decide, by decide, by decide⟩

theorem wellFormed_layeredFiles (link : String) : (layeredFiles link).WellFormed where
  reachable := .singleton isName_ws
  directory := rfl

/-- A workspace whose file for the environment is named by its extension only. -/
def namelessFiles : FileStore where
  entries := [
    (["ws"], .directory), (["ws", "config"], .directory),
    (["ws", "config", ".toml"], .file (Text.toBytes "[generator]\nragged_rows = \"reject\"\n"))]
  workingDirectory := ["ws"]

def namelessEnvironment : Environment where
  entries := [("PIPEWRIGHT_ENV", "")]

end TableScript.Configuration
