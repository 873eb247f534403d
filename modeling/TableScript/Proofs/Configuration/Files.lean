import TableScript.Configuration.Sources
import TableScript.Proofs.FileStore.RealPath
import TableScript.Proofs.Path

/-!
# Files of configurations

A configuration is made from files at some places, and what such a file says is in its text.  A file is read under a
name: the path of its place, or the real path of this for the user's file.  It is ignored if the name tells no format,
or is too long for a path.  Everything that is not ignored is read as it stands (`FilePlace.read_eq`), and what is
loaded is made of what is read (`load_outcome`).
-/

namespace TableScript.Configuration

open Setting (putAll)

/-! ## Places of files -/

/-- A place at which there may be a file, and the name that it is read under. -/
structure FilePlace where
  path : String
  name : String

namespace FilePlace

variable (place : FilePlace) (files : FileStore) (support : FormatSupport := {})

/-- The name as a path from the root. -/
def fullName : String :=
  files.absolute place.name

/-- What the text of the file at a place says, in the format that its name tells, or in TOML if that tells none; nothing
if there is no file. -/
def said : Except ConfigurationFault (List (String × Setting)) :=
  if files.isFile place.path then do
    let text ← (files.readText place.path).mapError .unreadable
    parseSource ((FileFormat.ofPath? (place.fullName files)).getD .toml) (sourceName files place.name) text support
  else .ok []

/-- There is a file at a place, but its name tells no format or is too long. -/
def Ignored : Prop :=
  files.isFile place.path ∧
    (FileFormat.ofPath? (place.fullName files) = none ∨ FileStore.maxPathSize < (place.fullName files).utf8ByteSize)

instance : Decidable (place.Ignored files) :=
  inferInstanceAs (Decidable (_ ∧ _))

/-- Where there is something at a place, but no file under its name, there is none with an extension added either. -/
def Alone : Prop :=
  files.isPresent place.path → files.isFile (place.fullName files) = false →
    ∀ candidate ∈ candidates (place.fullName files) support, files.isFile candidate.1 = false

instance : Decidable (place.Alone files support) :=
  inferInstanceAs (Decidable (_ → _ → _))

/-- What is read of the file at a place. -/
def read : Except ConfigurationFault (List (String × Setting)) :=
  if files.isPresent place.path then readOptionalSource files place.name support else .ok []

end FilePlace

/-- The places of the files for a configuration, the lowest first: the user's file, which is read under its real path,
and the two of the workspace. -/
def filePlaces (environment : Environment) (files : FileStore) (workspace : String) : List FilePlace :=
  environment.userFile?.toList.map (fun path => ⟨path, files.realPath path⟩) ++
    (workspaceFiles environment workspace).map fun path => ⟨path, path⟩

/-- What a file says, and whether it is ignored. -/
structure Layer where
  said : List (String × Setting)
  ignored : Bool

/-- What counts of a layer. -/
def Layer.counted (layer : Layer) : List (String × Setting) :=
  if layer.ignored then [] else layer.said

/-- The file at a place as a layer. -/
def FilePlace.layer (place : FilePlace) (files : FileStore) (support : FormatSupport := {}) :
    Except ConfigurationFault Layer :=
  (place.said files support).map fun said => ⟨said, place.Ignored files⟩

/-- The files for a configuration as layers, the lowest first. -/
def fileLayers (environment : Environment) (files : FileStore) (workspace : String) (support : FormatSupport := {}) :
    Except ConfigurationFault (List Layer) :=
  (filePlaces environment files workspace).mapM fun place => place.layer files support

variable {environment : Environment} {files : FileStore} {workspace : String} {support : FormatSupport}
  {place : FilePlace}

/-! ## What is read of a file -/

theorem absolute_absolute (files : FileStore) (path : String) :
    files.absolute (files.absolute path) = files.absolute path := by
  rw [FileStore.absolute, Path.join, if_pos (Or.inl (FileStore.isAbsolute_absolute files path))]

theorem findFile_of_missing {name : String} (hmissing : files.isFile (files.absolute name) = false)
    (h : ∀ candidate ∈ candidates (files.absolute name) support, files.isFile candidate.1 = false) :
    findFile files name support = .error (.fileMissing name) := by
  have hfind : (candidates (files.absolute name) support).find? (fun candidate => files.isFile candidate.1) = none :=
    List.find?_eq_none.2 fun candidate hmem => by simp [h candidate hmem]
  unfold findFile
  dsimp only
  rw [if_neg (by simp [hmissing]), hfind]

/-- A file that is missing under a name is not read, if there is none with an extension added. -/
theorem readOptionalSource_of_missing {name : String} (hmissing : files.isFile (files.absolute name) = false)
    (h : ∀ candidate ∈ candidates (files.absolute name) support, files.isFile candidate.1 = false) :
    readOptionalSource files name support = .ok [] := by
  unfold readOptionalSource openSource
  rw [findFile_of_missing hmissing h]
  rfl

/-- The file that a path leads to is opened with its text, if the path tells a format. -/
theorem openSource_of_isFile {name text : String} (hfile : files.isFile (files.absolute name))
    (htext : files.readText (files.absolute name) = .ok text) :
    openSource files name support = match FileFormat.ofPath? (files.absolute name) with
      | some format => .ok ⟨sourceName files name, format, text⟩
      | none => .error (.unknownFileFormat (files.absolute name)) := by
  unfold openSource findFile
  dsimp only
  rw [if_pos hfile]
  cases FileFormat.ofPath? (files.absolute name) with
  | none => exact error_bind _ _
  | some format =>
    dsimp only
    rw [ok_bind, mapError_eq_ok_iff.2 htext, ok_bind, sourceName, sourceName, absolute_absolute]
    rfl

/-- The file that a path leads to is read in the format that the path tells, and ignored if it tells none. -/
theorem readOptionalSource_of_isFile {name text : String} (hfile : files.isFile (files.absolute name))
    (htext : files.readText (files.absolute name) = .ok text) :
    readOptionalSource files name support = match FileFormat.ofPath? (files.absolute name) with
      | some format => parseSource format (sourceName files name) text support
      | none => .ok [] := by
  unfold readOptionalSource
  rw [openSource_of_isFile hfile htext]
  cases FileFormat.ofPath? (files.absolute name) with
  | none => rfl
  | some format => rfl

theorem FilePlace.layer_eq_ok {layer : Layer} (h : place.layer files support = .ok layer) :
    ∃ said, place.said files support = .ok said ∧ ⟨said, place.Ignored files⟩ = layer := by
  unfold FilePlace.layer at h
  cases hsaid : place.said files support with
  | error fault =>
    rw [hsaid] at h
    cases h
  | ok said =>
    rw [hsaid] at h
    exact ⟨said, rfl, Except.ok.inj h⟩

/-- What is not ignored of a layer is read. -/
theorem FilePlace.read_eq (hfiles : files.WellFormed) (hname : place.name ≠ "")
    (hsame : files.lookUp place.name = files.lookUp place.path) (halone : place.Alone files support) {layer : Layer}
    (h : place.layer files support = .ok layer) : place.read files support = .ok layer.counted := by
  obtain ⟨said, hsaid, rfl⟩ := layer_eq_ok h
  have hcounted : Layer.counted ⟨said, place.Ignored files⟩ = if place.Ignored files then [] else said := by
    simp [Layer.counted]
  have hlong (hlong : FileStore.maxPathSize < (place.fullName files).utf8ByteSize) :
      files.isFile (place.fullName files) = false :=
    FileStore.isFile_of_long hlong
  have hfull (hshort : ¬FileStore.maxPathSize < (place.fullName files).utf8ByteSize) :
      files.lookUp (place.fullName files) = files.lookUp place.path :=
    (FileStore.lookUp_absolute hfiles hname (Nat.le_of_not_lt hshort)).trans hsame
  rw [hcounted, read]
  unfold FilePlace.said at hsaid
  by_cases hfile : files.isFile place.path
  · -- There is a file, and it is found if its full name is not too long.
    rw [if_pos hfile] at hsaid
    obtain ⟨text, htext, hsaid⟩ := bind_eq_ok_iff.1 hsaid
    rw [if_pos (FileStore.isPresent_of_isFile hfile)]
    by_cases hsize : FileStore.maxPathSize < (place.fullName files).utf8ByteSize
    · rw [if_pos ⟨hfile, Or.inr hsize⟩]
      exact readOptionalSource_of_missing (hlong hsize) (halone (FileStore.isPresent_of_isFile hfile) (hlong hsize))
    · have hread : files.readText (place.fullName files) = .ok text := by
        rw [FileStore.readText, FileStore.read, hfull hsize]
        exact mapError_eq_ok_iff.1 htext
      have hthere : files.isFile (place.fullName files) := by rwa [FileStore.isFile, hfull hsize]
      rw [readOptionalSource_of_isFile hthere hread, ← fullName]
      cases hformat : FileFormat.ofPath? (place.fullName files) with
      | none => rw [if_pos ⟨hfile, Or.inl hformat⟩]
      | some format =>
        rw [hformat, Option.getD_some] at hsaid
        rw [if_neg (by simp [Ignored, hformat, hsize])]
        exact hsaid
  · -- There is no file, and none is found under the name.
    rw [if_neg hfile] at hsaid
    cases hsaid
    have hmissing : files.isFile (place.fullName files) = false := by
      by_cases hsize : FileStore.maxPathSize < (place.fullName files).utf8ByteSize
      · exact hlong hsize
      · rw [FileStore.isFile, hfull hsize]
        simpa [FileStore.isFile] using hfile
    rw [if_neg fun hignored : place.Ignored files => hfile hignored.1]
    split_ifs with hthere
    · exact readOptionalSource_of_missing hmissing (halone hthere hmissing)
    · rfl

/-! ## Names of files -/

theorem FileFormat.ofPath?_append_toml (path : String) :
    ofPath? (path ++ ".toml") = if Path.Nameless path then none else some .toml := by
  rw [ofPath?, Path.extension?_append_toml]
  split_ifs
  · rfl
  · rfl

/-- The format of a file in a directory tells itself, unless the name is an extension only. -/
theorem ofPath?_absolute_join (files : FileStore) (directory stem : String) :
    FileFormat.ofPath? (files.absolute (Path.join directory (stem ++ ".toml"))) =
      if Path.Nameless stem then none else some .toml := by
  rw [FileStore.absolute, Path.join_append_toml, Path.join_append_toml, FileFormat.ofPath?_append_toml]
  simp only [Path.nameless_join]

/-- The path of the user's file ends in its name. -/
theorem exists_userFile {path : String} (h : path ∈ environment.userFile?) :
    ∃ directory, path = Path.join directory ("config" ++ ".toml") := by
  obtain ⟨base, -, rfl⟩ := Option.map_eq_some_iff.1 h
  exact ⟨_, rfl⟩

theorem realPath_ne_empty {path : String} (h : path ≠ "") : files.realPath path ≠ "" := by
  unfold FileStore.realPath
  split
  · split_ifs
    · exact h
    · exact FileStore.pathOf_ne_empty _
  · exact h

/-- The name that a file is read under leads to what there is at its place. -/
theorem name_of_mem_filePlaces (hfiles : files.WellFormed) (h : place ∈ filePlaces environment files workspace) :
    place.name ≠ "" ∧ files.lookUp place.name = files.lookUp place.path := by
  rcases List.mem_append.1 h with h | h
  · obtain ⟨path, hpath, rfl⟩ := List.mem_map.1 h
    obtain ⟨directory, rfl⟩ := exists_userFile (Option.mem_toList.1 hpath)
    exact ⟨realPath_ne_empty (Path.join_ne_empty directory (by decide)), FileStore.lookUp_realPath hfiles _⟩
  · obtain ⟨path, hpath, rfl⟩ := List.mem_map.1 h
    refine ⟨?_, rfl⟩
    simp only [workspaceFiles, List.mem_cons, List.not_mem_nil, or_false] at hpath
    rcases hpath with rfl | rfl
    · exact Path.join_ne_empty _ (by decide)
    · exact Path.join_ne_empty _ (by simp)

/-- A path is not too long when it is seen from the root. -/
def Short (files : FileStore) (path : String) : Prop :=
  (files.absolute path).utf8ByteSize ≤ FileStore.maxPathSize

/-- No file for a configuration is ignored: none has too long a name, the real path of the user's file tells a format
unless it is the path of the file itself, and the environment's file is named for more than an extension. -/
structure AllCount (environment : Environment) (files : FileStore) (workspace : String) : Prop where
  user : ∀ path ∈ environment.userFile?, files.isFile path → Short files (files.realPath path) ∧
    (files.realPath path ≠ path → (FileFormat.ofPath? (files.absolute (files.realPath path))).isSome)
  general : files.isFile (generalFile workspace) → Short files (generalFile workspace)
  profile : files.isFile (profileFile environment workspace) → Short files (profileFile environment workspace) ∧
    ¬Path.Nameless (profile environment)

theorem not_ignored_iff : ¬place.Ignored files ↔ (files.isFile place.path →
    Short files place.name ∧ (FileFormat.ofPath? (files.absolute place.name)).isSome) := by
  rw [FilePlace.Ignored, not_and, not_or, Nat.not_lt, ← ne_eq, ← Option.isSome_iff_ne_none, and_comm]
  rfl

/-- All files count if none of them is ignored. -/
theorem allCount_iff : AllCount environment files workspace ↔
    ∀ place ∈ filePlaces environment files workspace, ¬place.Ignored files := by
  have huser : ∀ path ∈ environment.userFile?,
      (files.realPath path ≠ path → (FileFormat.ofPath? (files.absolute (files.realPath path))).isSome) ↔
        (FileFormat.ofPath? (files.absolute (files.realPath path))).isSome := by
    intro path hpath
    refine ⟨fun h => ?_, fun h _ => h⟩
    by_cases hsame : files.realPath path = path
    · obtain ⟨directory, hname⟩ := exists_userFile hpath
      rw [hsame, hname, ofPath?_absolute_join]
      decide
    · exact h hsame
  have hgeneral : (FileFormat.ofPath? (files.absolute (generalFile workspace))).isSome := by
    rw [generalFile, show "config.toml" = "config" ++ ".toml" from rfl, ofPath?_absolute_join]
    decide
  have hprofile : (FileFormat.ofPath? (files.absolute (profileFile environment workspace))).isSome ↔
      ¬Path.Nameless (profile environment) := by
    rw [profileFile, ofPath?_absolute_join]
    split_ifs with h <;> simp [h]
  simp only [not_ignored_iff, filePlaces, workspaceFiles, List.forall_mem_append, List.forall_mem_map,
    List.forall_mem_cons, Option.mem_toList, hgeneral, hprofile, and_true]
  constructor
  · rintro ⟨user, general, profile⟩
    exact ⟨fun path hpath hfile => (user path hpath hfile).imp_right (huser path hpath).1, general, profile, by simp⟩
  · rintro ⟨user, general, profile, -⟩
    exact ⟨fun path hpath hfile => (user path hpath hfile).imp_right (huser path hpath).2, general, profile⟩

/-- What counts of the layers is what is read at the places of the files. -/
theorem read_fileLayers (hfiles : files.WellFormed)
    (halone : ∀ place ∈ filePlaces environment files workspace, place.Alone files support) {layers : List Layer}
    (h : fileLayers environment files workspace support = .ok layers) :
    (filePlaces environment files workspace).mapM (fun place => place.read files support) =
      .ok (layers.map Layer.counted) :=
  mapM_eq_ok_map (fun place hplace _ hlayer => by
    obtain ⟨hname, hsame⟩ := name_of_mem_filePlaces hfiles hplace
    exact FilePlace.read_eq hfiles hname hsame (halone place hplace) hlayer) h

theorem forall_ignored_iff {layers : List Layer} (h : fileLayers environment files workspace support = .ok layers) :
    (∀ layer ∈ layers, layer.ignored = false) ↔ AllCount environment files workspace := by
  have hignored : layers.map Layer.ignored =
      (filePlaces environment files workspace).map fun place => decide (place.Ignored files) := by
    refine map_eq_of_mapM (fun place _ layer hlayer => ?_) h
    obtain ⟨said, -, rfl⟩ := FilePlace.layer_eq_ok hlayer
    rfl
  rw [← List.forall_mem_map (f := Layer.ignored) (P := fun ignored => ignored = false), hignored, allCount_iff]
  simp

/-- If all files count, so does everything that they say. -/
theorem counted_eq_said {layers : List Layer} (hall : AllCount environment files workspace)
    (h : fileLayers environment files workspace support = .ok layers) :
    layers.map Layer.counted = layers.map Layer.said :=
  List.map_congr_left fun layer hlayer => by simp [Layer.counted, (forall_ignored_iff h).2 hall layer hlayer]

/-! ## What is loaded -/

theorem outcome_presentFiles (files : FileStore) (paths : List String) :
    (presentFiles files paths).outcome = .ok (paths.filter files.isPresent) := by
  induction paths with
  | nil => rfl
  | cons path paths ih =>
    rw [presentFiles]
    by_cases h : files.isPresent path <;> simp [h, ih, ok_bind]

theorem outcome_findUserFile (environment : Environment) (files : FileStore) :
    (findUserFile environment files).outcome =
      .ok ((environment.userFile?.toList.filter files.isPresent).map files.realPath) := by
  unfold findUserFile
  cases environment.userFile? with
  | none => rfl
  | some path => by_cases h : files.isPresent path <;> simp [h, ok_bind]

/-- Places at which there is nothing make no difference. -/
theorem exists_mapM_readOptionalSource {places : List FilePlace} {sources : List (List (String × Setting))}
    (h : places.mapM (fun place => place.read files support) = .ok sources) :
    ∃ present, ((places.filter fun place => files.isPresent place.path).map FilePlace.name).mapM
        (fun name => readOptionalSource files name support) = .ok present ∧
      ∀ tree, present.foldl putAll tree = sources.foldl putAll tree := by
  induction places generalizing sources with
  | nil =>
    cases h
    exact ⟨[], rfl, fun _ => rfl⟩
  | cons place places ih =>
    rw [List.mapM_cons] at h
    obtain ⟨source, hsource, h⟩ := bind_eq_ok_iff.1 h
    obtain ⟨rest, hrest, h⟩ := bind_eq_ok_iff.1 h
    cases h
    obtain ⟨present, hpresent, hfold⟩ := ih hrest
    rw [FilePlace.read] at hsource
    split at hsource
    · rename_i hthere
      refine ⟨source :: present, ?_, fun tree => hfold _⟩
      rw [List.filter_cons, if_pos hthere, List.map_cons, List.mapM_cons, hsource, hpresent]
      rfl
    · rename_i hthere
      cases hsource
      exact ⟨present, by rw [List.filter_cons, if_neg hthere, hpresent], hfold⟩

/-- What is loaded is made of what is read at the places of the files. -/
theorem load_outcome {sources : List (List (String × Setting))}
    (h : (filePlaces environment files workspace).mapM (fun place => place.read files support) = .ok sources) :
    (load environment files workspace support).outcome = ofSources (sources ++ [environmentSettings environment]) := by
  obtain ⟨present, hpresent, hfold⟩ := exists_mapM_readOptionalSource h
  have hpaths : ((filePlaces environment files workspace).filter fun place => files.isPresent place.path).map
      FilePlace.name = (environment.userFile?.toList.filter files.isPresent).map files.realPath ++
        (workspaceFiles environment workspace).filter files.isPresent := by
    simp [filePlaces, List.filter_map, Function.comp_def]
  rw [hpaths] at hpresent
  simp only [load, Traced.outcome_bind, outcome_findUserFile, outcome_presentFiles, ok_bind, Traced.outcome_ofExcept,
    hpresent]
  simp only [ofSources, List.foldl_append, hfold]

end TableScript.Configuration
