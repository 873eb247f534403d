import TableScript.Proofs.FileStore.Changes
import TableScript.Proofs.Log.Precedence

/-!
# Logs and files

Everything that can be wrong with the settings of a log is found before the log touches a file.  A log that is not
started, or that does not go to a file, leaves the files as they are, and one that goes to a file changes nothing but
that file and the missing directories above it (`files_of_start`).
-/

namespace TableScript.Log

open FileStore (Grown)

/-- The paths of the directories above a log file, from the inside out. -/
def directoriesAbove (path : String) : List String :=
  Path.ancestry ((Path.parent? path).getD "")

/-- The path of a log file leads to a file with the content that it had before, or an empty one if there was none.
Every other place is as before, but for missing directories on the way that have been made. -/
structure Opened (path : String) (before : FileStore) (location : Location) (after : FileStore) : Prop where
  file : ∃ content, after.lookUp path = .ok (location, .file content) ∧
    (before.entry? location = some (.file content) ∨ before.entry? location = none ∧ content = [])
  others : ∀ place, place ≠ location → after.entry? place = before.entry? place ∨
    before.entry? place = none ∧ after.entry? place = some .directory ∧
      ∃ above ∈ directoriesAbove path, after.locate above = .ok place
  workingDirectory : after.workingDirectory = before.workingDirectory

variable {environment : Environment} {settings : LogSettings} {files before between after : FileStore} {path : String}
  {location : Location}

/-- Where only directories above a log file are made, a place is as before or one of these was made at it. -/
theorem entry?_cases_of_grown (h : Grown (directoriesAbove path) before after) (place : Location) :
    after.entry? place = before.entry? place ∨ before.entry? place = none ∧ after.entry? place = some .directory ∧
      ∃ above ∈ directoriesAbove path, after.locate above = .ok place := by
  cases hplace : before.entry? place with
  | some entry => exact Or.inl (h.entry?_eq _ _ hplace)
  | none => exact (h.made place hplace).imp_right fun hmade => ⟨rfl, hmade⟩

theorem opened_of_grown (hgrown : Grown (directoriesAbove path) before between)
    (h : between.openAtEnd path = .ok (location, after)) : Opened path before location after := by
  obtain ⟨hlocate, ⟨content, hcontent, rfl⟩ | ⟨hmissing, rfl⟩⟩ := FileStore.openAtEnd_eq_ok h
  · refine ⟨⟨content, FileStore.lookUp_eq_ok_iff.2 ⟨hlocate, hcontent⟩, Or.inl ?_⟩,
      fun place _ => entry?_cases_of_grown hgrown place, hgrown.workingDirectory_eq⟩
    rcases entry?_cases_of_grown hgrown location with hsame | ⟨-, hdirectory, -⟩
    · rw [← hsame, hcontent]
    · rw [hcontent] at hdirectory
      cases hdirectory
  · have hroot : location ≠ [] := by rintro rfl; cases hmissing
    have hkeeps : between.Keeps (between.put location (.file [])) := .put hmissing (by simp)
    refine ⟨⟨[], FileStore.lookUp_eq_ok_iff.2 ⟨hkeeps.locate hlocate, ?_⟩, Or.inr ⟨?_, rfl⟩⟩,
      fun place hplace => ?_, hgrown.workingDirectory_eq⟩
    · rw [FileStore.entry?_put hroot, if_pos rfl]
    · rcases entry?_cases_of_grown hgrown location with hsame | ⟨hbefore, -⟩
      · rw [← hsame, hmissing]
      · exact hbefore
    · rw [FileStore.entry?_put hroot, if_neg hplace]
      exact (entry?_cases_of_grown hgrown place).imp_right fun ⟨hbefore, hdirectory, above, habove, hto⟩ =>
        ⟨hbefore, hdirectory, above, habove, hkeeps.locate hto⟩

/-- A log file is opened, or else no more than directories above it are made. -/
theorem files_of_openFile (files : FileStore) (path : String) :
    (∃ location after, openFile files path = (.ok location, after) ∧ Opened path files location after) ∨
    ∃ place problem after, openFile files path = (.error (.file place problem), after) ∧
      Grown (directoriesAbove path) files after := by
  have hgrown := FileStore.grown_makeDirectories files (directoriesAbove path)
  unfold openFile
  unfold directoriesAbove at hgrown ⊢
  dsimp only
  cases hmake : files.makeDirectories (Path.ancestry ((Path.parent? path).getD "")) with
  | mk outcome between =>
    rw [hmake] at hgrown
    cases outcome with
    | error problem => exact Or.inr ⟨_, problem, between, rfl, hgrown⟩
    | ok _ =>
      dsimp only
      cases hopen : between.openAtEnd path with
      | error problem => exact Or.inr ⟨_, problem, between, rfl, hgrown⟩
      | ok found => exact Or.inl ⟨found.1, found.2, rfl, opened_of_grown hgrown hopen⟩

/-- A log that is off, goes elsewhere or has a fault in its settings leaves the files as they are.  One that goes to a
file and is started has its file opened, and one that fails at its file has made directories above it at most. -/
theorem files_of_start (environment : Environment) (files : FileStore) (settings : LogSettings) :
    ((∃ fault, (start environment files settings).outcome = .error (.configuration fault)) ∨
        settings.enabled = false ∨
        (∀ output, chooseOutput environment settings = .ok output → output.toFile = false) →
      (start environment files settings).files = files) ∧
    (∀ output logger?, settings.enabled → chooseOutput environment settings = .ok output → output.toFile →
      (start environment files settings).outcome = .ok logger? →
      ∃ logger location, logger? = some logger ∧ logger.output = output ∧ logger.file = some location ∧
        Opened (filePath environment settings) files location (start environment files settings).files) ∧
    ∀ path problem, (start environment files settings).outcome = .error (.file path problem) →
      Grown (directoriesAbove (filePath environment settings)) files (start environment files settings).files := by
  unfold start
  cases henabled : settings.enabled with
  | false => simp
  | true =>
    simp only [Bool.not_true, Bool.false_eq_true, ↓reduceIte]
    cases hchoose : choose environment settings with
    | error fault => simp
    | ok logger =>
      obtain ⟨-, -, houtput⟩ := choose_eq_ok hchoose
      dsimp only
      cases hto : logger.output.toFile with
      | false => simp [houtput, hto]
      | true =>
        simp only [Bool.not_true, Bool.false_eq_true, ↓reduceIte]
        rcases files_of_openFile files (filePath environment settings) with
          ⟨location, after, hopen, hopened⟩ | ⟨place, problem, after, hopen, hgrown⟩
        · rw [hopen]
          refine ⟨by simp [houtput, hto], fun output logger? _ hchosen _ h => ?_, fun _ _ h => by cases h⟩
          rw [houtput] at hchosen
          cases hchosen
          cases h
          exact ⟨_, location, rfl, rfl, rfl, hopened⟩
        · rw [hopen]
          exact ⟨by simp [houtput, hto], fun _ _ _ _ _ h => (by cases h), fun _ _ _ => hgrown⟩

/-- A directory with a log of an earlier run. -/
def earlierRun : FileStore where
  entries := [(["logs"], .directory), (["logs", "run.log"], .file [111, 107, 10])]

/-- A log in that file, by a path through a directory that is missing. -/
def throughMissing : LogSettings where
  output := "file"
  file := some "/logs/new/../run.log"

/-- A log with a fault changes nothing.  Without it the file keeps what was in it and the missing directory is made. -/
theorem files_of_start_throughMissing :
    (start {} earlierRun { throughMissing with modules := [("a", "loud")] }).files = earlierRun ∧
    (∃ location, Opened "/logs/new/../run.log" earlierRun location (start {} earlierRun throughMissing).files) ∧
    FileStore.entry? (start {} earlierRun throughMissing).files ["logs", "run.log"] = some (.file [111, 107, 10]) ∧
    earlierRun.entry? ["logs", "new"] = none ∧
    FileStore.entry? (start {} earlierRun throughMissing).files ["logs", "new"] = some .directory := by
  refine ⟨?_, ?_, by decide +kernel, by decide, by decide +kernel⟩
  · have hfault : (match (start {} earlierRun { throughMissing with modules := [("a", "loud")] }).outcome with
        | .error (.configuration _) => true
        | _ => false) = true := by decide +kernel
    refine (files_of_start _ _ _).1 (Or.inl ?_)
    split at hfault
    · rename_i fault houtcome
      exact ⟨fault, houtcome⟩
    · cases hfault
  · have hok : (start {} earlierRun throughMissing).outcome.isOk = true := by decide +kernel
    cases houtcome : (start {} earlierRun throughMissing).outcome with
    | error error =>
      rw [houtcome] at hok
      cases hok
    | ok logger? =>
      obtain ⟨_, location, -, -, -, hopened⟩ :=
        (files_of_start {} earlierRun throughMissing).2.1 .file logger? rfl rfl rfl houtcome
      exact ⟨location, hopened⟩

end TableScript.Log
