import TableScript.Program
import TableScript.Proofs.Dict
import TableScript.Proofs.Outcome

/-!
# Options of the log and variables

What a log is like is decided by the variables of the environment before the options of the command line are asked,
although options are meant to come first.  An option for the format, the output or the level of the log counts
exactly if the variable of the same name does not say otherwise (`logOptions_count_iff`).
-/

namespace TableScript

theorem LogFormat.ofName_eq_ok_iff {text : String} {format : LogFormat} :
    ofName text = .ok format ↔ text = format.name := by
  have hown : all.find? (fun other => other.name = format.name) = some format := by cases format <;> rfl
  rw [← Dict.find?_name_eq_some_iff hown, ofName]
  cases all.find? fun other => other.name = text <;> simp

theorem LogFormat.name_injective {a b : LogFormat} (h : a.name = b.name) : a = b :=
  Except.ok.inj ((ofName_eq_ok_iff.2 rfl).symm.trans (ofName_eq_ok_iff.2 h))

theorem LogOutput.ofName_eq_ok_iff {text : String} {output : LogOutput} :
    ofName text = .ok output ↔ text = output.name := by
  have hown : all.find? (fun other => other.name = output.name) = some output := by cases output <;> rfl
  rw [← Dict.find?_name_eq_some_iff hown, ofName]
  cases all.find? fun other => other.name = text <;> simp

theorem LogOutput.name_injective {a b : LogOutput} (h : a.name = b.name) : a = b :=
  Except.ok.inj ((ofName_eq_ok_iff.2 rfl).symm.trans (ofName_eq_ok_iff.2 h))

namespace Log

/-! ## Directives for other events -/

namespace Directive

theorem concerns_eq_of_sameScope {a b : Directive} (h : a.sameScope b) (event : Event) :
    a.concerns event = b.concerns event := by
  have hall : ∀ directive : Directive, directive.concerns event =
      ((directive.target.all fun target => target.toList.isPrefixOf event.source.target.toList) &&
        directive.fieldNames.all fun name => name = "message" || event.fields.any fun entry => entry.1 = name) := by
    intro directive
    rw [concerns, fieldNames, List.all_map]
    rfl
  simp only [sameScope, Bool.and_eq_true, decide_eq_true_eq] at h
  rw [hall a, hall b, h.1, h.2]

end Directive

namespace Filter

variable {directive : Directive} {event : Event}

/-- A directive that does not concern an event stands in the way of none that does. -/
theorem find?_insert (h : directive.concerns event = false) (filter : Filter) :
    List.find? (fun directive => directive.concerns event) (filter.insert directive) =
      List.find? (fun directive => directive.concerns event) filter := by
  induction filter with
  | nil => simp [insert, h]
  | cons other filter ih =>
    rw [insert]
    split
    · rename_i hscope
      have hother : other.concerns event = false := by
        rw [← Directive.concerns_eq_of_sameScope hscope, h]
      simp [h, hother]
    split
    · simp [List.find?_cons, h]
    · rw [List.find?_cons, List.find?_cons, ih]

theorem allows_add (h : directive.isStatic → directive.concerns event = false) (filter : Filter) :
    (filter.add directive).allows event = filter.allows event := by
  rw [add]
  split
  · rename_i hstatic
    rw [allows, allows, find?_insert (h hstatic)]
  · rfl

end Filter

/-! ## Levels -/

/-- The levels that settings and options name, each with the most that it lets through. -/
def levels : List (String × Limit) :=
  [("off", none), ("error", some .error), ("warn", some .warn), ("info", some .info), ("debug", some .debug),
    ("trace", some .trace)]

/-- The filter of a level lets through what the level does. -/
theorem allows_level {level : String} {limit : Limit} (h : (level, limit) ∈ levels) (event : Event) :
    (Filter.readLeniently level).1.allows event =
      limit.any fun limit => event.level.verbosity ≤ limit.verbosity := by
  have hfilter : ∀ entry ∈ levels, (Filter.readLeniently entry.1).1 = [{ limit := entry.2 }] := by decide +kernel
  rw [hfilter _ h]
  rfl

/-! ## Directives for single sources -/

/-- The pairs of a source and a level in the settings and in the environment. -/
def singleSources (environment : Environment) (settings : LogSettings) : List (String × String) :=
  settings.modules ++ variableModules ((environment.get? "PIPEWRIGHT_LOG_MODULES").getD "")

/-- Some of the directives for single sources concerns the event. -/
def Singled (sources : List (String × String)) (event : Event) : Prop :=
  ∃ name level directive, (name, level) ∈ sources ∧ moduleDirective name level = .ok directive ∧
    directive.isStatic ∧ directive.concerns event

theorem Singled.mono {sources more : List (String × String)} {event : Event} (hsub : sources ⊆ more) :
    Singled sources event → Singled more event := by
  rintro ⟨name, level, directive, hmem, hdirective⟩
  exact ⟨name, level, directive, hsub hmem, hdirective⟩

/-- A filter and a level let the same events through, of those that no directive for single sources concerns. -/
def FollowsLevel (environment : Environment) (settings : LogSettings) (level : String) (filter : Filter) : Prop :=
  ∀ event, ¬ Singled (singleSources environment settings) event →
    filter.allows event = (Filter.readLeniently level).1.allows event

variable {environment : Environment} {settings : LogSettings}

/-- Adds the directive for a single source. -/
def addSource (fault : DirectiveFault → ConfigurationFault) (filter : Filter) (source : String × String) :
    Except ConfigurationFault Filter :=
  ((moduleDirective source.1 source.2).mapError fault).map filter.add

theorem addModules_eq (sources : List (String × String)) (filter : Filter) :
    addModules sources filter = sources.foldlM (addSource .invalidDirective) filter := rfl

theorem addVariableModules_eq (environment : Environment) (filter : Filter) : addVariableModules environment filter =
    (variableModules ((environment.get? "PIPEWRIGHT_LOG_MODULES").getD "")).foldlM
      (addSource .invalidVariableDirective) filter := rfl

variable {fault : DirectiveFault → ConfigurationFault}

/-- Adding a directive fails exactly if there is none. -/
theorem addSource_cases (filter : Filter) (source : String × String) :
    (∃ why, moduleDirective source.1 source.2 = .error why ∧ addSource fault filter source = .error (fault why)) ∨
    ∃ directive, moduleDirective source.1 source.2 = .ok directive ∧
      addSource fault filter source = .ok (filter.add directive) := by
  rw [addSource]
  cases moduleDirective source.1 source.2 with
  | error why => exact Or.inl ⟨why, rfl, rfl⟩
  | ok directive => exact Or.inr ⟨directive, rfl, rfl⟩

/-- Adding directives fails with the fault of one of them, and only if there is one with a fault. -/
theorem addSources_cases (sources : List (String × String)) (filter : Filter) :
    (∃ source ∈ sources, ∃ why, moduleDirective source.1 source.2 = .error why ∧
      sources.foldlM (addSource fault) filter = .error (fault why)) ∨
    (∀ source ∈ sources, ∃ directive, moduleDirective source.1 source.2 = .ok directive) ∧
      ∃ result, sources.foldlM (addSource fault) filter = .ok result := by
  induction sources generalizing filter with
  | nil => exact Or.inr ⟨by simp, filter, rfl⟩
  | cons source sources ih =>
    rw [List.foldlM_cons]
    rcases @addSource_cases fault filter source with ⟨why, hwhy, hadd⟩ | ⟨directive, hdirective, hadd⟩
    · rw [hadd]
      exact Or.inl ⟨source, List.mem_cons_self, why, hwhy, rfl⟩
    · rw [hadd, ok_bind]
      rcases ih (filter.add directive) with ⟨other, hother, why, hwhy, hrest⟩ | ⟨hall, hrest⟩
      · exact Or.inl ⟨other, List.mem_cons_of_mem _ hother, why, hwhy, hrest⟩
      · exact Or.inr ⟨List.forall_mem_cons.2 ⟨⟨directive, hdirective⟩, hall⟩, hrest⟩

theorem allows_addSources {sources : List (String × String)} {filter result : Filter} {event : Event}
    (h : sources.foldlM (addSource fault) filter = .ok result) (hevent : ¬ Singled sources event) :
    result.allows event = filter.allows event := by
  induction sources generalizing filter with
  | nil =>
    cases h
    rfl
  | cons source sources ih =>
    rw [List.foldlM_cons] at h
    obtain ⟨next, hnext, h⟩ := bind_eq_ok_iff.1 h
    rw [ih h (mt (.mono (List.subset_cons_self ..)) hevent)]
    rcases addSource_cases filter source with ⟨why, -, hadd⟩ | ⟨directive, hdirective, hadd⟩
    · rw [hadd] at hnext
      cases hnext
    · rw [hadd] at hnext
      cases hnext
      refine Filter.allows_add (fun hstatic => Bool.eq_false_iff.2 fun hconcerns => ?_) filter
      exact hevent ⟨_, _, directive, List.mem_cons_self, hdirective, hstatic, hconcerns⟩

theorem addSources_eq_error {sources : List (String × String)} {filter : Filter} {error : ConfigurationFault}
    (h : sources.foldlM (addSource fault) filter = .error error) : ∃ why, error = fault why := by
  rcases @addSources_cases fault sources filter with ⟨_, -, why, -, hadd⟩ | ⟨-, result, hadd⟩
  · exact ⟨why, Except.error.inj (h.symm.trans hadd)⟩
  · rw [hadd] at h
    cases h

theorem followsLevel_of_chooseFilter {filter : Filter} (hvariable : variableFilter? environment = none)
    (h : chooseFilter environment settings = .ok filter) :
    FollowsLevel environment settings settings.level filter := by
  intro event hevent
  rw [chooseFilter, hvariable] at h
  dsimp only at h
  split at h
  · cases h
    rfl
  · obtain ⟨own, hown, hall⟩ := bind_eq_ok_iff.1 h
    rw [addModules_eq] at hown
    rw [addVariableModules_eq] at hall
    have hsettings : ¬ Singled settings.modules event := mt (.mono (List.subset_append_left ..)) hevent
    rw [allows_addSources hall (mt (.mono (List.subset_append_right ..)) hevent), allows_addSources hown hsettings]

/-- Only a directive for a single source can be at fault in a filter. -/
theorem chooseFilter_eq_error {fault : ConfigurationFault} (h : chooseFilter environment settings = .error fault) :
    ∃ why, fault = .invalidDirective why ∨ fault = .invalidVariableDirective why := by
  unfold chooseFilter at h
  split at h
  · cases h
  dsimp only at h
  split at h
  · cases h
  rcases bind_eq_error_iff.1 h with hown | ⟨_, -, hall⟩
  · rw [addModules_eq] at hown
    obtain ⟨why, hwhy⟩ := addSources_eq_error hown
    exact ⟨why, Or.inl hwhy⟩
  · rw [addVariableModules_eq] at hall
    obtain ⟨why, hwhy⟩ := addSources_eq_error hall
    exact ⟨why, Or.inr hwhy⟩

/-! ## What starting a log decides -/

/-- The filter, the format and the output of a log are chosen one by one. -/
theorem choose_eq_ok {logger : Logger} (h : choose environment settings = .ok logger) :
    chooseFilter environment settings = .ok logger.filter ∧ chooseFormat environment settings = .ok logger.format ∧
      chooseOutput environment settings = .ok logger.output := by
  obtain ⟨filter, hfilter, h⟩ := bind_eq_ok_iff.1 h
  obtain ⟨format, hformat, h⟩ := bind_eq_ok_iff.1 h
  obtain ⟨output, houtput, h⟩ := bind_eq_ok_iff.1 h
  cases h
  exact ⟨hfilter, hformat, houtput⟩

theorem choose_eq_error {fault : ConfigurationFault} (h : choose environment settings = .error fault) :
    chooseFilter environment settings = .error fault ∨ chooseFormat environment settings = .error fault ∨
      chooseOutput environment settings = .error fault := by
  rcases bind_eq_error_iff.1 h with hfilter | ⟨_, -, h⟩
  · exact Or.inl hfilter
  rcases bind_eq_error_iff.1 h with hformat | ⟨_, -, h⟩
  · exact Or.inr (Or.inl hformat)
  rcases bind_eq_error_iff.1 h with houtput | ⟨_, -, h⟩
  · exact Or.inr (Or.inr houtput)
  · cases h

/-- Opening a file ends with a place or with a problem of a path. -/
theorem openFile_cases (files : FileStore) (path : String) :
    (∃ path' problem after, openFile files path = (.error (.file path' problem), after)) ∨
    ∃ location after, openFile files path = (.ok location, after) := by
  unfold openFile
  dsimp only
  split
  · exact Or.inl ⟨_, _, _, rfl⟩
  · split
    · exact Or.inr ⟨_, _, rfl⟩
    · exact Or.inl ⟨_, _, _, rfl⟩

/-- What starting a log comes to: a fault in choosing, the chosen log with a file that is opened if need be, or a
problem with the file. -/
theorem start_cases (environment : Environment) (henabled : settings.enabled) (files : FileStore) :
    (∃ fault, choose environment settings = .error fault ∧
      (start environment files settings).outcome = .error (.configuration fault)) ∨
    (∃ logger file, choose environment settings = .ok logger ∧
      (start environment files settings).outcome = .ok (some { logger with file })) ∨
    ∃ logger path problem, choose environment settings = .ok logger ∧
      (start environment files settings).outcome = .error (.file path problem) := by
  unfold start
  simp only [henabled, Bool.not_true, Bool.false_eq_true, ↓reduceIte]
  cases hchoose : choose environment settings with
  | error fault => exact Or.inl ⟨fault, rfl, rfl⟩
  | ok logger =>
    dsimp only
    by_cases hto : logger.output.toFile
    · simp only [hto, Bool.not_true, Bool.false_eq_true, ↓reduceIte]
      rcases openFile_cases files (filePath environment settings) with
        ⟨path, problem, after, hopen⟩ | ⟨location, after, hopen⟩
      · rw [hopen]
        exact Or.inr (Or.inr ⟨logger, path, problem, rfl, rfl⟩)
      · rw [hopen]
        exact Or.inr (Or.inl ⟨logger, some location, rfl, rfl⟩)
    · simp only [hto, Bool.not_false, ↓reduceIte]
      exact Or.inr (Or.inl ⟨logger, logger.file, rfl, rfl⟩)

/-- The format in the environment is chosen, or that of the settings if there is none in the environment. -/
theorem chooseFormat_eq_ok_iff {format : LogFormat} : chooseFormat environment settings = .ok format ↔
    environment.get? "PIPEWRIGHT_LOG_FORMAT" = some format.name ∨
      (∀ other : LogFormat, environment.get? "PIPEWRIGHT_LOG_FORMAT" ≠ some other.name) ∧
        settings.format = format.name := by
  unfold chooseFormat
  cases environment.get? "PIPEWRIGHT_LOG_FORMAT" with
  | none => simp [LogFormat.ofName_eq_ok_iff]
  | some text =>
    cases htext : LogFormat.ofName text with
    | ok known =>
      obtain rfl := LogFormat.ofName_eq_ok_iff.1 htext
      have hiff : known = format ↔ known.name = format.name := ⟨congrArg _, LogFormat.name_injective⟩
      have hall : ¬ ∀ other : LogFormat, ¬ known.name = other.name := fun h => h known rfl
      simp [htext, hiff, hall]
    | error fault =>
      have hnot : ∀ other : LogFormat, some text ≠ some other.name := by
        intro other h
        rw [LogFormat.ofName_eq_ok_iff.2 (Option.some.inj h)] at htext
        cases htext
      simp [htext, LogFormat.ofName_eq_ok_iff, hnot format, hnot]

theorem exists_chooseFormat (environment : Environment) {format : LogFormat} (h : settings.format = format.name) :
    ∃ chosen, chooseFormat environment settings = .ok chosen := by
  by_cases hvariable : ∃ other : LogFormat, environment.get? "PIPEWRIGHT_LOG_FORMAT" = some other.name
  · obtain ⟨other, hother⟩ := hvariable
    exact ⟨other, chooseFormat_eq_ok_iff.2 (Or.inl hother)⟩
  · exact ⟨format, chooseFormat_eq_ok_iff.2 (Or.inr ⟨not_exists.1 hvariable, h⟩)⟩

theorem chooseOutput_eq_ok_iff {output : LogOutput} : chooseOutput environment settings = .ok output ↔
    (environment.get? "PIPEWRIGHT_LOG_OUTPUT").getD settings.output = output.name :=
  LogOutput.ofName_eq_ok_iff

/-- Where the settings have an output, only the variable can have none. -/
theorem chooseOutput_eq_error {output : LogOutput} {fault : ConfigurationFault}
    (hsettings : settings.output = output.name) (h : chooseOutput environment settings = .error fault) :
    ∃ text, environment.get? "PIPEWRIGHT_LOG_OUTPUT" = some text ∧ fault = .unknownLogOutput text := by
  unfold chooseOutput at h
  cases hvariable : environment.get? "PIPEWRIGHT_LOG_OUTPUT" with
  | none =>
    rw [hvariable, Option.getD_none, LogOutput.ofName_eq_ok_iff.2 hsettings] at h
    cases h
  | some text =>
    rw [hvariable, Option.getD_some, LogOutput.ofName] at h
    split at h
    · cases h
    · exact ⟨text, rfl, (Except.error.inj h).symm⟩

/-! ## When the settings count -/

theorem chosenFormat_eq_iff {format chosen : LogFormat} (hsettings : settings.format = format.name)
    (h : chooseFormat environment settings = .ok chosen) : chosen = format ↔
      ∀ other : LogFormat, environment.get? "PIPEWRIGHT_LOG_FORMAT" = some other.name → other = format := by
  rcases chooseFormat_eq_ok_iff.1 h with hvariable | ⟨hnone, hchosen⟩
  · constructor
    · rintro rfl other hother
      exact LogFormat.name_injective (Option.some.inj (hother.symm.trans hvariable))
    · intro hall
      exact hall chosen hvariable
  · have he : chosen = format := LogFormat.name_injective (hchosen.symm.trans hsettings)
    exact iff_of_true he fun other hother => absurd hother (hnone other)

theorem chosenOutput_eq_iff {output chosen : LogOutput} (hsettings : settings.output = output.name)
    (h : chooseOutput environment settings = .ok chosen) : chosen = output ↔
      ∀ text, environment.get? "PIPEWRIGHT_LOG_OUTPUT" = some text → text = output.name := by
  have hchosen : _ = chosen.name := chooseOutput_eq_ok_iff.1 h
  cases hvariable : environment.get? "PIPEWRIGHT_LOG_OUTPUT" with
  | none =>
    rw [hvariable, Option.getD_none, hsettings] at hchosen
    exact iff_of_true (LogOutput.name_injective hchosen.symm) fun text htext => by cases htext
  | some text =>
    rw [hvariable, Option.getD_some] at hchosen
    subst hchosen
    exact ⟨by rintro rfl text htext; exact (Option.some.inj htext).symm, fun hall =>
      LogOutput.name_injective (hall _ rfl)⟩

theorem chosenFilter_followsLevel_iff {filter : Filter} (h : chooseFilter environment settings = .ok filter) :
    FollowsLevel environment settings settings.level filter ↔
      ∀ other, variableFilter? environment = some other → FollowsLevel environment settings settings.level other := by
  cases hvariable : variableFilter? environment with
  | none => exact iff_of_true (followsLevel_of_chooseFilter hvariable h) fun other hother => by cases hother
  | some other =>
    rw [chooseFilter, hvariable] at h
    cases h
    simp

end Log

namespace Program

open Log

/-- The log that a run starts, if it logs at all. -/
def startedLog (environment : Environment) (files : FileStore) (options : ProgramOptions)
    (support : Configuration.FormatSupport := {}) : Except ProgramError (Option Logger) :=
  (Log.start environment files (logSettings environment files options support)).outcome

variable {environment : Environment} {files : FileStore} {options : ProgramOptions}
  {support : Configuration.FormatSupport}

/-- Where logging is enabled, an option for the format, the output or the level of the log is what the log follows
exactly if the variable for it says nothing else, where a text that is no format or no filter says nothing, but any
text is taken for an output.  That such a text is none, or that a directive for a single source is none, is all that
can be wrong with the settings of a log whose options name a format and an output. -/
theorem logOptions_count_iff (henabled : (logSettings environment files options support).enabled) :
    (∀ logger, startedLog environment files options support = .ok (some logger) →
      (∀ format : LogFormat, options.logFormat = some format.name →
        (logger.format = format ↔
          ∀ other : LogFormat, environment.get? "PIPEWRIGHT_LOG_FORMAT" = some other.name → other = format)) ∧
      (∀ output : LogOutput, options.logOutput = some output.name →
        (logger.output = output ↔
          ∀ text, environment.get? "PIPEWRIGHT_LOG_OUTPUT" = some text → text = output.name)) ∧
      ∀ level, options.logLevel = some level →
        (FollowsLevel environment (logSettings environment files options support) level logger.filter ↔
          ∀ filter, variableFilter? environment = some filter →
            FollowsLevel environment (logSettings environment files options support) level filter)) ∧
    (∀ (format : LogFormat) (output : LogOutput) (fault : ConfigurationFault),
      options.logFormat = some format.name → options.logOutput = some output.name →
      startedLog environment files options support = .error (.configuration fault) →
      (∃ text, environment.get? "PIPEWRIGHT_LOG_OUTPUT" = some text ∧ fault = .unknownLogOutput text) ∨
        ∃ why, fault = .invalidDirective why ∨ fault = .invalidVariableDirective why) ∧
    startedLog environment files options support ≠ .ok none := by
  have hformat : ∀ text, options.logFormat = some text →
      (logSettings environment files options support).format = text :=
    fun text h => by simp [logSettings, h]
  have houtput : ∀ text, options.logOutput = some text →
      (logSettings environment files options support).output = text :=
    fun text h => by simp [logSettings, h]
  have hlevel : ∀ text, options.logLevel = some text → (logSettings environment files options support).level = text :=
    fun text h => by simp [logSettings, h]
  have hstart : _ ∨ _ ∨ _ := start_cases environment henabled files
  rw [← startedLog] at hstart
  rcases hstart with ⟨fault, hchoose, hstarted⟩ | ⟨chosen, file, hchoose, hstarted⟩ | ⟨_, path, problem, -, hstarted⟩
  · rw [hstarted]
    refine ⟨fun logger hlogger => (by cases hlogger), fun format output other hf ho hother => ?_, by simp⟩
    cases hother
    rcases choose_eq_error hchoose with hwhy | hwhy | hwhy
    · exact Or.inr (chooseFilter_eq_error hwhy)
    · obtain ⟨chosen, hchosen⟩ := exists_chooseFormat environment (hformat _ hf)
      rw [hwhy] at hchosen
      cases hchosen
    · exact Or.inl (chooseOutput_eq_error (houtput _ ho) hwhy)
  · obtain ⟨hfilter, hchosenFormat, hchosenOutput⟩ := choose_eq_ok hchoose
    rw [hstarted]
    refine ⟨fun logger hlogger => ?_, fun _ _ _ _ _ h => (by cases h), by simp⟩
    cases hlogger
    refine ⟨fun format hf => chosenFormat_eq_iff (hformat _ hf) hchosenFormat,
      fun output ho => chosenOutput_eq_iff (houtput _ ho) hchosenOutput, fun level hl => ?_⟩
    rw [← hlevel level hl]
    exact chosenFilter_followsLevel_iff hfilter
  · rw [hstarted]
    exact ⟨fun _ h => (by cases h), fun _ _ _ _ _ h => (by cases h), by simp⟩

/-! ## Options that do not count -/

/-- An environment that says something else than the options `contradicted`. -/
def contradicting : Environment where
  entries := [("PIPEWRIGHT_LOG", "info"), ("PIPEWRIGHT_LOG_FORMAT", "text"), ("PIPEWRIGHT_LOG_OUTPUT", "stdout")]

def contradicted : ProgramOptions where
  logLevel := some "debug"
  logFormat := some "json"
  logOutput := some "stderr"

theorem startedLog_contradicted : startedLog contradicting {} contradicted =
    .ok (some { filter := [{ limit := some .info }], format := .text, output := .stdout, color := true }) := by
  have hstarted : (startedLog contradicting {} contradicted).toOption =
      some (some { filter := [{ limit := some .info }], format := .text, output := .stdout, color := true }) := by
    decide +kernel
  cases h : startedLog contradicting {} contradicted with
  | error error => simp [h, Except.toOption] at hstarted
  | ok logger =>
    rw [h] at hstarted
    rw [Option.some.inj hstarted]

/-- What is told of the command is at the level of the option, but not at that of the variable. -/
theorem not_followsLevel_contradicted :
    ¬ FollowsLevel contradicting (logSettings contradicting {} contradicted) "debug" [{ limit := some .info }] := by
  intro h
  have hnone : singleSources contradicting (logSettings contradicting {} contradicted) = [] := by decide
  have hevent := h (Execution.executing (.algorithms .text)) (by rw [hnone]; rintro ⟨_, _, _, hmem, -⟩; cases hmem)
  rw [allows_level (by decide : ("debug", some .debug) ∈ levels)] at hevent
  exact absurd hevent (by decide)

/-- Three options that do not count: the log goes to the standard output, as text and at another level. -/
theorem logOptions_contradicted : (logSettings contradicting {} contradicted).enabled ∧
    ∃ logger, startedLog contradicting {} contradicted = .ok (some logger) ∧ logger.format ≠ .json ∧
      logger.output ≠ .stderr ∧
        ¬ FollowsLevel contradicting (logSettings contradicting {} contradicted) "debug" logger.filter := by
  have henabled : (logSettings contradicting {} contradicted).enabled := by decide
  obtain ⟨hformat, houtput, hlevel⟩ := (logOptions_count_iff henabled).1 _ startedLog_contradicted
  refine ⟨henabled, _, startedLog_contradicted, fun h => ?_, fun h => ?_, fun h => ?_⟩
  · exact absurd ((hformat .json rfl).1 h .text rfl) (by decide)
  · exact absurd ((houtput .stderr rfl).1 h "stdout" rfl) (by decide)
  · exact not_followsLevel_contradicted ((hlevel "debug" rfl).1 h _ (by decide +kernel))

/-- Options do not always count before variables. -/
theorem not_logOptions_count : ¬ ∀ (environment : Environment) (files : FileStore) (options : ProgramOptions)
    (logger : Logger), (logSettings environment files options).enabled →
      startedLog environment files options = .ok (some logger) →
      (∀ format : LogFormat, options.logFormat = some format.name → logger.format = format) ∧
      (∀ output : LogOutput, options.logOutput = some output.name → logger.output = output) ∧
      ∀ level, options.logLevel = some level →
        FollowsLevel environment (logSettings environment files options) level logger.filter := by
  intro h
  obtain ⟨hformat, -, -⟩ := h contradicting {} contradicted _ (by decide) startedLog_contradicted
  exact absurd (hformat .json rfl) (by decide)

end Program

end TableScript
