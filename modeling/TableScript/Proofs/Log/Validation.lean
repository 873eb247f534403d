import Mathlib.Tactic.SplitIfs
import TableScript.Proofs.Log.Precedence
import TableScript.Proofs.Text.Trimming

/-!
# Validated log settings

Settings whose format and output are known are valid, but starting a log also reads a directive for each of the single
sources, and gives up where one of them cannot be read (`start_of_validated`).  For a source with a plain name, that is
where something stands for its level that is none (`moduleDirective_of_plain`).
-/

namespace TableScript.Log

/-! ## Directives of plain names -/

namespace Directive

/-- The number of bytes of some characters. -/
def size : List Char → Nat
  | [] => 0
  | c :: cs => c.utf8Size + size cs

variable {place start : Nat} {cs : List Char}

theorem size_append (cs ds : List Char) : size (cs ++ ds) = size cs + size ds := by
  induction cs with
  | nil => rw [List.nil_append, size, Nat.zero_add]
  | cons c cs ih => rw [List.cons_append, size, size, ih, Nat.add_assoc]

theorem placesFrom_append (place : Nat) (cs ds : List Char) :
    placesFrom place (cs ++ ds) = placesFrom place cs ++ placesFrom (place + size cs) ds := by
  induction cs generalizing place with
  | nil => rfl
  | cons c cs ih => simp [placesFrom, ih, size, Nat.add_assoc]

theorem map_snd_placesFrom (place : Nat) (cs : List Char) : (placesFrom place cs).map Prod.snd = cs := by
  induction cs generalizing place with
  | nil => rfl
  | cons c cs ih => rw [placesFrom, List.map_cons, ih]

/-- The places of some characters are those of bytes of them. -/
theorem mem_placesFrom {i : Nat} {c : Char} (h : (i, c) ∈ placesFrom place cs) :
    place ≤ i ∧ i < place + size cs := by
  induction cs generalizing place with
  | nil => cases h
  | cons d cs ih =>
    have hpos := d.utf8Size_pos
    have hsize : size (d :: cs) = d.utf8Size + size cs := rfl
    rcases List.mem_cons.1 h with he | h
    · cases he
      omega
    · obtain ⟨hle, hlt⟩ := ih h
      omega

/-- What stands before a place is what was put before it. -/
theorem slice_placesFrom (cs ds : List Char) : slice (placesFrom 0 (cs ++ ds)) 0 (size cs) = String.ofList cs := by
  rw [slice, placesFrom_append, List.filter_append, List.filter_eq_self.2, List.filter_eq_nil_iff.2, List.append_nil,
    map_snd_placesFrom]
  · rintro ⟨i, c⟩ h
    simpa using (mem_placesFrom h).1
  · rintro ⟨i, c⟩ h
    simpa using (mem_placesFrom h).2

/-- What stands from a place on is what was put there. -/
theorem rest_placesFrom (cs ds : List Char) : rest (placesFrom 0 (cs ++ ds)) (size cs) = String.ofList ds := by
  rw [rest, placesFrom_append, List.filter_append, List.filter_eq_nil_iff.2, List.filter_eq_self.2, List.nil_append,
    map_snd_placesFrom]
  · rintro ⟨i, c⟩ h
    simpa using (mem_placesFrom h).1
  · rintro ⟨i, c⟩ h
    simpa using (mem_placesFrom h).2

variable {text : List (Nat × Char)} {directive : Directive}

/-- A reader that stays where it is at each of some characters is there after them. -/
theorem foldlM_step_of_stays {state : Place × Directive}
    (h : ∀ c ∈ cs, ∀ i, step text state i c = .ok state) :
    (placesFrom place cs).foldlM (fun state (i, c) => step text state i c) state = .ok state := by
  induction cs generalizing place with
  | nil => rfl
  | cons c cs ih =>
    rw [placesFrom, List.foldlM_cons]
    dsimp only
    rw [h c List.mem_cons_self, ok_bind]
    exact ih fun d hd => h d (List.mem_cons_of_mem c hd)

theorem step_target {c : Char} (h : c ∉ ['=', '[', ',']) (i : Nat) :
    step text (.levelOrTarget start, directive) i c = .ok (.levelOrTarget start, directive) := by
  simp only [List.mem_cons, List.not_mem_nil, or_false, not_or] at h
  simp [step, h]

theorem step_level {c : Char} (h : c ≠ ',') (i : Nat) :
    step text (.level start, directive) i c = .ok (.level start, directive) := by
  simp [step, h]

/-- A name of a source is the target, and the level is read behind the equals sign after it. -/
theorem foldlM_step_name {c : Char} {level : List Char} (hbegins : beginsName c)
    (hcs : ∀ d ∈ c :: cs, d ∉ ['=', '[', ',']) (hlevel : ',' ∉ level) :
    (placesFrom 0 (c :: cs ++ '=' :: level)).foldlM (fun state (i, d) => step text state i d) (.beginning, {}) =
      .ok (.level (size (c :: cs) + 1), { target := some (slice text 0 (size (c :: cs))) }) := by
  have hc := hcs c List.mem_cons_self
  have hbeginning : step text (.beginning, {}) 0 c = .ok (.levelOrTarget 0, {}) := by
    simp only [List.mem_cons, not_or] at hc
    simp [step, hbegins, hc]
  have hequals : ∀ i, step text (.levelOrTarget 0, {}) i '=' =
      .ok (.level (i + 1), { target := some (slice text 0 i) }) := fun i => by simp [step]
  rw [placesFrom_append, List.foldlM_append, placesFrom, List.foldlM_cons]
  dsimp only
  rw [hbeginning, ok_bind, foldlM_step_of_stays fun d hd => step_target (hcs d (List.mem_cons_of_mem c hd)), ok_bind,
    placesFrom, List.foldlM_cons]
  dsimp only
  rw [hequals, ok_bind, Nat.zero_add]
  exact foldlM_step_of_stays fun d hd => step_level (by rintro rfl; exact hlevel hd)

end Directive

/-- A name of a source that begins like one and has nothing in it that means something to a directive. -/
def isPlainName (name : String) : Bool :=
  name.toList.head?.any (fun c => Directive.beginsName c && !Text.isBlankChar c) &&
    name.toList.all (· ∉ ['=', '[', ','])

theorem exists_cons_of_isPlainName {name : String} (h : isPlainName name) : ∃ c cs, name.toList = c :: cs ∧
    Directive.beginsName c ∧ Text.isBlankChar c = false ∧ ∀ d ∈ c :: cs, d ∉ ['=', '[', ','] := by
  rw [isPlainName, Bool.and_eq_true] at h
  obtain ⟨hfirst, hall⟩ := h
  cases hname : name.toList with
  | nil => simp [hname] at hfirst
  | cons c cs =>
    rw [hname] at hfirst hall
    simp only [List.head?_cons, Option.any_some, Bool.and_eq_true, Bool.not_eq_true'] at hfirst
    exact ⟨c, cs, rfl, hfirst.1, hfirst.2, fun d hd => by simpa using List.all_eq_true.1 hall d hd⟩

/-- The directive for a source with a plain name has that name for its target, and the level decides whether it can be
read. -/
theorem moduleDirective_of_plain {name level : String} (hname : isPlainName name) (hlevel : ',' ∉ level.toList) :
    moduleDirective name level = Directive.withLevel level { target := some name } := by
  obtain ⟨c, cs, hcs, hbegins, hblank, hplain⟩ := exists_cons_of_isPlainName hname
  have htext : (name ++ "=" ++ level).toList = c :: cs ++ '=' :: level.toList := by simp [hcs]
  have haround : Text.NoneAround Text.isBlankChar (c :: cs ++ ['=']) := by
    refine ⟨by simpa using hblank, fun d hd => ?_⟩
    rw [List.getLast?_concat] at hd
    cases hd
    rfl
  have htrim : Text.trimChars (c :: cs ++ '=' :: level.toList) =
      c :: cs ++ '=' :: Text.dropEndWhile Text.isBlankChar level.toList := by
    rw [Text.trimChars, List.append_cons, Text.trimWhile_append haround (by simp), ← List.append_cons]
  have hkept : ',' ∉ Text.dropEndWhile Text.isBlankChar level.toList :=
    fun h => hlevel ((List.rdropWhile_prefix _ _).subset h)
  have hrest : Directive.rest (Directive.placesFrom 0 (c :: cs ++ '=' :: level.toList)) (Directive.size (c :: cs) + 1) =
      level := by
    have hsize : Directive.size (c :: cs ++ ['=']) = Directive.size (c :: cs) + 1 := by
      rw [Directive.size_append]
      rfl
    rw [List.append_cons, ← hsize, Directive.rest_placesFrom, String.ofList_toList]
  rw [moduleDirective, Directive.read, htext, htrim, Directive.foldlM_step_name hbegins hplain hkept, ok_bind,
    Directive.slice_placesFrom, ← hcs, String.ofList_toList, hcs, Directive.finish,
    hrest]

/-- A source with a plain name can be read exactly if there is nothing for its level or a level. -/
theorem moduleDirective_eq_error_iff {name level : String} (hname : isPlainName name) (hlevel : ',' ∉ level.toList) :
    (∃ why, moduleDirective name level = .error why) ↔ level ≠ "" ∧ ∃ why, readLimit level = .error why := by
  rw [moduleDirective_of_plain hname hlevel, Directive.withLevel]
  by_cases hempty : level = ""
  · simp [hempty]
  · rw [if_neg hempty]
    cases readLimit level <;> simp [hempty, Except.map]

/-! ## Starting with valid settings -/

/-- The variables that say something about a log. -/
def variableNames : List String :=
  ["PIPEWRIGHT_LOG", "PIPEWRIGHT_LOG_FORMAT", "PIPEWRIGHT_LOG_OUTPUT", "PIPEWRIGHT_LOG_MODULES"]

variable {environment : Environment} {files : FileStore} {settings : LogSettings} {fault : ConfigurationFault}

theorem exists_names_of_validate (h : settings.validate = .ok ()) :
    ∃ (format : LogFormat) (output : LogOutput), settings.format = format.name ∧ settings.output = output.name := by
  obtain ⟨format, hformat, h⟩ := bind_eq_ok_iff.1 h
  obtain ⟨output, houtput, -⟩ := bind_eq_ok_iff.1 h
  exact ⟨format, output, LogFormat.ofName_eq_ok_iff.1 hformat, LogOutput.ofName_eq_ok_iff.1 houtput⟩

/-- A fault of the configuration comes from choosing how to log. -/
theorem outcome_start_eq_iff : (start environment files settings).outcome = .error (.configuration fault) ↔
    settings.enabled ∧ choose environment settings = .error fault := by
  cases henabled : settings.enabled with
  | false => simp [start, henabled]
  | true =>
    rcases start_cases environment henabled files with
      ⟨other, hchoose, houtcome⟩ | ⟨logger, file, hchoose, houtcome⟩ | ⟨logger, path, problem, hchoose, houtcome⟩
    all_goals simp [hchoose, houtcome]

theorem chooseFilter_eq_error_iff (hunset : ∀ name ∈ variableNames, environment.get? name = none) :
    chooseFilter environment settings = .error fault ↔ settings.level ≠ "off" ∧
      addModules settings.modules (Filter.readLeniently settings.level).1 = .error fault := by
  have hfilter : environment.get? "PIPEWRIGHT_LOG" = none := hunset _ (by decide)
  have hmodules : environment.get? "PIPEWRIGHT_LOG_MODULES" = none := hunset _ (by decide)
  have hnone : ∀ filter, addVariableModules environment filter = .ok filter := by
    intro filter
    have hempty : variableModules "" = [] := by decide
    rw [addVariableModules, hmodules, Option.getD_none, hempty, List.foldlM_nil]
    rfl
  rw [chooseFilter, variableFilter?, hfilter]
  dsimp only [Option.bind_none]
  split_ifs with hoff
  · exact iff_of_false (fun h => by cases h) fun h => h.1 hoff
  · simp only [hnone, bind_eq_error_iff, reduceCtorEq, and_false, exists_false, or_false]
    exact ⟨fun h => ⟨hoff, h⟩, And.right⟩

/-- Valid settings are at fault only in their directives, where no variable says otherwise. -/
theorem choose_eq_error_iff (hvalid : settings.validate = .ok ())
    (hunset : ∀ name ∈ variableNames, environment.get? name = none) :
    choose environment settings = .error fault ↔ chooseFilter environment settings = .error fault := by
  obtain ⟨format, output, hformat, houtput⟩ := exists_names_of_validate hvalid
  refine ⟨fun h => ?_, fun h => bind_eq_error_iff.2 (Or.inl h)⟩
  rcases choose_eq_error h with hfilter | hwhy | hwhy
  · exact hfilter
  · obtain ⟨chosen, hchosen⟩ := exists_chooseFormat environment hformat
    rw [hwhy] at hchosen
    cases hchosen
  · obtain ⟨text, htext, -⟩ := chooseOutput_eq_error houtput hwhy
    rw [hunset _ (by decide)] at htext
    cases htext

/-- The first directive that cannot be read is what is wrong. -/
theorem addModules_eq_error {sources : List (String × String)} {filter : Filter}
    (h : addModules sources filter = .error fault) :
    ∃ source ∈ sources, ∃ why, moduleDirective source.1 source.2 = .error why ∧ fault = .invalidDirective why := by
  rw [addModules_eq] at h
  rcases @addSources_cases .invalidDirective sources filter with
    ⟨source, hsource, why, hwhy, hadd⟩ | ⟨-, result, hadd⟩
  · exact ⟨source, hsource, why, hwhy, Except.error.inj (h.symm.trans hadd)⟩
  · rw [hadd] at h
    cases h

theorem exists_addModules_eq_error_iff (sources : List (String × String)) (filter : Filter) :
    (∃ fault, addModules sources filter = .error fault) ↔
      ∃ source ∈ sources, ∃ why, moduleDirective source.1 source.2 = .error why := by
  constructor
  · rintro ⟨fault, h⟩
    obtain ⟨source, hsource, why, hwhy, -⟩ := addModules_eq_error h
    exact ⟨source, hsource, why, hwhy⟩
  · rintro ⟨source, hsource, why, hwhy⟩
    rw [addModules_eq]
    rcases @addSources_cases .invalidDirective sources filter with ⟨_, -, _, -, hadd⟩ | ⟨hall, -⟩
    · exact ⟨_, hadd⟩
    · obtain ⟨directive, hdirective⟩ := hall source hsource
      rw [hwhy] at hdirective
      cases hdirective

theorem cases_of_outcome_start {error : ProgramError} (h : (start environment files settings).outcome = .error error) :
    (∃ fault, error = .configuration fault) ∨ ∃ path problem, error = .file path problem := by
  cases henabled : settings.enabled with
  | false =>
    rw [start, henabled] at h
    cases h
  | true =>
    rcases start_cases environment henabled files with
      ⟨fault, -, houtcome⟩ | ⟨_, _, -, houtcome⟩ | ⟨_, path, problem, -, houtcome⟩
    · exact Or.inl ⟨fault, Except.error.inj (h.symm.trans houtcome)⟩
    · rw [houtcome] at h
      cases h
    · exact Or.inr ⟨path, problem, Except.error.inj (h.symm.trans houtcome)⟩

theorem outcome_start_eq_iff_of_validated (hvalid : settings.validate = .ok ())
    (hunset : ∀ name ∈ variableNames, environment.get? name = none) :
    (start environment files settings).outcome = .error (.configuration fault) ↔ settings.enabled ∧
      settings.level ≠ "off" ∧ addModules settings.modules (Filter.readLeniently settings.level).1 = .error fault := by
  rw [outcome_start_eq_iff, choose_eq_error_iff hvalid hunset, chooseFilter_eq_error_iff hunset]

/-- With valid settings there is a fault exactly if there is one in a directive for a single source, unless logging is
off. -/
theorem exists_fault_iff_of_validated (hvalid : settings.validate = .ok ())
    (hunset : ∀ name ∈ variableNames, environment.get? name = none) :
    (∃ fault, (start environment files settings).outcome = .error (.configuration fault)) ↔
      settings.enabled ∧ settings.level ≠ "off" ∧
        ∃ source ∈ settings.modules, ∃ why, moduleDirective source.1 source.2 = .error why := by
  simp only [outcome_start_eq_iff_of_validated hvalid hunset, exists_and_left, exists_addModules_eq_error_iff]

/-- Valid settings are at fault exactly in a directive for a single source that cannot be read, unless logging is off,
and for plain names of sources that is a level that is none.  Anything else that goes wrong is a problem with the log
file. -/
theorem start_of_validated (files : FileStore) (hvalid : settings.validate = .ok ())
    (hunset : ∀ name ∈ variableNames, environment.get? name = none) :
    ((∃ fault, (start environment files settings).outcome = .error (.configuration fault)) ↔
      settings.enabled ∧ settings.level ≠ "off" ∧
        ∃ source ∈ settings.modules, ∃ why, moduleDirective source.1 source.2 = .error why) ∧
    (∀ error, (start environment files settings).outcome = .error error →
      (∃ source ∈ settings.modules, ∃ why, moduleDirective source.1 source.2 = .error why ∧
        error = .configuration (.invalidDirective why)) ∨
      ∃ path problem, error = .file path problem) ∧
    ((∀ source ∈ settings.modules, isPlainName source.1 ∧ ',' ∉ source.2.toList) →
      ((∃ fault, (start environment files settings).outcome = .error (.configuration fault)) ↔
        settings.enabled ∧ settings.level ≠ "off" ∧
          ∃ source ∈ settings.modules, source.2 ≠ "" ∧ ∃ why, readLimit source.2 = .error why)) := by
  have hiff := @exists_fault_iff_of_validated environment files settings hvalid hunset
  refine ⟨hiff, fun error herror => ?_, fun hplain => hiff.trans ?_⟩
  · rcases cases_of_outcome_start herror with ⟨fault, rfl⟩ | hfile
    · obtain ⟨-, -, hadd⟩ := (outcome_start_eq_iff_of_validated hvalid hunset).1 herror
      obtain ⟨source, hsource, why, hwhy, rfl⟩ := addModules_eq_error hadd
      exact Or.inl ⟨source, hsource, why, hwhy, rfl⟩
    · exact Or.inr hfile
  · refine and_congr_right fun _ => and_congr_right fun _ => exists_congr fun source => ?_
    refine and_congr_right fun hsource => ?_
    exact moduleDirective_eq_error_iff (hplain source hsource).1 (hplain source hsource).2

/-- Settings with a text for the level of a source that is no level. -/
def unknownLevel : LogSettings where
  modules := [("a", "bogus")]

theorem exists_readLimit_bogus : ∃ why, readLimit "bogus" = .error why := by
  have hnone : (readLimit "bogus").toOption = none := by decide +kernel
  cases h : readLimit "bogus" with
  | error why => exact ⟨why, rfl⟩
  | ok limit =>
    rw [h] at hnone
    cases hnone

theorem start_of_unknownLevel : unknownLevel.validate = .ok () ∧
    (∀ name ∈ variableNames, ({} : Environment).get? name = none) ∧
    ∃ fault, (start {} {} unknownLevel).outcome = .error (.configuration fault) := by
  have hvalid : unknownLevel.validate = .ok () := rfl
  have hunset : ∀ name ∈ variableNames, ({} : Environment).get? name = none := by decide
  have hplain : ∀ source ∈ unknownLevel.modules, isPlainName source.1 ∧ ',' ∉ source.2.toList := by decide +kernel
  refine ⟨hvalid, hunset, ((start_of_validated {} hvalid hunset).2.2 hplain).2 ⟨rfl, by decide, ("a", "bogus"), ?_⟩⟩
  exact ⟨List.mem_singleton_self _, by decide, exists_readLimit_bogus⟩

/-- Valid settings are not always without fault. -/
theorem not_start_of_validated : ¬ ∀ (environment : Environment) (files : FileStore) (settings : LogSettings),
    settings.validate = .ok () → (∀ name ∈ variableNames, environment.get? name = none) →
      ∀ fault, (start environment files settings).outcome ≠ .error (.configuration fault) := by
  intro h
  have hvalid : unknownLevel.validate = .ok () := rfl
  have hunset : ∀ name ∈ variableNames, ({} : Environment).get? name = none := by decide
  have hdirective : ∃ why, moduleDirective "a" "bogus" = .error why :=
    (moduleDirective_eq_error_iff (by decide +kernel) (by decide)).2 ⟨by decide, exists_readLimit_bogus⟩
  obtain ⟨fault, hfault⟩ := (@exists_fault_iff_of_validated {} {} _ hvalid hunset).2
    ⟨rfl, by decide, ("a", "bogus"), List.mem_singleton_self _, hdirective⟩
  exact h {} {} unknownLevel hvalid hunset fault hfault

end TableScript.Log
