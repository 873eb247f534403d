import TableScript.Proofs.Options.Reach
import TableScript.Proofs.Script.Delimiters
import TableScript.Proofs.Script.Generation
import TableScript.Proofs.Script.Steps

/-!
# Where options reach

A text can be cut into the sections of its stages (`Script.sections`).  What a section says depends on the parameters
of its stage only, whatever else the options and the dataset hold, and the hyperparameters that are listed for an
algorithm do reach its section (`sections_depend_on_parameters`).
-/

namespace TableScript

/-! ### Reading sections -/

namespace Script

/-- Groups blocks to sections, the first of which goes on from `before`: a section ends with the block whose heading
tells its stage. -/
def groupSections (before : List (List (List Char))) :
    List (List (List Char)) → List (StageId × List (List (List Char)))
  | [] => []
  | block :: blocks => match block.head?.bind StageId.ofHeading? with
    | some id => (id, before ++ [block]) :: groupSections [] blocks
    | none => groupSections (before ++ [block]) blocks

/-- The sections of a text: the stages that its headings tell, each with its blocks. -/
def sections (text : String) : List (StageId × List (List (List Char))) :=
  groupSections [] (blocks text)

/-- Blocks under headings that tell no stage belong to the section of the heading that tells one. -/
private theorem groupSections_append {labels : List String} {id : StageId} {blocks : List (List (List Char))}
    (h : HeadedAll (labels ++ [id.heading]) blocks) (hl : ∀ label ∈ labels, StageId.ofHeading? label.toList = none)
    (before more : List (List (List Char))) :
    groupSections before (blocks ++ more) = (id, before ++ blocks) :: groupSections [] more := by
  induction labels generalizing blocks before with
  | nil =>
    obtain ⟨block, rest, hd, hr, rfl⟩ := List.forall₂_cons_left_iff.1 h
    obtain rfl := List.forall₂_nil_left_iff.1 hr
    rw [List.singleton_append, groupSections, hd.head?, Option.bind_some, StageId.ofHeading?_heading]
  | cons label labels ih =>
    rw [List.forall_mem_cons] at hl
    obtain ⟨block, rest, hd, hr, rfl⟩ := List.forall₂_cons_left_iff.1 h
    -- the heading tells no stage, so its block waits for the next one
    rw [List.cons_append, groupSections, hd.head?, Option.bind_some, hl.1]
    simp only [ih hr hl.2, List.append_assoc, List.singleton_append]

end Script

/-- The last heading of a stage tells it, and the others tell none. -/
private theorem StageId.headings_eq (options : Options) (id : StageId) :
    ∃ labels, id.headings options = labels ++ [id.heading] ∧ ∀ label ∈ labels, ofHeading? label.toList = none := by
  cases id with
  | model =>
    refine ⟨_, rfl, fun label hl => ?_⟩
    obtain ⟨algorithm, -, rfl⟩ : ∃ algorithm, options.algorithm = some algorithm ∧ "# " ++ algorithm.label = label := by
      simpa using hl
    simpa using ofHeading?_label algorithm
  | _ => exact ⟨[], rfl, by simp⟩

private theorem groupSections_sectionsFrom {options : Options} (h : options.HasRandomState) {dataset : Dataset}
    {plan : Plan} {ids : List StageId} (hm : .model ∈ ids → options.selection.isSome) (scope : Scope) :
    Script.groupSections [] (Plan.sectionsFrom options dataset plan scope ids).flatten =
      (Plan.stepsFrom options scope ids).map fun step => (step.1, step.1.blocks options dataset plan step.2) := by
  induction ids generalizing scope with
  | nil => rfl
  | cons id ids ih =>
    have hid : id = .model → options.selection.isSome := by
      rintro rfl
      exact hm (List.mem_cons_self ..)
    have hheaded : HeadedAll (id.headings options) (id.blocks options dataset plan scope) :=
      StageId.headed_blocks h hid
    obtain ⟨labels, hlabels, hnone⟩ := id.headings_eq options
    rw [hlabels] at hheaded
    rw [Plan.sectionsFrom, Plan.stepsFrom, List.flatten_cons, List.map_cons,
      Script.groupSections_append hheaded hnone, List.nil_append, ih fun hi => hm (List.mem_cons_of_mem _ hi)]

/-- The sections of a generated text are those of the steps of its plan. -/
theorem Generated.sections_text {options : Options} {dataset : Dataset} {plan : Plan} {script : Script}
    (h : Generated options dataset plan script) : Script.sections script.text =
      (plan.steps options).map fun step => (step.1, step.1.blocks options dataset plan step.2) := by
  rw [Script.sections, h.blocks_text, Plan.blocks]
  exact groupSections_sectionsFrom h.hasRandomState h.selection []

/-! ### The parameters of stages -/

/-- Options that agree on a hyperparameter of a family's algorithms. -/
def Options.AgreeOn (options options' : Options) (family : Family) : Parameter → Prop
  | .randomState => options.randomState family = options'.randomState family
  | .criterion => options.criterion = options'.criterion
  | .degree => options.polynomialDegree = options'.polynomialDegree
  | _ => True

/-- Options and datasets that agree on the parameters of a stage: loading takes the name of the file, encoding the
column, scaling whether the data are split, and the model the algorithm with its listed hyperparameters and whether
the data are split.  Other stages have no parameters. -/
def StageId.Agree (options options' : Options) (dataset dataset' : Dataset) : StageId → Prop
  | .load => dataset.fileName = dataset'.fileName
  | .encodeCategorical => options.column = options'.column
  | .scale => options.splitDataset = options'.splitDataset
  | .model => options.family = options'.family ∧ options.algorithm = options'.algorithm ∧
    options.splitDataset = options'.splitDataset ∧
    ∀ family algorithm, options.family = some family → options.algorithm = some algorithm →
      ∀ parameter ∈ algorithm.hyperparameters, options.AgreeOn options' family parameter
  | _ => True

section

variable {options options' : Options} {dataset dataset' : Dataset} {scope scope' : Scope}

/-- The listed hyperparameters are those that the estimator has holes for. -/
theorem Algorithm.hyperparameters_eq (algorithm : Algorithm) : algorithm.hyperparameters =
    [Parameter.criterion, .degree, .randomState].filter algorithm.estimator.uses := by
  have hplain : ∀ line ∈ algorithm.estimator.lines, ∀ piece ∈ line, piece.Plain :=
    fun line hl piece hp => (algorithm.takes_estimator.1 line hl piece hp).plain
  have hoffered : algorithm.family.offers algorithm := by simp [Family.offers]
  rw [hyperparameters, Family.estimator?_eq, if_pos hoffered]
  exact List.filter_congr fun parameter _ => Fragment.mentions_eq_uses hplain parameter

theorem Algorithm.mem_hyperparameters_iff {algorithm : Algorithm} {parameter : Parameter} :
    parameter ∈ algorithm.hyperparameters ↔
      parameter ∈ [Parameter.criterion, .degree, .randomState] ∧ algorithm.estimator.uses parameter := by
  rw [hyperparameters_eq, List.mem_filter]

theorem Family.takes_score (family : Family) : family.metric.Takes [.yEval] := by
  cases family <;> decide

private theorem Render.value_congr {family : Family} {algorithm : Algorithm} (hf : options.family = some family)
    (hf' : options'.family = some family) (hsplit : scope.isSplit = scope'.isSplit)
    (h : ∀ parameter ∈ algorithm.hyperparameters, options.AgreeOn options' family parameter) {parameter : Parameter}
    (hu : algorithm.estimator.uses parameter) :
    value options dataset scope parameter = value options' dataset' scope' parameter := by
  have hlisted : parameter ∈ [Parameter.criterion, .degree, .randomState] → options.AgreeOn options' family parameter :=
    fun hp => h parameter (Algorithm.mem_hyperparameters_iff.2 ⟨hp, hu⟩)
  have hp := (algorithm.takes_estimator.1).mem_of_uses hu
  cases parameter with
  | fileLiteral | column => exact absurd hp (by decide)
  | xFit | yFit | xEval | yEval => simp only [value, hsplit]
  | randomState =>
    have hagree : options.randomState family = options'.randomState family := hlisted (by simp)
    simp only [value, hf, hf', Option.map_some, Option.getD_some, hagree]
  | criterion =>
    have hagree : options.criterion = options'.criterion := hlisted (by simp)
    simp only [value, hagree]
  | degree =>
    have hagree : options.polynomialDegree = options'.polynomialDegree := hlisted (by simp)
    simp only [value, hagree]

/-- The blocks of a stage are the same for options and datasets that agree on its parameters. -/
theorem StageId.blocks_congr {plan plan' : Plan} {id : StageId} (hid : id ≠ .imports)
    (h : id.Agree options options' dataset dataset')
    (hsplit : id = .scale ∨ id = .model → scope.isSplit = scope'.isSplit) :
    id.blocks options dataset plan scope = id.blocks options' dataset' plan' scope' := by
  by_cases hmodel : id = .model
  · subst hmodel
    obtain ⟨hf, ha, -, hagree⟩ := h
    have hsplit := hsplit (Or.inr rfl)
    have hselection : options.selection = options'.selection := by rw [Options.selection, Options.selection, hf, ha]
    cases hs : options'.selection with
    | none => simp only [blocks, hselection, hs]
    | some selection =>
      obtain ⟨family, algorithm⟩ := selection
      obtain ⟨hf', ha'⟩ := Options.selection_eq_some_iff.1 hs
      rw [hf'] at hf
      rw [ha'] at ha
      have hfit : algorithm.estimator.filledLines (Render.value options dataset scope) =
          algorithm.estimator.filledLines (Render.value options' dataset' scope') :=
        Fragment.filledLines_congr fun parameter hu =>
          Render.value_congr hf hf' hsplit (hagree family algorithm hf ha) hu
      have hscore : family.metric.filledLines (Render.value options dataset scope) =
          family.metric.filledLines (Render.value options' dataset' scope') := by
        refine Fragment.filledLines_congr fun parameter hu => ?_
        obtain rfl := List.mem_singleton.1 (family.takes_score.mem_of_uses hu)
        simp only [Render.value, hsplit]
      simp only [blocks, hselection, hs, hfit, hscore]
  · -- the other stages are fragments, and only scaling has two of them
    obtain ⟨fragment, hf⟩ : ∃ fragment, id.fragment? scope = some fragment := by
      cases id with
      | imports => exact absurd rfl hid
      | model => exact absurd rfl hmodel
      | _ => exact ⟨_, rfl⟩
    have hf' : id.fragment? scope' = some fragment := by
      rw [← hf]
      cases id with
      | scale => rw [fragment?, fragment?, hsplit (Or.inl rfl)]
      | _ => rfl
    rw [blocks_of_fragment hf, blocks_of_fragment hf']
    congr 1
    refine Fragment.filledLines_congr fun parameter hu => ?_
    have hp := (takes_fragment hf).1.mem_of_uses hu
    cases id with
    | imports => exact absurd rfl hid
    | model => exact absurd rfl hmodel
    | load =>
      obtain rfl := List.mem_singleton.1 hp
      exact congrArg Literal.write h
    | encodeCategorical =>
      obtain rfl := List.mem_singleton.1 hp
      exact congrArg Text.decimal h
    | _ => exact absurd hp List.not_mem_nil

/-! ### Rows and columns -/

section

variable (h : dataset.fileName = dataset'.fileName)

include h

/-- Of a dataset, only the name of its file is rendered. -/
theorem StageId.render_outcome_of_fileName (plan : Plan) (id : StageId) :
    (id.render options dataset plan scope).outcome = (id.render options dataset' plan scope).outcome := by
  cases id with
  | load => simp only [render, Render.load, h]
  | encodeCategorical =>
    -- the columns are looked at, but only to tell of an index that is none of theirs
    simp only [render]
    split <;> split <;> rfl
  | _ => rfl

theorem Plan.renderFrom_outcome_of_fileName (plan : Plan) (ids : List StageId) :
    (Generate.renderFrom options dataset plan scope ids).outcome =
      (Generate.renderFrom options dataset' plan scope ids).outcome := by
  induction ids generalizing scope with
  | nil => rfl
  | cons id ids ih =>
    unfold Generate.renderFrom
    cases hm : scope.firstMissing? (id.stage.requires options) with
    | some missing => simp only [hm]
    | none => simp only [hm, Traced.outcome_bind, id.render_outcome_of_fileName h, ih]

theorem generate_outcome_of_fileName (settings : Settings) :
    (generate settings options (some dataset)).outcome = (generate settings options (some dataset')).outcome := by
  simp only [generate, Traced.outcome_bind, Plan.renderFrom_outcome_of_fileName h]

end

/-! ### Hyperparameters -/

/-- Options that differ in a hyperparameter of a family's algorithms and in nothing else. -/
def Options.DifferOnlyIn (options options' : Options) (family : Family) : Parameter → Prop
  | .randomState => options.randomState family ≠ options'.randomState family ∧
    ∃ text, options' = options.setRandomState text family
  | .criterion => options.criterion ≠ options'.criterion ∧ ∃ criterion, options' = { options with criterion := criterion }
  | .degree => options.polynomialDegree ≠ options'.polynomialDegree ∧
    ∃ degree, options' = { options with polynomialDegree := degree }
  | _ => False

/-- Equal texts with a model of the same algorithm have the same values for its hyperparameters. -/
theorem Generated.value_eq_of_text_eq {plan plan' : Plan} {script script' : Script}
    (hg : Generated options dataset plan script) (hg' : Generated options' dataset' plan' script')
    (htext : script.text = script'.text) (hm : .model ∈ plan.stages) {family : Family} {algorithm : Algorithm}
    (hs : options.selection = some (family, algorithm)) (hs' : options'.selection = some (family, algorithm)) :
    ∃ scope scope', ∀ parameter ∈ algorithm.hyperparameters,
      Render.value options dataset scope parameter = Render.value options' dataset' scope' parameter := by
  obtain ⟨⟨id, scope⟩, hstep, rfl⟩ : ∃ step ∈ plan.steps options, step.1 = StageId.model := by
    rw [← Plan.map_fst_steps] at hm
    exact List.mem_map.1 hm
  have hsection : (StageId.model, StageId.model.blocks options dataset plan scope) ∈ Script.sections script'.text := by
    rw [← htext, hg.sections_text]
    exact List.mem_map.2 ⟨_, hstep, rfl⟩
  rw [hg'.sections_text] at hsection
  obtain ⟨⟨id, scope'⟩, -, he⟩ := List.mem_map.1 hsection
  obtain ⟨rfl, hblocks⟩ := Prod.mk.inj he
  -- the labels and the metrics are the same, so what is left are two fillings of one estimator
  simp only [StageId.blocks, hs, hs', List.cons.injEq, true_and] at hblocks
  refine ⟨scope, scope', fun parameter hp => ?_⟩
  have hvalue : ∀ {o : Options} {d : Dataset} {held : Scope}, o.HasRandomState → ∀ parameter,
      algorithm.estimator.uses parameter → ∀ c ∈ (Render.value o d held parameter).toList, Line.isDelimiter c = false := by
    intro o d held ho parameter hu
    refine Render.isDelimiter_value ho ?_
    rintro rfl
    exact absurd (algorithm.takes_estimator.1.mem_of_uses hu) (by decide)
  exact Fragment.eq_of_filledLines_eq (Fragments.delimited _ algorithm.estimator_mem_all) (hvalue hg.hasRandomState)
    (hvalue hg'.hasRandomState) hblocks.1.symm parameter (Algorithm.mem_hyperparameters_iff.1 hp).2

end

theorem Options.selection_setRandomState (options : Options) (text : String) (family : Family) :
    (options.setRandomState text family).selection = options.selection := by
  cases family <;> rfl

theorem Options.Admissible.exists_script_with_model {options : Options} (ha : options.Admissible)
    (hs : options.selection.isSome) (settings : Settings) (dataset : Dataset) :
    ∃ plan script, (generate settings options (some dataset)).outcome = .ok script ∧
      Generated options dataset plan script ∧ .model ∈ plan.stages := by
  have hb : (Plan.build options settings.unknownAlgorithm).outcome = .ok ⟨Plan.active options⟩ := by
    rw [Plan.build_outcome, ha.unknownSelection?_eq_none]
  obtain ⟨script, h⟩ := generate_ok_of_build ha.validate hb dataset
  obtain ⟨plan, hb', hg, -⟩ := exists_built h
  obtain rfl : _ = plan := Except.ok.inj (hb.symm.trans hb')
  exact ⟨_, script, h, hg, List.mem_filter.2 ⟨StageId.mem_all _, hs⟩⟩

/-- A parameter makes a difference: some valid options with the algorithm differ in nothing else and give different
scripts. -/
def Algorithm.DependsOn (settings : Settings) (dataset : Dataset) (algorithm : Algorithm) (parameter : Parameter) :
    Prop :=
  ∃ options options' script script', options.validate = .ok () ∧ options'.validate = .ok () ∧
    options.selection = some (algorithm.family, algorithm) ∧ options.DifferOnlyIn options' algorithm.family parameter ∧
    (generate settings options (some dataset)).outcome = .ok script ∧
    (generate settings options' (some dataset)).outcome = .ok script' ∧ script.text ≠ script'.text

/-- A hyperparameter makes a difference if two options that differ in it write it differently. -/
private theorem Algorithm.dependsOn_of_value_ne (settings : Settings) {dataset : Dataset} {algorithm : Algorithm}
    {parameter : Parameter} (hp : parameter ∈ algorithm.hyperparameters) {options options' : Options}
    (ha : options.Admissible) (ha' : options'.Admissible) (hs : options.selection = some (algorithm.family, algorithm))
    (hs' : options'.selection = some (algorithm.family, algorithm))
    (hd : options.DifferOnlyIn options' algorithm.family parameter)
    (hne : ∀ scope scope', Render.value options dataset scope parameter ≠ Render.value options' dataset scope' parameter) :
    algorithm.DependsOn settings dataset parameter := by
  obtain ⟨plan, script, h, hg, hm⟩ := ha.exists_script_with_model (by simp [hs]) settings dataset
  obtain ⟨plan', script', h', hg', -⟩ := ha'.exists_script_with_model (by simp [hs']) settings dataset
  refine ⟨options, options', script, script', ha.validate, ha'.validate, hs, hd, h, h', fun htext => ?_⟩
  obtain ⟨scope, scope', hvalue⟩ := hg.value_eq_of_text_eq hg' htext hm hs hs'
  exact hne scope scope' (hvalue parameter hp)

/-- Options that choose an algorithm and leave the rest as it is. -/
def Algorithm.chosen (algorithm : Algorithm) : Options :=
  { family := some algorithm.family, algorithm := some algorithm }

theorem Algorithm.admissible_chosen (algorithm : Algorithm) : algorithm.chosen.Admissible := by
  refine ⟨?_, Options.admissible_default.degree, Options.admissible_default.randomState⟩
  rintro found ⟨⟩
  exact ⟨_, rfl, Family.offers_iff_mem.1 (by simp [Family.offers])⟩

/-- Each hyperparameter that is listed for an algorithm makes a difference, under any settings and for any dataset. -/
theorem Algorithm.dependsOn_of_mem_hyperparameters (settings : Settings) (dataset : Dataset) {algorithm : Algorithm}
    {parameter : Parameter} (hp : parameter ∈ algorithm.hyperparameters) :
    algorithm.DependsOn settings dataset parameter := by
  have ha := algorithm.admissible_chosen
  have hs : algorithm.chosen.selection = some (algorithm.family, algorithm) := rfl
  have hlisted : parameter ∈ [Parameter.criterion, .degree, .randomState] :=
    (mem_hyperparameters_iff.1 hp).1
  cases parameter with
  | criterion =>
    have hne : Criterion.gini ≠ .entropy ∧ Criterion.gini.name ≠ Criterion.entropy.name := by decide
    have ha' : Options.Admissible { algorithm.chosen with criterion := .entropy } :=
      ⟨ha.algorithm, ha.degree, ha.randomState⟩
    exact dependsOn_of_value_ne settings hp ha ha' hs rfl ⟨hne.1, _, rfl⟩ fun _ _ => hne.2
  | degree =>
    have hne : (2 : UInt8) ≠ 3 ∧ Text.decimal 2 ≠ Text.decimal 3 := by decide +kernel
    have hdegree : 2 ≤ (3 : UInt8).toNat ∧ (3 : UInt8).toNat ≤ 5 := by decide
    have ha' : Options.Admissible { algorithm.chosen with polynomialDegree := 3 } :=
      ⟨ha.algorithm, hdegree, ha.randomState⟩
    exact dependsOn_of_value_ne settings hp ha ha' hs rfl ⟨hne.1, _, rfl⟩ fun _ _ => hne.2
  | randomState =>
    have htrim : Text.trim "" = "" ∧ Text.trim "1" = "1" ∧ isRandomState "1" := by decide
    have hstate : algorithm.chosen.randomState algorithm.family = "0" := by
      cases algorithm.family <;> simp [chosen, Options.randomState, Options.randomStateText, htrim.1]
    have hstate' : (algorithm.chosen.setRandomState "1" algorithm.family).randomState algorithm.family = "1" := by
      rw [Options.randomState, Options.randomStateText_setRandomState, if_pos rfl, htrim.2.1]
      rfl
    have ha' := ha.setRandomState (isRandomState_iff.1 htrim.2.2) algorithm.family
    have hs' : (algorithm.chosen.setRandomState "1" algorithm.family).selection = some (algorithm.family, algorithm) :=
      algorithm.chosen.selection_setRandomState "1" algorithm.family
    have hf := (Options.selection_eq_some_iff.1 hs).1
    have hf' := (Options.selection_eq_some_iff.1 hs').1
    have hne : "0" ≠ "1" := by decide
    refine dependsOn_of_value_ne settings hp ha ha' hs hs' ⟨?_, _, rfl⟩ fun _ _ => ?_
    · rwa [hstate, hstate']
    · simp only [Render.value, hf, hf', Option.map_some, Option.getD_some]
      rwa [hstate, hstate']
  | _ => exact absurd hlisted (by decide)

/-! ### Two scripts -/

/-- The sections of a generated text are those of the stages that made the script, and the text is nothing but their
blocks. -/
theorem Generated.sections_eq {options : Options} {dataset : Dataset} {plan : Plan} {script : Script}
    (h : Generated options dataset plan script) :
    (Script.sections script.text).map Prod.fst = script.producedBy ∧
      script.text.toList = Text.joinBlocks ((Script.sections script.text).flatMap Prod.snd) ++ ['\n'] := by
  rw [h.sections_text]
  constructor
  · rw [List.map_map, h.stages]
    exact Plan.map_fst_steps
  · have hblocks : plan.blocks options dataset =
        ((plan.steps options).map fun step => (step.1, step.1.blocks options dataset plan step.2)).flatMap
          Prod.snd := by
      rw [Plan.blocks, Plan.sectionsFrom_eq_map, List.flatMap_def, List.map_map]
      rfl
    rw [← hblocks]
    exact h.text

/-- The sections of a stage in two scripts are the same if what they were generated from agrees on the parameters of
the stage. -/
theorem Generated.section_congr {settings settings' : Settings} {options options' : Options}
    {dataset dataset' : Dataset} {script script' : Script}
    (h : (generate settings options (some dataset)).outcome = .ok script)
    (h' : (generate settings' options' (some dataset')).outcome = .ok script') {id : StageId} (hid : id ≠ .imports)
    (hagree : id.Agree options options' dataset dataset') {blocks blocks' : List (List (List Char))}
    (hb : (id, blocks) ∈ Script.sections script.text) (hb' : (id, blocks') ∈ Script.sections script'.text) :
    blocks = blocks' := by
  obtain ⟨plan, hbuilt, hg, -⟩ := exists_built h
  obtain ⟨plan', hbuilt', hg', -⟩ := exists_built h'
  rw [hg.sections_text] at hb
  rw [hg'.sections_text] at hb'
  obtain ⟨⟨_, scope⟩, hstep, heq⟩ := List.mem_map.1 hb
  obtain ⟨⟨_, scope'⟩, hstep', heq'⟩ := List.mem_map.1 hb'
  obtain ⟨rfl, rfl⟩ := Prod.mk.inj heq
  obtain ⟨rfl, rfl⟩ := Prod.mk.inj heq'
  refine StageId.blocks_congr hid hagree fun hlooks => ?_
  have hsplit : options.splitDataset = options'.splitDataset := by
    rcases hlooks with rfl | rfl
    · exact hagree
    · exact hagree.2.2.1
  rw [Plan.isSplit_of_mem_steps hbuilt hstep hlooks, Plan.isSplit_of_mem_steps hbuilt' hstep' hlooks, hsplit]

/-- The sections of a script are those of its stages and all there is in its text.  Two scripts have the same section
for a stage other than the imports whenever their options and datasets agree on the parameters of the stage, whatever
else they are.  Of a dataset only the name of its file counts for the script, and every hyperparameter that is listed
for an algorithm makes a difference to some script. -/
theorem sections_depend_on_parameters {settings settings' : Settings} {options options' : Options}
    {dataset dataset' : Dataset} {script script' : Script}
    (h : (generate settings options (some dataset)).outcome = .ok script)
    (h' : (generate settings' options' (some dataset')).outcome = .ok script') :
    ((Script.sections script.text).map Prod.fst = script.producedBy ∧
      script.text.toList = Text.joinBlocks ((Script.sections script.text).flatMap Prod.snd) ++ ['\n']) ∧
    (∀ id ≠ StageId.imports, id.Agree options options' dataset dataset' →
      ∀ blocks blocks', (id, blocks) ∈ Script.sections script.text → (id, blocks') ∈ Script.sections script'.text →
        blocks = blocks') ∧
    (∀ other : Dataset, other.fileName = dataset.fileName →
      (generate settings options (some other)).outcome = .ok script) ∧
    ∀ algorithm : Algorithm, ∀ parameter ∈ algorithm.hyperparameters,
      algorithm.DependsOn settings dataset parameter := by
  obtain ⟨plan, -, hg, -⟩ := exists_built h
  refine ⟨hg.sections_eq, ?_, ?_, ?_⟩
  · intro id hid hagree blocks blocks' hb hb'
    exact Generated.section_congr h h' hid hagree hb hb'
  · intro other hname
    rw [generate_outcome_of_fileName hname, h]
  · intro algorithm parameter hp
    exact Algorithm.dependsOn_of_mem_hyperparameters settings dataset hp

/-- Logistic regression takes the random state and nothing of the criterion, the degree, the stages before it or the
dataset. -/
theorem sections_depend_on_parameters_of_logisticRegression :
    let options : Options :=
      { family := some .classification, algorithm := some .logisticRegression, splitDataset := true,
        classificationRandomState := " 7 ", importLibraries := true }
    let options' : Options :=
      { family := some .classification, algorithm := some .logisticRegression, splitDataset := true,
        classificationRandomState := "7", performScaling := true, criterion := .entropy, polynomialDegree := 4 }
    ∃ script script' blocks,
      (generate {} options (some ⟨"a.csv", 2, ["a", "b"], []⟩)).outcome = .ok script ∧
      (generate {} options' (some ⟨"b.csv", 0, ["c"], []⟩)).outcome = .ok script' ∧
      (.model, blocks) ∈ Script.sections script.text ∧ (.model, blocks) ∈ Script.sections script'.text := by
  intro options options'
  have hoffered : ∀ algorithm, some Algorithm.logisticRegression = some algorithm →
      ∃ family, some Family.classification = some family ∧ algorithm ∈ family.algorithms := by decide
  have hstates : isRandomState " 7 " ∧ isRandomState "7" ∧ isRandomState "" := by decide
  simp only [isRandomState_iff] at hstates
  have ha : options.Admissible := by
    refine ⟨hoffered, by decide, fun family => ?_⟩
    cases family with
    | classification => exact hstates.1
    | regression => exact hstates.2.2
  have ha' : options'.Admissible := by
    refine ⟨hoffered, by decide, fun family => ?_⟩
    cases family with
    | classification => exact hstates.2.1
    | regression => exact hstates.2.2
  obtain ⟨plan, script, h, hg, hm⟩ := ha.exists_script_with_model rfl {} ⟨"a.csv", 2, ["a", "b"], []⟩
  obtain ⟨plan', script', h', hg', hm'⟩ := ha'.exists_script_with_model rfl {} ⟨"b.csv", 0, ["c"], []⟩
  rw [← hg.stages] at hm
  rw [← hg'.stages] at hm'
  obtain ⟨⟨hstages, -⟩, hsame, -⟩ := sections_depend_on_parameters h h'
  obtain ⟨⟨hstages', -⟩, -⟩ := sections_depend_on_parameters h' h
  rw [← hstages] at hm
  rw [← hstages'] at hm'
  obtain ⟨⟨_, blocks⟩, hb, rfl⟩ := List.mem_map.1 hm
  obtain ⟨⟨_, blocks'⟩, hb', hid⟩ := List.mem_map.1 hm'
  simp only at hid
  subst hid
  have hagree : StageId.model.Agree options options' ⟨"a.csv", 2, ["a", "b"], []⟩ ⟨"b.csv", 0, ["c"], []⟩ := by
    refine ⟨rfl, rfl, rfl, ?_⟩
    rintro family algorithm ⟨⟩ ⟨⟩ parameter hp
    have hlisted : Algorithm.logisticRegression.hyperparameters = [.randomState] := by decide +kernel
    obtain rfl := List.mem_singleton.1 (hlisted ▸ hp)
    show options.randomState .classification = options'.randomState .classification
    decide
  obtain rfl := hsame .model (by decide) hagree blocks blocks' hb hb'
  exact ⟨script, script', blocks, h, h', hb, hb'⟩

end TableScript
