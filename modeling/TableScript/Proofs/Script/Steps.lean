import TableScript.Proofs.Script.Layout

/-!
# The steps of a generation

A generation takes one step for each stage of its plan, with the symbols that the steps before it have made
(`Plan.steps`).  The texts and the blocks of a script are those of its steps.  In a plan that has been built, the
features are split at the steps that look at it exactly if the options split the data (`isSplit_of_mem_steps`).
-/

namespace TableScript

namespace Plan

/-- Some stages, each with the scope that those before it leave. -/
def stepsFrom (options : Options) (scope : Scope) : List StageId → List (StageId × Scope)
  | [] => []
  | id :: ids => (id, scope) :: stepsFrom options (scope.extend (id.stage.produces options)) ids

/-- The stages of a plan, each with the scope in which it is rendered. -/
def steps (options : Options) (plan : Plan) : List (StageId × Scope) :=
  stepsFrom options [] plan.stages

variable {options : Options} {dataset : Dataset} {plan : Plan} {scope : Scope} {ids : List StageId}

theorem map_fst_stepsFrom : (stepsFrom options scope ids).map Prod.fst = ids := by
  induction ids generalizing scope with
  | nil => rfl
  | cons id ids ih => rw [stepsFrom, List.map_cons, ih]

theorem map_fst_steps : (plan.steps options).map Prod.fst = plan.stages :=
  map_fst_stepsFrom

theorem mem_stages_of_mem_steps {id : StageId} (h : (id, scope) ∈ plan.steps options) : id ∈ plan.stages := by
  have hmem : id ∈ (plan.steps options).map Prod.fst := List.mem_map_of_mem h
  rwa [map_fst_steps] at hmem

/-- The texts of a walk are those of its steps. -/
theorem textsFrom_eq_ok_iff {texts : List String} : textsFrom options dataset plan scope ids = .ok texts ↔
    List.Forall₂ (fun step text => (step.1.render options dataset plan step.2).outcome = .ok text)
      (stepsFrom options scope ids) texts := by
  induction ids generalizing scope texts with
  | nil =>
    rw [textsFrom, stepsFrom, List.forall₂_nil_left_iff]
    exact ⟨fun h => (Except.ok.inj h).symm, fun h => h ▸ rfl⟩
  | cons id ids ih =>
    rw [textsFrom_cons_eq_ok_iff, stepsFrom, List.forall₂_cons_left_iff]
    simp only [ih]

theorem sectionsFrom_eq_map : sectionsFrom options dataset plan scope ids =
    (stepsFrom options scope ids).map fun step => step.1.blocks options dataset plan step.2 := by
  induction ids generalizing scope with
  | nil => rfl
  | cons id ids ih => rw [sectionsFrom, stepsFrom, List.map_cons, ih]

theorem flatten_blocks : (plan.blocks options dataset).flatten =
    (plan.steps options).flatMap fun step => (step.1.blocks options dataset plan step.2).flatten := by
  rw [blocks, sectionsFrom_eq_map, List.flatten_flatten, List.map_map, List.flatMap_def]
  rfl

/-- The scope of a step holds what its stage requires, in a walk that is supplied. -/
theorem requires_subset_of_mem_stepsFrom (hs : Supplied options scope ids) {id : StageId} {held : Scope}
    (h : (id, held) ∈ stepsFrom options scope ids) : ∀ symbol ∈ id.stage.requires options, symbol ∈ held := by
  induction ids generalizing scope with
  | nil => simp [stepsFrom] at h
  | cons first ids ih =>
    rw [supplied_cons] at hs
    rw [stepsFrom, List.mem_cons] at h
    rcases h with h | h
    · obtain ⟨rfl, rfl⟩ := Prod.mk.inj h
      exact hs.1
    · exact ih hs.2 h

/-- What the scope of a step holds was there before the walk or has been made in it. -/
theorem exists_maker_of_mem_stepsFrom {id : StageId} {held : Scope} (h : (id, held) ∈ stepsFrom options scope ids)
    {symbol : Symbol} (hs : symbol ∈ held) :
    symbol ∈ scope ∨ ∃ maker ∈ ids, symbol ∈ maker.stage.produces options := by
  induction ids generalizing scope with
  | nil => simp [stepsFrom] at h
  | cons first ids ih =>
    rw [stepsFrom, List.mem_cons] at h
    rcases h with h | h
    · obtain ⟨rfl, rfl⟩ := Prod.mk.inj h
      exact Or.inl hs
    · rcases ih h with hm | ⟨maker, hm, hp⟩
      · rcases List.mem_append.1 hm with hm | hm
        · exact Or.inl hm
        · exact Or.inr ⟨first, by simp, hm⟩
      · exact Or.inr ⟨maker, by simp [hm], hp⟩

/-- Only stages that the options make active for split data make the training features. -/
private theorem splitDataset_of_makes_xTrain {id : StageId} (ha : id.stage.active options)
    (hp : Symbol.xTrain ∈ id.stage.produces options) : options.splitDataset := by
  cases id with
  | split => exact ha
  | scale =>
    by_contra ho
    simp [StageId.stage, Options.splitOrWhole, ho] at hp
  | _ => simp [StageId.stage, Stage.fixed] at hp

/-- At the steps that look at it, the scope of a plan that was built is split just if the options split the data. -/
theorem isSplit_of_mem_steps {policy : AlgorithmPolicy} (hb : (build options policy).outcome = .ok plan)
    {id : StageId} (h : (id, scope) ∈ plan.steps options) (hid : id = .scale ∨ id = .model) :
    scope.isSplit = options.splitDataset := by
  obtain ⟨keep, hstages, hactive, -, -⟩ := stages_of_build hb
  have hsupplied := (validate_eq_ok_iff.1 (validate_of_build hb)).2
  have hscope := requires_subset_of_mem_stepsFrom hsupplied h
  cases ho : options.splitDataset with
  | true =>
    have hrequired : .xTrain ∈ scope ∧ .xTest ∈ scope := by
      rcases hid with rfl | rfl <;> exact ⟨hscope .xTrain (by simp [StageId.stage, Options.splitOrWhole, ho]),
        hscope .xTest (by simp [StageId.stage, Options.splitOrWhole, ho])⟩
    simp [Scope.isSplit, hrequired]
  | false =>
    -- a stage of the plan would have made the training features, and no active stage does
    by_contra hsplit
    have hx : .xTrain ∈ scope := by
      simp only [Scope.isSplit, Bool.not_eq_false, Bool.and_eq_true, List.contains_iff_mem] at hsplit
      exact hsplit.1
    rcases exists_maker_of_mem_stepsFrom h hx with hn | ⟨maker, hm, hp⟩
    · simp at hn
    · rw [hstages, List.mem_filter] at hm
      have := splitDataset_of_makes_xTrain (hactive maker hm.2) hp
      simp [ho] at this

end Plan

/-- A generated script is that of a plan that was built for its options. -/
theorem exists_built {settings : Settings} {options : Options} {dataset : Dataset} {script : Script}
    (h : (generate settings options (some dataset)).outcome = .ok script) :
    ∃ plan, (Plan.build options settings.unknownAlgorithm).outcome = .ok plan ∧
      Generated options dataset plan script ∧
      script.missingImports = if options.importLibraries then [] else plan.importLines options [] := by
  obtain ⟨plan, hg⟩ := exists_generated h
  obtain ⟨-, built, texts, hb, -, rfl⟩ := generate_eq_ok_iff.1 h
  obtain rfl : built = plan := by
    cases built
    cases plan
    exact congrArg Plan.mk hg.stages
  exact ⟨built, hb, hg, rfl⟩

end TableScript
