import TableScript.Proofs.Outcome
import TableScript.Proofs.Script.Checking
import TableScript.Proofs.Script.Estimators
import TableScript.Script

/-!
# Walks over plans

A plan is walked from its first stage on, and each stage has to find the symbols that it reads.  A plan is accepted
exactly when its ranks rise and each stage is supplied by those before it (`validate_eq_ok_iff`), and the plan that is
built for some options is such a plan (`validate_of_build`).  So the checks of a generation that
has begun never fail, and its result is the assembled texts of the stages (`generate_eq_ok_iff`).
-/

namespace TableScript

theorem Options.selection_eq_some_iff {options : Options} {family : Family} {algorithm : Algorithm} :
    options.selection = some (family, algorithm) ↔
      options.family = some family ∧ options.algorithm = some algorithm := by
  unfold selection
  cases options.family <;> cases options.algorithm <;> simp

namespace Plan

/-- Each stage finds the symbols that it reads in the scope or among those that an earlier stage makes. -/
def Supplied (options : Options) (scope : Scope) (ids : List StageId) : Prop :=
  ∀ before id after, ids = before ++ id :: after → ∀ symbol ∈ id.stage.requires options,
    symbol ∈ scope ∨ ∃ earlier ∈ before, symbol ∈ earlier.stage.produces options

/-- The ranks of some stages rise. -/
def Rising (ids : List StageId) : Prop :=
  ids.Pairwise fun a b => a.stage.rank < b.stage.rank

instance : DecidablePred Rising := fun ids =>
  inferInstanceAs (Decidable (ids.Pairwise fun a b => a.stage.rank < b.stage.rank))

theorem supplied_cons {options : Options} {scope : Scope} {id : StageId} {ids : List StageId} :
    Supplied options scope (id :: ids) ↔ (∀ symbol ∈ id.stage.requires options, symbol ∈ scope) ∧
      Supplied options (scope.extend (id.stage.produces options)) ids := by
  constructor
  · intro h
    refine ⟨fun symbol hs => ?_, fun before next after he symbol hs => ?_⟩
    · simpa using h [] id ids rfl symbol hs
    · rcases h (id :: before) next after (by rw [he]; rfl) symbol hs with hs | ⟨earlier, he, hs⟩
      · exact Or.inl (List.mem_append_left _ hs)
      · rcases List.mem_cons.1 he with rfl | he
        · exact Or.inl (List.mem_append_right _ hs)
        · exact Or.inr ⟨earlier, he, hs⟩
  · rintro ⟨hid, hids⟩ before next after he symbol hs
    cases before with
    | nil =>
      obtain ⟨rfl, rfl⟩ := List.cons.inj he
      exact Or.inl (hid symbol hs)
    | cons first before =>
      obtain ⟨rfl, rfl⟩ := List.cons.inj he
      rcases hids before next after rfl symbol hs with hs | ⟨earlier, he, hs⟩
      · rcases List.mem_append.1 hs with hs | hs
        · exact Or.inl hs
        · exact Or.inr ⟨id, by simp, hs⟩
      · exact Or.inr ⟨earlier, by simp [he], hs⟩

theorem validate_eq_ok_iff {options : Options} {plan : Plan} :
    plan.validate options = .ok () ↔ Rising plan.stages ∧ Supplied options [] plan.stages := by
  have hsupplied : Supplied options [] plan.stages ↔ (StageId.running options).Supplied plan.stages := by
    simp only [Supplied, List.not_mem_nil, false_or]
    rfl
  rw [validate_eq_ok_iff_accepts, hsupplied]
  exact ⟨fun h => ⟨h.rising, h.supplied⟩, fun h => ⟨h.1, h.2⟩⟩

/-! ### The plan of the active stages -/

/-- The stages that some options make active. -/
def active (options : Options) : List StageId :=
  StageId.all.filter fun id => id.stage.active options

theorem unknownSelection?_eq_some_iff {options : Options} {family : Family} {algorithm : Algorithm} :
    unknownSelection? options = some (family, algorithm) ↔
      options.selection = some (family, algorithm) ∧ family.offers algorithm = false := by
  simp [unknownSelection?, Option.filter_eq_some_iff, Family.estimator?_eq]

theorem build_outcome (options : Options) (policy : AlgorithmPolicy) :
    (build options policy).outcome = match unknownSelection? options, policy with
      | some (family, algorithm), .error => .error (.unknownAlgorithm family.name algorithm.name)
      | some _, .skip => .ok ⟨(active options).filter (· ≠ .model)⟩
      | none, _ => .ok ⟨active options⟩ := by
  unfold build
  cases unknownSelection? options with
  | none => simp [active]; rfl
  | some selection => cases policy <;> simp [active] <;> rfl

/-- A plan that is built holds active stages only, and all of them except perhaps the model. -/
theorem stages_of_build {options : Options} {policy : AlgorithmPolicy} {plan : Plan}
    (h : (build options policy).outcome = .ok plan) :
    ∃ keep : StageId → Bool, plan.stages = StageId.all.filter keep ∧
      (∀ id, keep id → id.stage.active options) ∧ (∀ id, id ≠ .model → id.stage.active options → keep id) ∧
      (keep .model → unknownSelection? options = none) := by
  rw [build_outcome] at h
  cases hu : unknownSelection? options with
  | none =>
    simp only [hu, Except.ok.injEq] at h
    subst h
    exact ⟨fun id => id.stage.active options, rfl, fun _ h => h, fun _ _ h => h, fun _ => rfl⟩
  | some selection =>
    cases policy with
    | error => simp [hu] at h
    | skip =>
      simp only [hu, Except.ok.injEq] at h
      subst h
      refine ⟨fun id => id ≠ .model && id.stage.active options, ?_, ?_, ?_, ?_⟩
      · simp [active, List.filter_filter]
      · intro id h
        simp only [Bool.and_eq_true] at h
        exact h.2
      · intro id hne h
        simp [hne, h]
      · intro h
        simp at h

/-- A plan with a model has an algorithm that its family offers. -/
theorem selection_of_mem_stages {options : Options} {policy : AlgorithmPolicy} {plan : Plan}
    (h : (build options policy).outcome = .ok plan) (hm : .model ∈ plan.stages) :
    options.selection.isSome ∧ unknownSelection? options = none := by
  obtain ⟨keep, hstages, hactive, -, hunknown⟩ := stages_of_build h
  rw [hstages, List.mem_filter] at hm
  exact ⟨hactive .model hm.2, hunknown hm.2⟩

/-- A stage that makes the features is active when a stage reads them. -/
private theorem features_active {options : Options} (h : options.dropFirstColumn ∨ options.needsFeatures) :
    ∃ id : StageId, id.stage.active options ∧ id.stage.rank < 5 ∧ id.stage.produces options = [.x, .y] := by
  by_cases hd : options.dropFirstColumn
  · exact ⟨.dropFirstColumn, hd, by decide, rfl⟩
  · have hn : options.needsFeatures := h.resolve_left hd
    exact ⟨.selectFeatures, by simp [StageId.stage, Stage.fixed, hd, hn], by decide, rfl⟩

/-- What an active stage reads is made by an active stage before it. -/
theorem exists_producer {options : Options} {id : StageId} (h : id.stage.active options) {symbol : Symbol}
    (hs : symbol ∈ id.stage.requires options) :
    ∃ earlier : StageId, earlier.stage.active options ∧ earlier.stage.rank < id.stage.rank ∧
      symbol ∈ earlier.stage.produces options := by
  have hload : StageId.load.stage.active options := rfl
  have hfeatures : options.needsFeatures → 5 ≤ id.stage.rank → symbol ∈ [Symbol.x, .y] →
      ∃ earlier : StageId, earlier.stage.active options ∧ earlier.stage.rank < id.stage.rank ∧
        symbol ∈ earlier.stage.produces options := by
    intro hn hr hs
    obtain ⟨earlier, ha, hlt, hp⟩ := features_active (Or.inr hn)
    exact ⟨earlier, ha, by omega, hp ▸ hs⟩
  have hsplit : options.splitDataset → 8 < id.stage.rank → symbol ∈ StageId.split.stage.produces options →
      ∃ earlier : StageId, earlier.stage.active options ∧ earlier.stage.rank < id.stage.rank ∧
        symbol ∈ earlier.stage.produces options := fun ho hr hs => ⟨.split, ho, hr, hs⟩
  cases id with
  | load => simp [StageId.stage, Stage.fixed] at hs
  | imports => simp [StageId.stage, Stage.fixed] at hs
  | dropFirstColumn => exact ⟨.load, hload, by decide, hs⟩
  | selectFeatures => exact ⟨.load, hload, by decide, hs⟩
  | imputeMissing | encodeCategorical | encodeTarget | split =>
    simp only [StageId.stage, Stage.fixed] at h hs
    refine hfeatures (by simp [Options.needsFeatures, h]) (by decide) ?_
    simp at hs
    simp [hs]
  | scale | model =>
    -- these take the parts of a split, if there is one, and the whole features otherwise
    simp only [StageId.stage, Options.splitOrWhole] at h hs
    by_cases ho : options.splitDataset
    · rw [if_pos ho] at hs
      refine hsplit ho (by decide) ?_
      simp at hs
      simp [StageId.stage, Stage.fixed]
      grind
    · rw [if_neg ho] at hs
      refine hfeatures (by simp [Options.needsFeatures, h]) (by decide) ?_
      simp at hs
      simp [hs]

/-- Every plan that is built is valid. -/
theorem validate_of_build {options : Options} {policy : AlgorithmPolicy} {plan : Plan}
    (h : (build options policy).outcome = .ok plan) : plan.validate options = .ok () := by
  obtain ⟨keep, hstages, hactive, hkeep, -⟩ := stages_of_build h
  have hrising : Rising plan.stages := by
    rw [hstages]
    exact List.Pairwise.filter keep (by decide : Rising StageId.all)
  rw [validate_eq_ok_iff]
  refine ⟨hrising, fun before id after he symbol hs => Or.inr ?_⟩
  have hid : id ∈ plan.stages := by simp [he]
  rw [hstages, List.mem_filter] at hid
  obtain ⟨earlier, ha, hlt, hp⟩ := exists_producer (hactive id hid.2) hs
  -- nothing comes after the model, so it supplies no stage
  have hmodel : earlier ≠ .model := by
    rintro rfl
    revert hlt
    cases id <;> decide
  have hmem : earlier ∈ plan.stages := by
    rw [hstages, List.mem_filter]
    exact ⟨StageId.mem_all earlier, hkeep earlier hmodel ha⟩
  refine ⟨earlier, ?_, hp⟩
  -- the ranks rise, so the earlier stage stands neither at `id` nor after it
  rw [he] at hrising hmem
  rw [Rising, List.pairwise_append, List.pairwise_cons] at hrising
  rcases List.mem_append.1 hmem with hm | hm
  · exact hm
  · rcases List.mem_cons.1 hm with rfl | hm
    · omega
    · have := hrising.2.1.1 earlier hm
      omega

/-! ### Rendering a plan -/

/-- The texts of some stages, each rendered with the symbols that the scope and those before it make. -/
def textsFrom (options : Options) (dataset : Dataset) (plan : Plan) (scope : Scope) :
    List StageId → Except GenerationError (List String)
  | [] => .ok []
  | id :: ids => do
    let text ← (id.render options dataset plan scope).outcome
    let texts ← textsFrom options dataset plan (scope.extend (id.stage.produces options)) ids
    return text :: texts

/-- The texts of the stages of a plan. -/
def texts (options : Options) (dataset : Dataset) (plan : Plan) : Except GenerationError (List String) :=
  textsFrom options dataset plan [] plan.stages

theorem textsFrom_cons_eq_ok_iff {options : Options} {dataset : Dataset} {plan : Plan} {scope : Scope} {id : StageId}
    {ids : List StageId} {texts : List String} :
    textsFrom options dataset plan scope (id :: ids) = .ok texts ↔
      ∃ text more, (id.render options dataset plan scope).outcome = .ok text ∧
        textsFrom options dataset plan (scope.extend (id.stage.produces options)) ids = .ok more ∧
        texts = text :: more := by
  rw [textsFrom, bind_eq_ok_iff]
  simp only [bind_eq_ok_iff]
  constructor
  · rintro ⟨text, ht, more, hm, he⟩
    exact ⟨text, more, ht, hm, (Except.ok.inj he).symm⟩
  · rintro ⟨text, more, ht, hm, rfl⟩
    exact ⟨text, ht, more, hm, rfl⟩

/-- The check before each stage never fails in a plan that is supplied. -/
theorem renderFrom_outcome {options : Options} {dataset : Dataset} {plan : Plan} {scope : Scope}
    {ids : List StageId} (h : Supplied options scope ids) :
    (Generate.renderFrom options dataset plan scope ids).outcome = textsFrom options dataset plan scope ids := by
  induction ids generalizing scope with
  | nil => rfl
  | cons id ids ih =>
    rw [supplied_cons, ← Scope.firstMissing?_eq_none] at h
    unfold Generate.renderFrom textsFrom
    simp only [h.1, Traced.outcome_bind, Traced.outcome_tell, Traced.outcome_pure, ih h.2]
    rfl

/-- Only the model of a selection without an estimator has no text. -/
theorem render_ok {options : Options} (dataset : Dataset) (plan : Plan) (scope : Scope) {id : StageId}
    (h : id = .model → unknownSelection? options = none) :
    ∃ text, (id.render options dataset plan scope).outcome = .ok text := by
  cases id with
  | model =>
    cases hs : options.selection with
    | none => exact ⟨"", by simp [StageId.render, Render.model, hs]⟩
    | some selection =>
      obtain ⟨family, algorithm⟩ := selection
      cases ho : family.offers algorithm with
      | true => simp [StageId.render, Render.model, hs, Family.estimator?_eq, ho]
      | false => simp [unknownSelection?_eq_some_iff.2 ⟨hs, ho⟩] at h
  | encodeCategorical =>
    simp only [StageId.render]
    split <;> simp [ok_bind]
  | _ => exact ⟨_, rfl⟩

theorem texts_ok {options : Options} {policy : AlgorithmPolicy} {plan : Plan} (dataset : Dataset)
    (h : (build options policy).outcome = .ok plan) : ∃ texts, plan.texts options dataset = .ok texts := by
  obtain ⟨keep, hstages, -, -, hmodel⟩ := stages_of_build h
  have hids : ∀ id ∈ plan.stages, id = .model → unknownSelection? options = none := by
    rintro id hid rfl
    rw [hstages, List.mem_filter] at hid
    exact hmodel hid.2
  have hfrom : ∀ (ids : List StageId) (scope : Scope), (∀ id ∈ ids, id = .model → unknownSelection? options = none) →
      ∃ texts, textsFrom options dataset plan scope ids = .ok texts := by
    intro ids
    induction ids with
    | nil => exact fun _ _ => ⟨[], rfl⟩
    | cons id ids ih =>
      intro scope h
      obtain ⟨text, ht⟩ := render_ok dataset plan scope (h id (by simp))
      obtain ⟨more, hm⟩ := ih (scope.extend (id.stage.produces options)) fun a ha => h a (by simp [ha])
      exact ⟨text :: more, textsFrom_cons_eq_ok_iff.2 ⟨text, more, ht, hm, rfl⟩⟩
  exact hfrom plan.stages [] hids

end Plan

/-- The script of a plan with these texts. -/
def Plan.script (options : Options) (plan : Plan) (texts : List String) : Script where
  text := assemble texts
  producedBy := plan.stages
  missingImports := if options.importLibraries then [] else plan.importLines options []

/-- An event told on a condition does not change what comes of the rest. -/
private theorem outcome_tellIf {ε α : Type} (condition : Prop) [Decidable condition] (event : Event)
    (rest : Traced ε α) : (if condition then (do .tell event; rest) else rest).outcome = rest.outcome := by
  split
  · simp [ok_bind]
  · rfl

/-- When a generation for a dataset succeeds, and with what. -/
theorem generate_eq_ok_iff {settings : Settings} {options : Options} {dataset : Dataset} {script : Script} :
    (generate settings options (some dataset)).outcome = .ok script ↔
      options.validate = .ok () ∧ ∃ plan texts, (Plan.build options settings.unknownAlgorithm).outcome = .ok plan ∧
        plan.texts options dataset = .ok texts ∧ script = plan.script options texts := by
  have hr : ∀ plan, (Plan.build options settings.unknownAlgorithm).outcome = .ok plan →
      (Generate.renderFrom options dataset plan [] plan.stages).outcome = plan.texts options dataset :=
    fun plan hb => Plan.renderFrom_outcome (Plan.validate_eq_ok_iff.1 (Plan.validate_of_build hb)).2
  unfold generate
  simp only [Traced.outcome_bind, Traced.outcome_ofExcept, bind_eq_ok_iff, outcome_tellIf]
  constructor
  · rintro ⟨_, hv, plan, hb, texts, ht, he⟩
    exact ⟨hv, plan, texts, hb, hr plan hb ▸ ht, (Except.ok.inj he).symm⟩
  · rintro ⟨hv, plan, texts, hb, ht, rfl⟩
    exact ⟨(), hv, plan, hb, texts, (hr plan hb).trans ht, rfl⟩

end TableScript
