import TableScript.Proofs.Script.Walk

/-!
# What comes of a generation

Invalid options give their own error, and no dataset gives the empty script.  Otherwise only a chosen algorithm that
its family does not offer stops a generation, and only if the policy says so (`generate_outcome`).
-/

namespace TableScript

theorem Family.name_injective {a b : Family} (h : a.name = b.name) : a = b :=
  (by decide : ∀ a ∈ Family.all, ∀ b ∈ Family.all, a.name = b.name → a = b) a (mem_all a) b (mem_all b) h

theorem Algorithm.name_injective {a b : Algorithm} (h : a.name = b.name) : a = b :=
  (by decide : ∀ a ∈ Algorithm.all, ∀ b ∈ Algorithm.all, a.name = b.name → a = b) a (mem_all a) b (mem_all b) h

/-- Options that are refused are refused for one of their fields. -/
theorem Options.exists_of_validate_eq_error {options : Options} {e : GenerationError}
    (h : options.validate = .error e) : ∃ field fault, e = .validation field fault := by
  have hdegree : ∀ field degree e, checkDegree field degree = .error e → ∃ field fault, e = .validation field fault := by
    intro field degree e h
    unfold checkDegree at h
    split at h
    · cases h
    · exact ⟨_, _, (Except.error.inj h).symm⟩
  have hstate : ∀ field text e, checkRandomState field text = .error e →
      ∃ field fault, e = .validation field fault := by
    intro field text e h
    unfold checkRandomState at h
    split at h
    · cases h
    · exact ⟨_, _, (Except.error.inj h).symm⟩
  unfold validate at h
  split at h
  · exact ⟨_, _, (Except.error.inj h).symm⟩
  · cases hd : checkDegree "polynomial_degree" options.polynomialDegree.toNat with
    | error e' =>
      rw [hd, error_bind] at h
      exact Except.error.inj h ▸ hdegree _ _ _ hd
    | ok _ =>
      rw [hd, ok_bind] at h
      cases hc : checkRandomState (randomStateField .classification) options.classificationRandomState with
      | error e' =>
        rw [hc, error_bind] at h
        exact Except.error.inj h ▸ hstate _ _ _ hc
      | ok _ =>
        rw [hc, ok_bind] at h
        exact hstate _ _ _ h

namespace Plan

/-- Two plans that are built for the same options are equal, whatever the policies. -/
theorem build_unique {options : Options} {policy policy' : AlgorithmPolicy} {plan plan' : Plan}
    (h : (build options policy).outcome = .ok plan) (h' : (build options policy').outcome = .ok plan') :
    plan = plan' := by
  rw [build_outcome] at h h'
  cases hu : unknownSelection? options with
  | none =>
    simp only [hu, Except.ok.injEq] at h h'
    exact h.symm.trans h'
  | some selection =>
    cases policy with
    | error => simp [hu] at h
    | skip =>
      cases policy' with
      | error => simp [hu] at h'
      | skip =>
        simp only [hu, Except.ok.injEq] at h h'
        exact h.symm.trans h'

end Plan

/-- A chosen family and algorithm at which a generation stops. -/
def Refused (settings : Settings) (options : Options) (family : Family) (algorithm : Algorithm) : Prop :=
  options.family = some family ∧ options.algorithm = some algorithm ∧ algorithm ∉ family.algorithms ∧
    settings.unknownAlgorithm = .error

private theorem refused_iff {settings : Settings} {options : Options} {family : Family} {algorithm : Algorithm} :
    Refused settings options family algorithm ↔
      Plan.unknownSelection? options = some (family, algorithm) ∧ settings.unknownAlgorithm = .error := by
  rw [Refused, Plan.unknownSelection?_eq_some_iff, Options.selection_eq_some_iff, ← Family.offers_iff_mem]
  simp [and_assoc]

/-- A plan is built unless the selection is refused. -/
private theorem build_ok_iff {settings : Settings} {options : Options} :
    (∃ plan, (Plan.build options settings.unknownAlgorithm).outcome = .ok plan) ↔
      ¬∃ family algorithm, Refused settings options family algorithm := by
  simp only [refused_iff, Plan.build_outcome]
  cases Plan.unknownSelection? options with
  | none => simp
  | some selection =>
    obtain ⟨family, algorithm⟩ := selection
    cases settings.unknownAlgorithm <;> simp

section

variable {settings : Settings} {options : Options}

theorem generate_of_invalid {e : GenerationError} (h : options.validate = .error e) (dataset? : Option Dataset) :
    (generate settings options dataset?).outcome = .error e := by
  simp [generate, h, error_bind]

theorem generate_none (h : options.validate = .ok ()) : (generate settings options none).outcome = .ok {} := by
  simp [generate, h, ok_bind]

/-- Without a dataset there is only the empty script. -/
theorem eq_empty_of_generate_none {script : Script} (h : (generate settings options none).outcome = .ok script) :
    script = {} := by
  cases hv : options.validate with
  | error e => simp [generate_of_invalid hv] at h
  | ok _ =>
    rw [generate_none hv, Except.ok.injEq] at h
    exact h.symm

theorem generate_of_refused {family : Family} {algorithm : Algorithm} (h : options.validate = .ok ())
    (hr : Refused settings options family algorithm) (dataset : Dataset) :
    (generate settings options (some dataset)).outcome = .error (.unknownAlgorithm family.name algorithm.name) := by
  obtain ⟨hu, hp⟩ := refused_iff.1 hr
  simp [generate, h, ok_bind, error_bind, Plan.build_outcome, hu, hp]

theorem generate_ok_of_build {plan : Plan} (h : options.validate = .ok ())
    (hb : (Plan.build options settings.unknownAlgorithm).outcome = .ok plan) (dataset : Dataset) :
    ∃ script, (generate settings options (some dataset)).outcome = .ok script := by
  obtain ⟨texts, ht⟩ := Plan.texts_ok dataset hb
  exact ⟨_, generate_eq_ok_iff.2 ⟨h, plan, texts, hb, ht, rfl⟩⟩

/-- The three ways in which a generation can end. -/
theorem generate_cases (settings : Settings) (options : Options) (dataset? : Option Dataset) :
    (∃ field fault, (generate settings options dataset?).outcome = .error (.validation field fault)) ∨
    (∃ family algorithm, Refused settings options family algorithm ∧
      (generate settings options dataset?).outcome = .error (.unknownAlgorithm family.name algorithm.name)) ∨
    ∃ script, (generate settings options dataset?).outcome = .ok script := by
  cases hv : options.validate with
  | error e =>
    obtain ⟨field, fault, rfl⟩ := Options.exists_of_validate_eq_error hv
    exact Or.inl ⟨field, fault, generate_of_invalid hv dataset?⟩
  | ok _ =>
    cases dataset? with
    | none => exact Or.inr (Or.inr ⟨{}, generate_none hv⟩)
    | some dataset =>
      by_cases hr : ∃ family algorithm, Refused settings options family algorithm
      · obtain ⟨family, algorithm, hr⟩ := hr
        exact Or.inr (Or.inl ⟨family, algorithm, hr, generate_of_refused hv hr dataset⟩)
      · obtain ⟨plan, hb⟩ := build_ok_iff.2 hr
        exact Or.inr (Or.inr (generate_ok_of_build hv hb dataset))

/-- Scripts for the same options and dataset are equal, whatever the settings. -/
theorem generate_unique {settings' : Settings} {dataset? : Option Dataset} {script script' : Script}
    (h : (generate settings options dataset?).outcome = .ok script)
    (h' : (generate settings' options dataset?).outcome = .ok script') : script = script' := by
  cases dataset? with
  | none => rw [eq_empty_of_generate_none h, eq_empty_of_generate_none h']
  | some dataset =>
    obtain ⟨-, plan, texts, hb, ht, rfl⟩ := generate_eq_ok_iff.1 h
    obtain ⟨-, plan', texts', hb', ht', rfl⟩ := generate_eq_ok_iff.1 h'
    obtain rfl := Plan.build_unique hb hb'
    rw [ht, Except.ok.injEq] at ht'
    rw [ht']

end

/-- What comes of a generation under any settings and options: the error of invalid options, the empty script
without a dataset, the error of a refused selection, or else a script.  A stage never lacks a symbol, since every
plan that is built is valid, and the settings decide whether there is a script but not which. -/
theorem generate_outcome (settings : Settings) (options : Options) :
    (∀ dataset? e, options.validate = .error e → (generate settings options dataset?).outcome = .error e) ∧
    (options.validate = .ok () → (generate settings options none).outcome = .ok {}) ∧
    (∀ dataset, options.validate = .ok () →
      (∀ family algorithm, (generate settings options (some dataset)).outcome =
        .error (.unknownAlgorithm family.name algorithm.name) ↔ Refused settings options family algorithm) ∧
      ((∃ script, (generate settings options (some dataset)).outcome = .ok script) ↔
        ¬∃ family algorithm, Refused settings options family algorithm)) ∧
    (∀ dataset? stage missing, (generate settings options dataset?).outcome ≠ .error (.dependency stage missing)) ∧
    (∀ dataset? fault, (generate settings options dataset?).outcome ≠ .error (.malformedInput fault)) ∧
    (∀ policy plan, (Plan.build options policy).outcome = .ok plan → plan.validate options = .ok ()) ∧
    (∀ settings' dataset? script script', (generate settings options dataset?).outcome = .ok script →
      (generate settings' options dataset?).outcome = .ok script' → script = script') := by
  refine ⟨fun dataset? e h => generate_of_invalid h dataset?, generate_none, fun dataset hv => ⟨?_, ?_⟩, ?_, ?_,
    fun _ _ => Plan.validate_of_build, fun _ _ _ _ => generate_unique⟩
  · intro family algorithm
    refine ⟨fun h => ?_, fun hr => generate_of_refused hv hr dataset⟩
    rcases generate_cases settings options (some dataset) with ⟨field, fault, he⟩ | ⟨f, a, hr, he⟩ | ⟨script, he⟩
    · simp [he] at h
    · simp only [he, Except.error.injEq, GenerationError.unknownAlgorithm.injEq] at h
      rw [← Family.name_injective h.1, ← Algorithm.name_injective h.2]
      exact hr
    · simp [he] at h
  · constructor
    · rintro ⟨script, h⟩ ⟨family, algorithm, hr⟩
      simp [generate_of_refused hv hr dataset] at h
    · intro h
      obtain ⟨plan, hb⟩ := build_ok_iff.2 h
      exact generate_ok_of_build hv hb dataset
  · intro dataset? stage missing h
    rcases generate_cases settings options dataset? with ⟨field, fault, he⟩ | ⟨f, a, hr, he⟩ | ⟨script, he⟩ <;>
      simp [he] at h
  · intro dataset? fault h
    rcases generate_cases settings options dataset? with ⟨field, fault', he⟩ | ⟨f, a, hr, he⟩ | ⟨script, he⟩ <;>
      simp [he] at h

end TableScript
