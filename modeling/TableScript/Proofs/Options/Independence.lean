import TableScript.Proofs.Options.Reach

/-!
# Independent edits

An edit neither looks at the options outside its target nor changes them (`apply_of_part_eq`, `part_of_apply`).  So
edits are accepted one after another exactly if those with the same target are, and what becomes of a target depends on
its own edits only (`applyAll_eq_ok_iff`).  In which order edits with different targets come does not matter.
-/

namespace TableScript

/-- What options hold for a target of edits. -/
inductive OptionPart where
  | flag (value : Bool)
  | selection (family : Option Family) (algorithm : Option Algorithm)
  | column (column : Option UInt64)
  | degree (degree : UInt8)
  | criterion (criterion : Criterion)
  | randomState (text : String)

/-- Some edits in another order, in which those with the same target come in the order that they had. -/
structure Rearranged (edits others : List Edit) : Prop where
  perm : edits.Perm others
  inOrder : ∀ target, edits.filter (·.target = target) = others.filter (·.target = target)

namespace Options

variable {options other next : Options} {edit : Edit} {edits : List Edit} {target : EditTarget}

/-- The part of options that a target is about. -/
def part (options : Options) : EditTarget → OptionPart
  | .flag flag => .flag (options.flag flag)
  | .selection => .selection options.family options.algorithm
  | .column => .column options.categoricalColumn
  | .degree => .degree options.polynomialDegree
  | .criterion => .criterion options.criterion
  | .randomState family => .randomState (options.randomStateText family)

/-- Options are made of their parts. -/
theorem eq_of_part_eq (h : ∀ target, options.part target = other.part target) : options = other := by
  have hflag (flag : Flag) : options.flag flag = other.flag flag := OptionPart.flag.inj (h (.flag flag))
  have hstate (family : Family) : options.randomStateText family = other.randomStateText family :=
    OptionPart.randomState.inj (h (.randomState family))
  have hselection := OptionPart.selection.inj (h .selection)
  have hcolumn := OptionPart.column.inj (h .column)
  have hdegree := OptionPart.degree.inj (h .degree)
  have hcriterion := OptionPart.criterion.inj (h .criterion)
  cases options
  cases other
  rw [mk.injEq]
  exact ⟨hflag .importLibraries, hflag .dropFirstColumn, hflag .handleMissingData, hflag .categoricalFeature,
    hflag .categoricalTargetPresent, hflag .splitDataset, hflag .performScaling, hselection.1, hselection.2, hcolumn,
    hdegree, hcriterion, hstate .classification, hstate .regression⟩

/-! ## One edit -/

theorem part_setFlag (value : Bool) {flag : Flag} (h : target ≠ .flag flag) :
    (options.setFlag value flag).part target = options.part target := by
  cases target with
  | flag read =>
    have hne : read ≠ flag := fun heq => h (congrArg _ heq)
    rw [part, part, flag_setFlag, if_neg hne]
  | randomState family => rw [part, part, randomStateText_setFlag]
  | _ => cases flag <;> rfl

theorem part_setRandomState (text : String) {family : Family} (h : target ≠ .randomState family) :
    (options.setRandomState text family).part target = options.part target := by
  cases target with
  | randomState read =>
    have hne : read ≠ family := fun heq => h (congrArg _ heq)
    rw [part, part, randomStateText_setRandomState, if_neg hne]
  | _ => cases family <;> rfl

/-- An edit changes nothing but its target. -/
theorem part_of_apply (hedit : options.apply edit = .ok next) (h : target ≠ edit.target) :
    next.part target = options.part target := by
  cases edit with
  | toggle flag =>
    cases hedit
    exact part_setFlag _ h
  | setFlag flag value =>
    cases hedit
    exact part_setFlag value h
  | selectFamily family =>
    cases hedit
    cases target with
    | selection => exact absurd rfl h
    | _ => rfl
  | selectAlgorithm algorithm? =>
    have hnext : next = { options with algorithm := algorithm? } := by
      cases algorithm? with
      | none =>
        cases hedit
        rfl
      | some algorithm =>
        obtain ⟨_, -, -, hnext⟩ := selectAlgorithm_eq_ok_iff.mp hedit
        exact hnext.symm
    subst hnext
    cases target with
    | selection => exact absurd rfl h
    | _ => rfl
  | setCategoricalColumn text =>
    rw [apply] at hedit
    generalize readColumn text = column at hedit
    cases hedit
    cases target with
    | column => exact absurd rfl h
    | _ => rfl
  | setPolynomialDegree degree =>
    obtain ⟨_, -, hnext⟩ := bind_eq_ok_iff.mp hedit
    cases hnext
    cases target with
    | degree => exact absurd rfl h
    | _ => rfl
  | setCriterion criterion =>
    cases hedit
    cases target with
    | criterion => exact absurd rfl h
    | _ => rfl
  | setRandomState family text =>
    obtain ⟨_, -, hnext⟩ := bind_eq_ok_iff.mp hedit
    cases hnext
    exact part_setRandomState text h

/-- Whether an edit is accepted, and what becomes of its target, depends on its target only. -/
theorem apply_of_part_eq (h : options.part edit.target = other.part edit.target)
    (hedit : options.apply edit = .ok next) :
    ∃ last, other.apply edit = .ok last ∧ last.part edit.target = next.part edit.target := by
  cases edit with
  | toggle flag =>
    cases hedit
    have hflag : options.flag flag = other.flag flag := OptionPart.flag.inj h
    refine ⟨_, rfl, ?_⟩
    rw [Edit.target, part, part, flag_setFlag, flag_setFlag, if_pos rfl, if_pos rfl, hflag]
  | setFlag flag value =>
    cases hedit
    refine ⟨_, rfl, ?_⟩
    rw [Edit.target, part, part, flag_setFlag, flag_setFlag, if_pos rfl, if_pos rfl]
  | selectFamily family =>
    cases hedit
    obtain ⟨hfamily, halgorithm⟩ := OptionPart.selection.inj h
    refine ⟨_, rfl, ?_⟩
    simp only [Edit.target, part, hfamily, halgorithm]
  | selectAlgorithm algorithm? =>
    obtain ⟨hfamily, halgorithm⟩ := OptionPart.selection.inj h
    cases algorithm? with
    | none =>
      cases hedit
      refine ⟨_, rfl, ?_⟩
      simp only [Edit.target, part, hfamily]
    | some algorithm =>
      obtain ⟨family, hof, hmem, rfl⟩ := selectAlgorithm_eq_ok_iff.mp hedit
      rw [hfamily] at hof
      refine ⟨_, selectAlgorithm_eq_ok_iff.mpr ⟨family, hof, hmem, rfl⟩, ?_⟩
      simp only [Edit.target, part, hfamily]
  | setCategoricalColumn text =>
    cases hedit
    exact ⟨_, rfl, rfl⟩
  | setPolynomialDegree degree =>
    obtain ⟨_, hdegree, hnext⟩ := bind_eq_ok_iff.mp hedit
    cases hnext
    exact ⟨_, bind_eq_ok_iff.mpr ⟨(), hdegree, rfl⟩, rfl⟩
  | setCriterion criterion =>
    cases hedit
    exact ⟨_, rfl, rfl⟩
  | setRandomState family text =>
    obtain ⟨_, hstate, hnext⟩ := bind_eq_ok_iff.mp hedit
    cases hnext
    refine ⟨_, bind_eq_ok_iff.mpr ⟨(), hstate, rfl⟩, ?_⟩
    rw [Edit.target, part, part, randomStateText_setRandomState, randomStateText_setRandomState, if_pos rfl, if_pos rfl]

/-! ## Runs of edits -/

/-- The edits of one target lead from options with the same part to the same part. -/
theorem applyAll_of_part_eq (hedits : ∀ edit ∈ edits, edit.target = target)
    (h : options.part target = other.part target) (hrun : options.applyAll edits = .ok next) :
    ∃ last, other.applyAll edits = .ok last ∧ last.part target = next.part target := by
  induction edits generalizing options other with
  | nil =>
    cases hrun
    exact ⟨other, rfl, h.symm⟩
  | cons edit edits ih =>
    rw [List.forall_mem_cons] at hedits
    obtain ⟨rfl, hrest⟩ := hedits
    rw [applyAll_cons, bind_eq_ok_iff] at hrun
    obtain ⟨between, hedit, hrun⟩ := hrun
    obtain ⟨reached, hreached, hpart⟩ := apply_of_part_eq h hedit
    obtain ⟨last, hlast, hsame⟩ := ih hrest hpart.symm hrun
    exact ⟨last, by rw [applyAll_cons, hreached, ok_bind, hlast], hsame⟩

/-- After an accepted edit, the other edits of a target go on to the same part as before it. -/
private theorem exists_run_filter_iff (hedit : options.apply edit = .ok other) (target : EditTarget)
    (held : OptionPart) :
    (∃ last, options.applyAll ((edit :: edits).filter (·.target = target)) = .ok last ∧ last.part target = held) ↔
      ∃ last, other.applyAll (edits.filter (·.target = target)) = .ok last ∧ last.part target = held := by
  by_cases htarget : edit.target = target
  · rw [List.filter_cons_of_pos (by simpa using htarget), applyAll_cons, hedit, ok_bind]
  · -- an edit with another target leaves the part as it is
    have hpart : other.part target = options.part target := part_of_apply hedit fun heq => htarget heq.symm
    have hall : ∀ edit ∈ edits.filter (·.target = target), edit.target = target := by
      intro edit hmem
      simpa using (List.mem_filter.mp hmem).2
    rw [List.filter_cons_of_neg (by simpa using htarget)]
    constructor
    · rintro ⟨last, hlast, rfl⟩
      exact applyAll_of_part_eq hall hpart.symm hlast
    · rintro ⟨last, hlast, rfl⟩
      exact applyAll_of_part_eq hall hpart hlast

/-- Edits lead to some options exactly if for each target the edits with this target lead to the part that they
have. -/
theorem applyAll_eq_ok_iff : options.applyAll edits = .ok next ↔ ∀ target, ∃ last,
    options.applyAll (edits.filter (·.target = target)) = .ok last ∧ last.part target = next.part target := by
  induction edits generalizing options with
  | nil =>
    constructor
    · intro hnil target
      cases hnil
      exact ⟨next, rfl, rfl⟩
    · intro hparts
      refine congrArg Except.ok (eq_of_part_eq fun target => ?_)
      obtain ⟨last, hlast, hpart⟩ := hparts target
      cases hlast
      exact hpart
  | cons edit edits ih =>
    rw [applyAll_cons, bind_eq_ok_iff]
    constructor
    · rintro ⟨between, hedit, hrun⟩ target
      exact (exists_run_filter_iff hedit target _).mpr (ih.mp hrun target)
    · intro hparts
      -- the edits with the target of the first one begin with it, so it is accepted
      obtain ⟨last, hlast, -⟩ := hparts edit.target
      rw [List.filter_cons_of_pos (by simp), applyAll_cons, bind_eq_ok_iff] at hlast
      obtain ⟨between, hedit, -⟩ := hlast
      exact ⟨between, hedit, ih.mpr fun target => (exists_run_filter_iff hedit target _).mp (hparts target)⟩

end Options

/-- Edits that are rearranged without exchanging any with the same target lead to the same options, or are refused in
both orders. -/
theorem rearranged_edits_agree (options : Options) {edits others : List Edit} (h : Rearranged edits others) :
    (∃ next, options.applyAll edits = .ok next ∧ options.applyAll others = .ok next) ∨
    ((∃ fault, options.applyAll edits = .error fault) ∧ ∃ fault, options.applyAll others = .error fault) := by
  have hsame (next : Options) : options.applyAll edits = .ok next ↔ options.applyAll others = .ok next := by
    rw [Options.applyAll_eq_ok_iff, Options.applyAll_eq_ok_iff]
    simp only [h.inOrder]
  cases hedits : options.applyAll edits with
  | ok next => exact Or.inl ⟨next, rfl, (hsame next).mp hedits⟩
  | error fault =>
    cases hothers : options.applyAll others with
    | ok next =>
      rw [(hsame next).mpr hothers] at hedits
      cases hedits
    | error other => exact Or.inr ⟨⟨fault, rfl⟩, other, rfl⟩

/-- The algorithm is selected after its family in both orders, and a switch is turned twice. -/
theorem rearranged_edits_agree_of_turned_switch :
    let edits : List Edit := [.toggle .splitDataset, .selectFamily (some .regression), .setPolynomialDegree 3,
      .toggle .splitDataset, .selectAlgorithm (some .linearRegression)]
    let others : List Edit := [.selectFamily (some .regression), .toggle .splitDataset,
      .selectAlgorithm (some .linearRegression), .toggle .splitDataset, .setPolynomialDegree 3]
    Rearranged edits others ∧
    ((∃ next, Options.applyAll {} edits = .ok next ∧ Options.applyAll {} others = .ok next) ∨
      ((∃ fault, Options.applyAll {} edits = .error fault) ∧ ∃ fault, Options.applyAll {} others = .error fault)) := by
  intro edits others
  have hrearranged : Rearranged edits others := by
    refine ⟨by decide, fun target => ?_⟩
    cases target with
    | flag flag => cases flag <;> rfl
    | randomState family => cases family <;> rfl
    | _ => rfl
  exact ⟨hrearranged, rearranged_edits_agree {} hrearranged⟩

end TableScript
