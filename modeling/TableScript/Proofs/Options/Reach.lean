import TableScript.Options.Edit
import TableScript.Proofs.Script.Generation
import TableScript.Proofs.Text.Numeral

/-!
# Options that edits reach

Edits keep an algorithm within its family, the degree within its bounds and the random states random states
(`Admissible.apply`, `Admissible.applyAll`), and they make admissible options out of any others
(`applyAll_edits`).  Admissible options are valid, and a script is generated from them under any settings.
-/

namespace TableScript

open Text (trim readUnsigned)

/-- But for the blanks around it, a text is empty, `None` or an unsigned numeral of 32 bits. -/
def RandomStateText (text : String) : Prop :=
  trim text = "" ∨ trim text = "None" ∨ ∃ n, readUnsigned UInt32.size (trim text) = some n

theorem isRandomState_iff {text : String} : isRandomState text ↔ RandomStateText text := by
  simp [isRandomState, RandomStateText, Option.isSome_iff_exists, or_assoc]

theorem checkRandomState_eq_ok_iff {field text : String} :
    checkRandomState field text = .ok () ↔ RandomStateText text := by
  rw [← isRandomState_iff, checkRandomState]
  split <;> simp_all

theorem checkDegree_eq_ok_iff {field : String} {degree : Nat} :
    checkDegree field degree = .ok () ↔ 2 ≤ degree ∧ degree ≤ 5 := by
  rw [checkDegree]
  split <;> simp_all [isDegree]

namespace Options

/-- Options with each field in its domain. -/
structure Admissible (options : Options) : Prop where
  algorithm : ∀ algorithm, options.algorithm = some algorithm →
    ∃ family, options.family = some family ∧ algorithm ∈ family.algorithms
  degree : 2 ≤ options.polynomialDegree.toNat ∧ options.polynomialDegree.toNat ≤ 5
  randomState : ∀ family, RandomStateText (options.randomStateText family)

/-- Options that some edits make out of the default ones. -/
def Reachable (options : Options) : Prop :=
  ∃ edits, applyAll {} edits = .ok options

variable {options next : Options}

/-! ## What edits keep -/

theorem selectAlgorithm_eq_ok_iff {algorithm : Algorithm} :
    options.selectAlgorithm algorithm = .ok next ↔ ∃ family, options.family = some family ∧
      algorithm ∈ family.algorithms ∧ { options with algorithm := some algorithm } = next := by
  unfold selectAlgorithm
  cases options.family with
  | none => simp
  | some family => by_cases hoffers : family.offers algorithm <;> simp [← Family.offers_iff_mem, hoffers]

theorem Admissible.setFlag (h : options.Admissible) (value : Bool) (flag : Flag) :
    (options.setFlag value flag).Admissible := by
  cases flag <;> exact ⟨h.algorithm, h.degree, h.randomState⟩

theorem randomStateText_setFlag (options : Options) (value : Bool) (flag : Flag) (family : Family) :
    (options.setFlag value flag).randomStateText family = options.randomStateText family := by
  cases flag <;> rfl

/-- Reading a random state after one has been set. -/
theorem randomStateText_setRandomState (options : Options) (text : String) (set read : Family) :
    (options.setRandomState text set).randomStateText read = if read = set then text else options.randomStateText read := by
  cases set <;> cases read <;> rfl

theorem Admissible.setRandomState (h : options.Admissible) {text : String} (htext : RandomStateText text)
    (family : Family) : (options.setRandomState text family).Admissible := by
  cases family with
  | classification =>
    refine ⟨h.algorithm, h.degree, fun read => ?_⟩
    cases read with
    | classification => exact htext
    | regression => exact h.randomState .regression
  | regression =>
    refine ⟨h.algorithm, h.degree, fun read => ?_⟩
    cases read with
    | classification => exact h.randomState .classification
    | regression => exact htext

/-- An accepted edit keeps options admissible. -/
theorem Admissible.apply (h : options.Admissible) {edit : Edit} (hedit : options.apply edit = .ok next) :
    next.Admissible := by
  cases edit with
  | toggle flag =>
    cases hedit
    exact h.setFlag _ flag
  | setFlag flag value =>
    cases hedit
    exact h.setFlag value flag
  | selectFamily family =>
    cases hedit
    refine ⟨fun algorithm halgorithm => ?_, h.degree, h.randomState⟩
    -- the algorithm is still set only if the family is the one before
    by_cases hfamily : family = options.family
    · rw [hfamily]
      simp only [hfamily, if_true] at halgorithm
      exact h.algorithm algorithm halgorithm
    · simp [hfamily] at halgorithm
  | selectAlgorithm algorithm? =>
    cases algorithm? with
    | none =>
      cases hedit
      exact ⟨by simp, h.degree, h.randomState⟩
    | some algorithm =>
      obtain ⟨family, hfamily, hmem, rfl⟩ := selectAlgorithm_eq_ok_iff.mp hedit
      refine ⟨fun found hfound => ?_, h.degree, h.randomState⟩
      obtain rfl := Option.some.inj hfound
      exact ⟨family, hfamily, hmem⟩
  | setCategoricalColumn text =>
    cases hedit
    -- any column will do, so that the text need not be read
    generalize readColumn text = column
    exact ⟨h.algorithm, h.degree, h.randomState⟩
  | setPolynomialDegree degree =>
    obtain ⟨_, hdegree, hnext⟩ := bind_eq_ok_iff.mp hedit
    cases hnext
    exact ⟨h.algorithm, checkDegree_eq_ok_iff.mp hdegree, h.randomState⟩
  | setCriterion criterion =>
    cases hedit
    exact ⟨h.algorithm, h.degree, h.randomState⟩
  | setRandomState family text =>
    obtain ⟨_, htext, hnext⟩ := bind_eq_ok_iff.mp hedit
    cases hnext
    exact h.setRandomState (checkRandomState_eq_ok_iff.mp htext) family

theorem applyAll_cons (options : Options) (edit : Edit) (edits : List Edit) :
    options.applyAll (edit :: edits) = options.apply edit >>= fun next => next.applyAll edits :=
  List.foldlM_cons

theorem applyAll_append (options : Options) (first second : List Edit) :
    options.applyAll (first ++ second) = options.applyAll first >>= fun next => next.applyAll second :=
  List.foldlM_append

/-- Accepted edits, however many, keep options admissible. -/
theorem Admissible.applyAll (h : options.Admissible) {edits : List Edit} (hedits : options.applyAll edits = .ok next) :
    next.Admissible := by
  induction edits generalizing options with
  | nil =>
    cases hedits
    exact h
  | cons edit edits ih =>
    rw [applyAll_cons, bind_eq_ok_iff] at hedits
    obtain ⟨between, hedit, hedits⟩ := hedits
    exact ih (h.apply hedit) hedits

theorem admissible_default : Admissible {} := by
  refine ⟨by simp, by decide, fun family => Or.inl ?_⟩
  cases family <;> rfl

/-- The checks that admissible options pass. -/
theorem Admissible.checks (h : options.Admissible) :
    checkDegree "polynomial_degree" options.polynomialDegree.toNat = .ok () ∧
    checkRandomState (randomStateField .classification) options.classificationRandomState = .ok () ∧
    checkRandomState (randomStateField .regression) options.regressionRandomState = .ok () :=
  ⟨checkDegree_eq_ok_iff.mpr h.degree, checkRandomState_eq_ok_iff.mpr (h.randomState .classification),
    checkRandomState_eq_ok_iff.mpr (h.randomState .regression)⟩

/-! ## What edits reach -/

/-- A text for a column, blank for none. -/
def columnText (column : Option UInt64) : String :=
  (column.map fun column => Text.decimal column.toNat).getD ""

theorem readColumn_columnText (column : Option UInt64) : readColumn (columnText column) = column := by
  cases column with
  | none => decide
  | some column =>
    have hread : readUnsigned UInt64.size (Text.decimal column.toNat) = some column.toNat :=
      Text.readUnsigned_decimal column.toNat_lt
    simp [columnText, readColumn, hread]

/-- The edits that set every field. -/
def edits (options : Options) : List Edit :=
  (Flag.all.map fun flag => .setFlag flag (options.flag flag)) ++
    ([.selectFamily options.family, .selectAlgorithm options.algorithm] ++
      [.setCategoricalColumn (columnText options.categoricalColumn), .setPolynomialDegree options.polynomialDegree,
        .setCriterion options.criterion, .setRandomState .classification options.classificationRandomState,
        .setRandomState .regression options.regressionRandomState])

/-- Options with the switches of others. -/
def withFlags (start options : Options) : Options :=
  { start with
    importLibraries := options.importLibraries
    dropFirstColumn := options.dropFirstColumn
    handleMissingData := options.handleMissingData
    categoricalFeature := options.categoricalFeature
    categoricalTargetPresent := options.categoricalTargetPresent
    splitDataset := options.splitDataset
    performScaling := options.performScaling }

theorem applyAll_setFlags (start options : Options) :
    start.applyAll (Flag.all.map fun flag => .setFlag flag (options.flag flag)) = .ok (start.withFlags options) := rfl

/-- Once a family is selected, so can be an algorithm that it offers, or none. -/
theorem Admissible.applyAll_selection (h : options.Admissible) (start : Options) :
    start.applyAll [.selectFamily options.family, .selectAlgorithm options.algorithm] =
      .ok { start with family := options.family, algorithm := options.algorithm } := by
  rw [applyAll_cons, Options.apply, ok_bind]
  cases halgorithm : options.algorithm with
  | none => rfl
  | some algorithm =>
    obtain ⟨family, hfamily, hmem⟩ := h.algorithm algorithm halgorithm
    have hselect (selected : Options) (hselected : selected.family = some family) :
        selected.selectAlgorithm algorithm = .ok { selected with algorithm := some algorithm } :=
      selectAlgorithm_eq_ok_iff.mpr ⟨family, hselected, hmem, rfl⟩
    rw [applyAll_cons, Options.apply, hselect]
    · rfl
    · exact hfamily

/-- Admissible options are reached from any options. -/
theorem Admissible.applyAll_edits (h : options.Admissible) (start : Options) :
    start.applyAll options.edits = .ok options := by
  obtain ⟨hdegree, hclassification, hregression⟩ := h.checks
  rw [edits, applyAll_append, applyAll_setFlags, ok_bind, applyAll_append, h.applyAll_selection, ok_bind]
  simp only [applyAll_cons, Options.apply, readColumn_columnText, hdegree, hclassification, hregression, ok_bind]
  rfl

theorem reachable_iff_admissible : options.Reachable ↔ options.Admissible :=
  ⟨fun ⟨_, hedits⟩ => admissible_default.applyAll hedits, fun h => ⟨options.edits, h.applyAll_edits {}⟩⟩

/-! ## Scripts -/

theorem Admissible.validate (h : options.Admissible) : options.validate = .ok () := by
  unfold Options.validate
  split
  · rename_i algorithm hfamily halgorithm
    obtain ⟨family, hof, -⟩ := h.algorithm algorithm halgorithm
    simp [hfamily] at hof
  · obtain ⟨hdegree, hclassification, hregression⟩ := h.checks
    rw [hdegree, ok_bind, hclassification, ok_bind, hregression]

theorem Admissible.unknownSelection?_eq_none (h : options.Admissible) : Plan.unknownSelection? options = none := by
  rw [Option.eq_none_iff_forall_ne_some]
  rintro ⟨family, algorithm⟩ hunknown
  obtain ⟨hselection, hoffers⟩ := Plan.unknownSelection?_eq_some_iff.mp hunknown
  obtain ⟨hfamily, halgorithm⟩ := selection_eq_some_iff.mp hselection
  obtain ⟨found, hfound, hmem⟩ := h.algorithm algorithm halgorithm
  obtain rfl : family = found := Option.some.inj (hfamily.symm.trans hfound)
  rw [Family.offers_iff_mem.mpr hmem] at hoffers
  cases hoffers

/-- From admissible options comes a script, the same under all settings. -/
theorem Admissible.exists_script (h : options.Admissible) (dataset? : Option Dataset) :
    ∃ script, ∀ settings, (generate settings options dataset?).outcome = .ok script := by
  have hok (settings : Settings) : ∃ script, (generate settings options dataset?).outcome = .ok script := by
    cases dataset? with
    | none => exact ⟨{}, generate_none h.validate⟩
    | some dataset =>
      have hbuild := Plan.build_outcome options settings.unknownAlgorithm
      rw [h.unknownSelection?_eq_none] at hbuild
      exact generate_ok_of_build h.validate hbuild dataset
  obtain ⟨script, hscript⟩ := hok {}
  refine ⟨script, fun settings => ?_⟩
  obtain ⟨other, hother⟩ := hok settings
  rw [hother, generate_unique hother hscript]

end Options

/-- Edits reach exactly the options with each field in its domain.  These are valid, and with any dataset a script is
generated from them, the same under all settings. -/
theorem edits_reach_exactly_admissible (options : Options) :
    (options.Reachable ↔ options.Admissible) ∧
    (options.Reachable → options.validate = .ok () ∧
      ∀ dataset?, ∃ script, ∀ settings, (generate settings options dataset?).outcome = .ok script) := by
  refine ⟨Options.reachable_iff_admissible, fun hreachable => ?_⟩
  have hadmissible := Options.reachable_iff_admissible.mp hreachable
  exact ⟨hadmissible.validate, hadmissible.exists_script⟩

/-- An algorithm is selected and lost with its family; a random state keeps its blanks. -/
theorem reachable_after_reset :
    Options.Reachable { family := some .regression, categoricalColumn := some 12, regressionRandomState := " 7 " } ∧
    Options.validate { family := some .regression, categoricalColumn := some 12, regressionRandomState := " 7 " } =
      .ok () := by
  have hreachable : Options.Reachable
      { family := some .regression, categoricalColumn := some 12, regressionRandomState := " 7 " } :=
    ⟨[.selectFamily (some .classification), .selectAlgorithm (some .decisionTree), .setCategoricalColumn "12",
      .selectFamily (some .regression), .setRandomState .regression " 7 "], by rfl⟩
  exact ⟨hreachable, ((edits_reach_exactly_admissible _).2 hreachable).1⟩

end TableScript
