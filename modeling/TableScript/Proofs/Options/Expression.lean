import TableScript.Proofs.Options.Choice
import TableScript.Proofs.Options.Reach

/-!
# What forms express

A form is read option by option, and every option that is read amounts to an edit (`follows_of_decode`).  Conversely
admissible options are written as a form with a field for each option, and read back from it if their random states
have no blanks around them (`outcome_parse_ofOptions`).  Scripts do not show such blanks (`generate_trimmed`).
-/

namespace TableScript

open Text (trim readUnsigned trim_trim)

namespace Options

variable {options next last : Options}

/-- The random states have no blanks around them. -/
def Trimmed (options : Options) : Prop :=
  ∀ family, trim (options.randomStateText family) = options.randomStateText family

/-- Edits lead from the first options to the second, and bring no blanks around random states. -/
structure Follows (options next : Options) : Prop where
  edits : ∃ edits, options.applyAll edits = .ok next
  trimmed : options.Trimmed → next.Trimmed

theorem Follows.refl (options : Options) : Follows options options :=
  ⟨⟨[], rfl⟩, id⟩

theorem Follows.trans (h : Follows options next) (h' : Follows next last) : Follows options last := by
  obtain ⟨first, hfirst⟩ := h.edits
  obtain ⟨second, hsecond⟩ := h'.edits
  exact ⟨⟨first ++ second, by rw [applyAll_append, hfirst, ok_bind, hsecond]⟩, h'.trimmed ∘ h.trimmed⟩

/-- One edit, after which the random states are those before it. -/
theorem Follows.of_apply (edit : Edit) (hedit : options.apply edit = .ok next)
    (hstate : ∀ family, next.randomStateText family = options.randomStateText family) : Follows options next := by
  refine ⟨⟨[edit], by rw [applyAll_cons, hedit]; rfl⟩, fun htrimmed family => ?_⟩
  rw [hstate, htrimmed]

theorem algorithm_setFlag (options : Options) (value : Bool) (flag : Flag) :
    (options.setFlag value flag).algorithm = options.algorithm := by
  cases flag <;> rfl

theorem Follows.setFlag (options : Options) (value : Bool) (flag : Flag) :
    Follows options (options.setFlag value flag) :=
  .of_apply (.setFlag flag value) rfl (options.randomStateText_setFlag value flag)

/-- Without an algorithm, a family is selected and nothing else changes. -/
theorem Follows.selectFamily (halgorithm : options.algorithm = none) (family : Option Family) :
    Follows options { options with family := family } := by
  refine .of_apply (.selectFamily family) ?_ fun family => by cases family <;> rfl
  simp [Options.apply, halgorithm]

/-- A random state is set without the blanks around it. -/
theorem Follows.setRandomState (options : Options) {text : String} (htext : RandomStateText text) (family : Family) :
    Follows options (options.setRandomState (trim text) family) := by
  have hcheck : checkRandomState (randomStateField family) (trim text) = .ok () :=
    checkRandomState_eq_ok_iff.mpr (by rwa [RandomStateText, trim_trim])
  refine ⟨⟨[.setRandomState family (trim text)], ?_⟩, fun htrimmed read => ?_⟩
  · rw [applyAll_cons, Options.apply, hcheck]
    rfl
  · rw [randomStateText_setRandomState]
    split_ifs
    · exact trim_trim text
    · exact htrimmed read

end Options

open Options

namespace Form

variable {fields : List (String × String)} {options next : Options}

/-! ## From forms to edits -/

theorem readRandomState_eq_ok_iff {name text state : String} :
    readRandomState name text = .ok state ↔ RandomStateText text ∧ trim text = state := by
  rw [readRandomState, bind_eq_ok_iff]
  constructor
  · rintro ⟨_, hcheck, hstate⟩
    exact ⟨checkRandomState_eq_ok_iff.mp hcheck, Except.ok.inj hstate⟩
  · rintro ⟨hstate, rfl⟩
    exact ⟨(), checkRandomState_eq_ok_iff.mpr hstate, rfl⟩

/-- An algorithm that is read belongs to the family. -/
theorem mem_algorithms_of_readAlgorithm {family? : Option Family} {name text : String} {algorithm : Algorithm}
    (h : readAlgorithm family? name text = .ok algorithm) :
    ∃ family, family? = some family ∧ algorithm ∈ family.algorithms := by
  unfold readAlgorithm at h
  split at h
  · cases h
  · split at h
    · cases h
    · rename_i family
      split_ifs at h with hoffers
      cases h
      exact ⟨family, rfl, Family.offers_iff_mem.mp hoffers⟩

theorem of_readOptional {α : Type} {text : String} {read : String → Except GenerationError α} {a : α}
    (h : readOptional text read = .ok (some a)) : ∃ text, read text = .ok a := by
  unfold readOptional at h
  dsimp only at h
  split at h
  · cases h
  · cases hread : read (trim text) with
    | error fault => simp [hread, Except.map] at h
    | ok b =>
      obtain rfl : b = a := by simpa [hread, Except.map] using h
      exact ⟨_, hread⟩

/-- A degree that is read is one of the degrees. -/
theorem degree_of_readDegree {name text : String} {degree : UInt8} (h : readDegree name text = .ok (some degree)) :
    2 ≤ degree.toNat ∧ degree.toNat ≤ 5 := by
  unfold readDegree at h
  dsimp only at h
  split at h
  · cases h
  · split at h
    · cases h
    · rename_i n _
      obtain ⟨_, hcheck, hdegree⟩ := bind_eq_ok_iff.mp h
      cases hdegree
      have hbounds := checkDegree_eq_ok_iff.mp hcheck
      rwa [UInt8.toNat_ofNat', Nat.mod_eq_of_lt (by omega)]

/-- What is read for an option follows from the options before it if every text does. -/
theorem follows_of_readInto {option : FormOption} {read : String → String → Except GenerationError Options}
    (h : readInto fields option options read = .ok next)
    (hread : ∀ name text, read name text = .ok next → Follows options next) : Follows options next := by
  unfold readInto at h
  split at h
  · exact hread _ _ h
  · cases h
    exact .refl options

/-- A switch is read or left as it is. -/
theorem of_readFlag {flag : Flag}
    (h : (readInto fields (.flag flag) options fun name text =>
      (readFlag name text).map fun value => options.setFlag value flag) = .ok next) :
    Follows options next ∧ next.algorithm = options.algorithm := by
  unfold readInto at h
  split at h
  · rename_i name text _
    cases hread : readFlag name text with
    | error fault => simp [hread, Except.map] at h
    | ok value =>
      obtain rfl : options.setFlag value flag = next := by simpa [hread, Except.map] using h
      exact ⟨.setFlag options value flag, options.algorithm_setFlag value flag⟩
  · cases h
    exact ⟨.refl options, rfl⟩

/-- Switches that are read follow, and leave the algorithm as it is. -/
theorem follows_of_readFlags (h : readFlags fields options = .ok next) :
    Follows options next ∧ next.algorithm = options.algorithm := by
  unfold readFlags at h
  generalize Flag.all = flags at h
  -- no switch touches the algorithm, so that none is selected yet when the family is read
  induction flags generalizing options with
  | nil =>
    cases h
    exact ⟨.refl next, rfl⟩
  | cons flag flags ih =>
    rw [List.foldlM_cons, bind_eq_ok_iff] at h
    obtain ⟨between, hflag, hflags⟩ := h
    obtain ⟨hfirst, hkept⟩ := of_readFlag hflag
    obtain ⟨hrest, hkept'⟩ := ih hflags
    exact ⟨hfirst.trans hrest, hkept'.trans hkept⟩

theorem follows_readFamily (halgorithm : options.algorithm = none) {name text : String}
    (h : (do return { options with family := ← readOptional text (readFamily name) }) = Except.ok next) :
    Follows options next := by
  obtain ⟨family?, -, hnext⟩ := bind_eq_ok_iff.mp h
  cases hnext
  exact .selectFamily halgorithm family?

theorem follows_readAlgorithm {name text : String}
    (h : (do return { options with algorithm := ← readOptional text (readAlgorithm options.family name) }) =
      Except.ok next) : Follows options next := by
  obtain ⟨algorithm?, hoptional, hnext⟩ := bind_eq_ok_iff.mp h
  cases hnext
  refine .of_apply (.selectAlgorithm algorithm?) ?_ fun family => by cases family <;> rfl
  cases algorithm? with
  | none => rfl
  | some algorithm =>
    obtain ⟨text, hread⟩ := of_readOptional hoptional
    obtain ⟨family, hfamily, hmem⟩ := mem_algorithms_of_readAlgorithm hread
    exact selectAlgorithm_eq_ok_iff.mpr ⟨family, hfamily, hmem, rfl⟩

theorem follows_readColumn {text : String}
    (h : (.ok { options with categoricalColumn := readColumn text } : Except GenerationError Options) = .ok next) :
    Follows options next := by
  refine .of_apply (.setCategoricalColumn text) h fun family => ?_
  generalize readColumn text = column at h
  cases h
  cases family <;> rfl

theorem follows_readDegree {name text : String}
    (h : (do return { options with
      polynomialDegree := (← readDegree name text).getD options.polynomialDegree }) = Except.ok next) :
    Follows options next := by
  obtain ⟨degree?, hdegree, hnext⟩ := bind_eq_ok_iff.mp h
  cases hnext
  cases degree? with
  | none => exact .refl options
  | some degree =>
    refine .of_apply (.setPolynomialDegree degree) ?_ fun family => by cases family <;> rfl
    rw [Options.apply, checkDegree_eq_ok_iff.mpr (degree_of_readDegree hdegree)]
    rfl

theorem follows_readCriterion {name text : String}
    (h : (do return { options with
      criterion := (← readOptional text (readCriterion name)).getD .gini }) = Except.ok next) :
    Follows options next := by
  obtain ⟨criterion?, -, hnext⟩ := bind_eq_ok_iff.mp h
  cases hnext
  exact .of_apply (.setCriterion (criterion?.getD .gini)) rfl fun family => by cases family <;> rfl

theorem follows_readRandomState (family : Family) {name text : String}
    (h : (do return options.setRandomState (← readRandomState name text) family) = Except.ok next) :
    Follows options next := by
  obtain ⟨state, hstate, hnext⟩ := bind_eq_ok_iff.mp h
  obtain ⟨htext, rfl⟩ := readRandomState_eq_ok_iff.mp hstate
  cases hnext
  exact .setRandomState options htext family

/-- What fields stand for follows from the default options. -/
theorem follows_of_decode (h : decode fields = .ok options) : Follows {} options := by
  simp only [decode, bind_eq_ok_iff] at h
  obtain ⟨flags, hflags, family, hfamily, algorithm, halgorithm, column, hcolumn, degree, hdegree, criterion,
    hcriterion, classification, hclassification, hregression⟩ := h
  obtain ⟨hfollows, hnone⟩ := follows_of_readFlags hflags
  have hfamily := follows_of_readInto hfamily fun _ _ => follows_readFamily hnone
  have halgorithm := follows_of_readInto halgorithm fun _ _ => follows_readAlgorithm
  have hcolumn := follows_of_readInto hcolumn fun _ _ => follows_readColumn
  have hdegree := follows_of_readInto hdegree fun _ _ => follows_readDegree
  have hcriterion := follows_of_readInto hcriterion fun _ _ => follows_readCriterion
  have hclassification := follows_of_readInto hclassification fun _ _ => follows_readRandomState .classification
  have hregression := follows_of_readInto hregression fun _ _ => follows_readRandomState .regression
  exact hfollows.trans <| hfamily.trans <| halgorithm.trans <| hcolumn.trans <| hdegree.trans <|
    hcriterion.trans <| hclassification.trans hregression

theorem follows_of_parse {form : Form} (h : form.parse.outcome = .ok options) : Follows {} options := by
  rw [outcome_parse, bind_eq_ok_iff] at h
  obtain ⟨fields, -, hdecode⟩ := h
  exact follows_of_decode hdecode

end Form

/-! ## From options to forms -/

namespace FormOption

/-- The name of an option that counts first. -/
def firstName (option : FormOption) : String :=
  option.names.headD ""

theorem exists_names_eq_cons (option : FormOption) : ∃ more, option.names = option.firstName :: more := by
  have hall : ∀ option ∈ all, option.names = option.firstName :: option.names.tail := by decide
  exact ⟨_, hall option option.mem_all⟩

theorem firstName_mem_names (option : FormOption) : option.firstName ∈ option.names := by
  obtain ⟨more, hnames⟩ := option.exists_names_eq_cons
  simp [hnames]

/-- The text of an option in a form. -/
def text (options : Options) : FormOption → String
  | .flag switch => if options.flag switch then "true" else "false"
  | .family => (options.family.map Family.name).getD ""
  | .algorithm => (options.algorithm.map Algorithm.name).getD ""
  | .column => columnText options.categoricalColumn
  | .degree => Text.decimal options.polynomialDegree.toNat
  | .criterion => options.criterion.name
  | .randomState kind => options.randomStateText kind

end FormOption

namespace Form

variable {fields : List (String × String)} {options : Options}

/-- The fields that set every option. -/
def pairsOf (options : Options) : List (String × String) :=
  FormOption.all.map fun option => (option.firstName, option.text options)

theorem get?_ofPairs_pairsOf (options : Options) (option : FormOption) :
    (ofPairs (pairsOf options)).get? option.firstName = some (option.text options) := by
  have hget := Dict.get?_map_of_mem FormOption.firstName (FormOption.text options)
    (List.mem_reverse.mpr option.mem_all) fun other _ heq =>
      FormOption.eq_of_mem_names other.firstName_mem_names (heq ▸ option.firstName_mem_names)
  rw [ofPairs, get?, insertAll, Dict.get?_insertAll, pairsOf, ← List.map_reverse, hget, Option.some_or]

theorem nested?_ofPairs_pairsOf (options : Options) : (ofPairs (pairsOf options)).nested? = some [] := by
  have hnone : (ofPairs (pairsOf options)).get? nestedName = none := by
    rw [ofPairs, get?, insertAll, Dict.get?_insertAll, pairsOf, ← List.map_reverse, Option.or_eq_none_iff,
      Dict.get?_eq_none_iff]
    refine ⟨fun hmem => ?_, rfl⟩
    simp only [List.map_map, List.mem_map, Function.comp_def] at hmem
    obtain ⟨option, -, hname⟩ := hmem
    exact option.nestedName_not_mem_names (hname ▸ option.firstName_mem_names)
  rw [nested?, hnone]

/-- Every option is chosen by its first name. -/
theorem chosen_ofPairs_pairsOf (options : Options) (option : FormOption) :
    (ofPairs (pairsOf options)).chosen option = some (option.firstName, option.text options) := by
  obtain ⟨more, hnames⟩ := option.exists_names_eq_cons
  rw [chosen, hnames, List.findSome?_cons, text?, get?_ofPairs_pairsOf]
  rfl

/-! ### Reading the texts back -/

theorem readFlag_text (name : String) (value : Bool) :
    readFlag name (if value then "true" else "false") = .ok value := by
  cases value <;> rfl

/-- A text with neither blanks around it nor nothing in it is read as it is. -/
theorem readOptional_of_trim_eq {α : Type} {text : String} {read : String → Except GenerationError α} {a : α}
    (htrim : trim text = text) (hne : text ≠ "") (hread : read text = .ok a) :
    readOptional text read = .ok (some a) := by
  simp [readOptional, htrim, hne, hread, Except.map]

theorem readOptional_familyText (name : String) (family? : Option Family) :
    readOptional ((family?.map Family.name).getD "") (readFamily name) = .ok family? := by
  cases family? with
  | none => rfl
  | some family =>
    have hall : ∀ family ∈ Family.all, trim family.name = family.name ∧ family.name ≠ "" ∧
        Family.ofName? family.name = some family := by decide
    obtain ⟨htrim, hne, hname⟩ := hall family family.mem_all
    exact readOptional_of_trim_eq htrim hne (by simp [readFamily, hname])

theorem readOptional_algorithmText (name : String) {family? : Option Family} {algorithm? : Option Algorithm}
    (h : ∀ algorithm, algorithm? = some algorithm → ∃ family, family? = some family ∧ algorithm ∈ family.algorithms) :
    readOptional ((algorithm?.map Algorithm.name).getD "") (readAlgorithm family? name) = .ok algorithm? := by
  cases algorithm? with
  | none => rfl
  | some algorithm =>
    have hall : ∀ algorithm ∈ Algorithm.all, trim algorithm.name = algorithm.name ∧ algorithm.name ≠ "" ∧
        Algorithm.ofName? algorithm.name = some algorithm := by decide
    obtain ⟨htrim, hne, hname⟩ := hall algorithm algorithm.mem_all
    obtain ⟨family, rfl, hmem⟩ := h algorithm rfl
    exact readOptional_of_trim_eq htrim hne (by simp [readAlgorithm, hname, Family.offers_iff_mem.mpr hmem])

theorem readOptional_criterionText (name : String) (criterion : Criterion) :
    readOptional criterion.name (readCriterion name) = .ok (some criterion) := by
  have hall : ∀ criterion ∈ Criterion.all, trim criterion.name = criterion.name ∧ criterion.name ≠ "" ∧
      Criterion.ofName? criterion.name = some criterion := by decide
  have hmem : criterion ∈ Criterion.all := by cases criterion <;> decide
  obtain ⟨htrim, hne, hname⟩ := hall criterion hmem
  exact readOptional_of_trim_eq htrim hne (by simp [readCriterion, hname])

theorem readDegree_decimal (name : String) {degree : UInt8} (h : 2 ≤ degree.toNat ∧ degree.toNat ≤ 5) :
    readDegree name (Text.decimal degree.toNat) = .ok (some degree) := by
  have hne : Text.decimal degree.toNat ≠ "" := by
    rw [Text.decimal, ne_eq, String.ofList_eq_empty_iff]
    exact Text.decimalChars_ne_nil degree.toNat
  have hread : readUnsigned UInt8.size (Text.decimal degree.toNat) = some degree.toNat :=
    Text.readUnsigned_decimal degree.toNat_lt
  simp [readDegree, hne, hread, checkDegree_eq_ok_iff.mpr h]

/-- The switches that are read are those of the options. -/
theorem readFlags_of_effective? (h : ∀ option, effective? fields option = some (option.firstName, option.text options))
    (start : Options) : readFlags fields start = .ok (start.withFlags options) := by
  have hread (flag : Flag) (between : Options) :
      (readInto fields (.flag flag) between fun name text =>
        (readFlag name text).map fun value => between.setFlag value flag) =
      .ok (between.setFlag (options.flag flag) flag) := by
    simp only [readInto, h, FormOption.text, readFlag_text, Except.map]
  simp only [readFlags, hread]
  rfl

/-- Admissible options without blanks around their random states are read back from their texts. -/
theorem decode_of_effective? (hadmissible : options.Admissible) (htrimmed : options.Trimmed)
    (h : ∀ option, effective? fields option = some (option.firstName, option.text options)) :
    decode fields = .ok options := by
  have hstate (name : String) (family : Family) :
      readRandomState name (options.randomStateText family) = .ok (options.randomStateText family) :=
    readRandomState_eq_ok_iff.mpr ⟨hadmissible.randomState family, htrimmed family⟩
  have halgorithm (name : String) :
      readOptional ((options.algorithm.map Algorithm.name).getD "") (readAlgorithm options.family name) =
        .ok options.algorithm := readOptional_algorithmText name hadmissible.algorithm
  have hdegree (name : String) : readDegree name (Text.decimal options.polynomialDegree.toNat) =
      .ok (some options.polynomialDegree) := readDegree_decimal name hadmissible.degree
  simp only [decode, readFlags_of_effective? h, readInto, h, FormOption.text, readOptional_familyText, halgorithm,
    readColumn_columnText, hdegree, readOptional_criterionText, hstate, Option.getD_some, ok_bind, pure_bind]
  rfl

/-- Admissible options without blanks around their random states are read back from their form. -/
theorem outcome_parse_ofPairs_pairsOf (hadmissible : options.Admissible) (htrimmed : options.Trimmed) :
    (ofPairs (pairsOf options)).parse.outcome = .ok options := by
  have htable : (ofPairs (pairsOf options)).nested?.isSome := by
    rw [nested?_ofPairs_pairsOf]
    rfl
  obtain ⟨fields, hfields, hget⟩ := exists_expand_eq_ok htable
  rw [outcome_parse, hfields]
  refine decode_of_effective? hadmissible htrimmed fun option => ?_
  rw [effective?_eq_chosen hget, chosen_ofPairs_pairsOf]

end Form

/-! ## Scripts do not show blanks around random states -/

namespace Options

variable {options : Options}

/-- Options without the blanks around their random states. -/
def trimmed (options : Options) : Options :=
  { options with
    classificationRandomState := trim options.classificationRandomState
    regressionRandomState := trim options.regressionRandomState }

theorem randomStateText_trimmed (options : Options) (family : Family) :
    options.trimmed.randomStateText family = trim (options.randomStateText family) := by
  cases family <;> rfl

theorem trimmed_trimmed (options : Options) : options.trimmed.Trimmed := by
  intro family
  rw [randomStateText_trimmed, trim_trim]

theorem Admissible.trimmed (h : options.Admissible) : options.trimmed.Admissible := by
  refine ⟨h.algorithm, h.degree, fun family => ?_⟩
  rw [randomStateText_trimmed, RandomStateText, trim_trim]
  exact h.randomState family

theorem randomState_trimmed (options : Options) (family : Family) :
    options.trimmed.randomState family = options.randomState family := by
  simp only [randomState, randomStateText_trimmed, trim_trim]

theorem render_trimmed (options : Options) (dataset : Dataset) (plan : Plan) (scope : Scope) (id : StageId) :
    id.render options.trimmed dataset plan scope = id.render options dataset plan scope := by
  cases id with
  | model =>
    have hbindings (family : Family) :
        Render.modelBindings options.trimmed family scope = Render.modelBindings options family scope := by
      simp only [Render.modelBindings, randomState_trimmed]
      rfl
    have hmodel : Render.model options.trimmed scope = Render.model options scope := by
      simp only [Render.model, hbindings]
      rfl
    simp only [StageId.render, hmodel]
  | _ => rfl

theorem textsFrom_trimmed (options : Options) (dataset : Dataset) (plan : Plan) (scope : Scope) (ids : List StageId) :
    Plan.textsFrom options.trimmed dataset plan scope ids = Plan.textsFrom options dataset plan scope ids := by
  induction ids generalizing scope with
  | nil => rfl
  | cons id ids ih =>
    have hproduces : id.stage.produces options.trimmed = id.stage.produces options := by cases id <;> rfl
    simp only [Plan.textsFrom, render_trimmed, hproduces, ih]

/-- The script is the same without the blanks around random states. -/
theorem Admissible.generate_trimmed (h : options.Admissible) (settings : Settings) (dataset? : Option Dataset) :
    (generate settings options.trimmed dataset?).outcome = (generate settings options dataset?).outcome := by
  cases dataset? with
  | none => rw [generate_none h.validate, generate_none h.trimmed.validate]
  | some dataset =>
    obtain ⟨script, hscript⟩ := h.exists_script (some dataset)
    obtain ⟨-, plan, texts, hbuild, htexts, rfl⟩ := generate_eq_ok_iff.mp (hscript settings)
    have hbuild' : (Plan.build options.trimmed settings.unknownAlgorithm).outcome = .ok plan := hbuild
    have htexts' : plan.texts options.trimmed dataset = .ok texts :=
      (textsFrom_trimmed options dataset plan [] plan.stages).trans htexts
    rw [hscript settings, generate_eq_ok_iff]
    exact ⟨h.trimmed.validate, plan, texts, hbuild', htexts', rfl⟩

end Options

open Form

/-- Forms express exactly the options that edits reach, but for blanks around random states: these are missing from
what a form expresses, and do not show in scripts. -/
theorem forms_express_exactly_reachable :
    (∀ options : Options, (∃ pairs, (ofPairs pairs).parse.outcome = .ok options) ↔
      options.Reachable ∧ trim options.classificationRandomState = options.classificationRandomState ∧
        trim options.regressionRandomState = options.regressionRandomState) ∧
    (∀ (form : Form) options, form.parse.outcome = .ok options → options.Reachable) ∧
    ∀ options : Options, options.Reachable → ∃ pairs expressed, (ofPairs pairs).parse.outcome = .ok expressed ∧
      ∀ settings dataset?, ∃ script, (generate settings expressed dataset?).outcome = .ok script ∧
        (generate settings options dataset?).outcome = .ok script := by
  refine ⟨fun options => ⟨?_, ?_⟩, fun form options hparse => (follows_of_parse hparse).edits, fun options hreachable => ?_⟩
  · rintro ⟨pairs, hparse⟩
    have hfollows := follows_of_parse hparse
    have htrimmed : options.Trimmed := hfollows.trimmed fun family => by cases family <;> rfl
    exact ⟨hfollows.edits, htrimmed .classification, htrimmed .regression⟩
  · rintro ⟨hreachable, hclassification, hregression⟩
    have htrimmed : options.Trimmed := fun family => by cases family <;> assumption
    exact ⟨_, outcome_parse_ofPairs_pairsOf (reachable_iff_admissible.mp hreachable) htrimmed⟩
  · -- the form is that of the options without blanks around random states, which no script shows
    have hadmissible := reachable_iff_admissible.mp hreachable
    refine ⟨_, options.trimmed, outcome_parse_ofPairs_pairsOf hadmissible.trimmed options.trimmed_trimmed,
      fun settings dataset? => ?_⟩
    obtain ⟨script, hscript⟩ := hadmissible.exists_script dataset?
    exact ⟨script, by rw [hadmissible.generate_trimmed, hscript], hscript settings⟩

/-- A random state with blanks around it shows in no form, and the script without them is expressed. -/
theorem forms_express_padded_state :
    Options.Reachable { family := some .regression, regressionRandomState := " 7 " } ∧
    ∃ pairs expressed, (ofPairs pairs).parse.outcome = .ok expressed ∧ expressed.Reachable ∧
      ∀ settings dataset?, ∃ script, (generate settings expressed dataset?).outcome = .ok script ∧
        (generate settings { family := some .regression, regressionRandomState := " 7 " } dataset?).outcome =
          .ok script := by
  have hreachable : Options.Reachable { family := some .regression, regressionRandomState := " 7 " } :=
    ⟨[.selectFamily (some .regression), .setRandomState .regression " 7 "], by rfl⟩
  obtain ⟨pairs, expressed, hparse, hscripts⟩ := forms_express_exactly_reachable.2.2 _ hreachable
  exact ⟨hreachable, pairs, expressed, hparse, forms_express_exactly_reachable.2.1 _ _ hparse, hscripts⟩

end TableScript
