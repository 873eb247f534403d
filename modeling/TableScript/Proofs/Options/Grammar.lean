import TableScript.Proofs.Options.Expression

/-!
# The grammar of forms

A form is in the grammar if its nested fields are an object of scalars and every option that it chooses has a text that
the option accepts (`Form.Grammatical`).  Reading goes through the options one by one: an accepted text adds to what the
options before it say (`read_of_accepts`), and a refused one ends it (`read_of_refuses`).  So forms in the grammar stand
for what all their texts say, and the others are refused for the first text out of it (`parse_accepts_grammar`).
-/

namespace TableScript

open Text (trim readUnsigned)

/-! ## Names of the catalogue -/

theorem Family.ofName?_eq_some_iff {text : String} {family : Family} :
    ofName? text = some family ↔ family.name = text := by
  have hown : all.find? (fun other => other.name = family.name) = some family := by cases family <;> rfl
  exact (Dict.find?_name_eq_some_iff hown).trans eq_comm

theorem Criterion.ofName?_eq_some_iff {text : String} {criterion : Criterion} :
    ofName? text = some criterion ↔ criterion.name = text := by
  have hown : all.find? (fun other => other.name = criterion.name) = some criterion := by cases criterion <;> rfl
  exact (Dict.find?_name_eq_some_iff hown).trans eq_comm

/-- A text is the name of an algorithm in the catalogue, or a short name for it. -/
def Algorithm.IsNamed (algorithm : Algorithm) (text : String) : Prop :=
  algorithm.name = text ∨ (text, algorithm) ∈ shortNames

theorem Algorithm.ofName?_eq_some_iff {text : String} {algorithm : Algorithm} :
    ofName? text = some algorithm ↔ algorithm.IsNamed text := by
  have hown : all.find? (fun other => other.name = algorithm.name) = some algorithm := by cases algorithm <;> rfl
  have hfind : all.find? (fun other => other.name = text) = some algorithm ↔ text = algorithm.name :=
    Dict.find?_name_eq_some_iff hown
  have hshort : ∀ entry ∈ shortNames, ofName? entry.1 = some entry.2 := by decide
  constructor
  · intro h
    rw [ofName?, Option.or_eq_some_iff] at h
    rcases h with h | ⟨-, h⟩
    · exact Or.inl (hfind.mp h).symm
    · obtain ⟨entry, hentry, rfl⟩ := Option.map_eq_some_iff.mp h
      have htext : entry.1 = text := by simpa using List.find?_some hentry
      exact Or.inr (htext ▸ List.mem_of_find?_eq_some hentry)
  · rintro (h | h)
    · rw [ofName?, hfind.mpr h.symm, Option.some_or]
    · exact hshort _ h

/-! ## Texts of one option -/

namespace FormOption

/-- The texts of an option that are in the grammar, under the family that a form chooses. -/
def Accepts (family? : Option Family) (text : String) : FormOption → Prop
  | flag _ => trim text = "true" ∨ trim text = "false"
  | family => trim text = "" ∨ ∃ family : Family, family.name = trim text
  | algorithm => trim text = "" ∨ ∃ (algorithm : Algorithm) (family : Family),
      algorithm.IsNamed (trim text) ∧ family? = some family ∧ algorithm ∈ family.algorithms
  | column => True
  | degree => trim text = "" ∨ ∃ degree, readUnsigned UInt8.size (trim text) = some degree ∧ 2 ≤ degree ∧ degree ≤ 5
  | criterion => trim text = "" ∨ ∃ criterion : Criterion, criterion.name = trim text
  | randomState _ => RandomStateText text

/-- The texts of an option that are not in the grammar, under the name that they have, and how they are refused. -/
inductive Refuses (family? : Option Family) (name text : String) : FormOption → GenerationError → Prop where
  | notBoolean {switch : Flag} (htrue : trim text ≠ "true") (hfalse : trim text ≠ "false") :
    Refuses family? name text (flag switch) (.validation name (.notBoolean (trim text)))
  | unknownFamily (hblank : trim text ≠ "") (hname : ∀ family : Family, family.name ≠ trim text) :
    Refuses family? name text family (.validation name (.unknownFamily (trim text)))
  | unknownAlgorithm (hblank : trim text ≠ "") (hname : ∀ algorithm : Algorithm, ¬ algorithm.IsNamed (trim text)) :
    Refuses family? name text algorithm (.unknownAlgorithm ((family?.map Family.name).getD "") (trim text))
  | requiresFamily {found : Algorithm} (hblank : trim text ≠ "") (hname : found.IsNamed (trim text))
      (hfamily : family? = none) :
    Refuses family? name text algorithm (.validation name (.requiresFamily found))
  | foreignAlgorithm {found : Algorithm} {chosen : Family} (hblank : trim text ≠ "") (hname : found.IsNamed (trim text))
      (hfamily : family? = some chosen) (hforeign : found ∉ chosen.algorithms) :
    Refuses family? name text algorithm (.validation name (.foreignAlgorithm found chosen))
  | notDegree (hblank : trim text ≠ "") (hread : readUnsigned UInt8.size (trim text) = none) :
    Refuses family? name text degree (.validation name (.notDegree text))
  | degreeOutside {n : Nat} (hblank : trim text ≠ "") (hread : readUnsigned UInt8.size (trim text) = some n)
      (houtside : ¬ (2 ≤ n ∧ n ≤ 5)) :
    Refuses family? name text degree (.validation name (.degreeOutside n))
  | unknownCriterion (hblank : trim text ≠ "") (hname : ∀ criterion : Criterion, criterion.name ≠ trim text) :
    Refuses family? name text criterion (.validation name (.unknownCriterion (trim text)))
  | notRandomState {kind : Family} (hstate : ¬ RandomStateText text) :
    Refuses family? name text (randomState kind) (.validation name (.notRandomState (trim text)))

variable {family? : Option Family} {name text : String} {option : FormOption}

/-- A text that is not accepted is refused. -/
theorem accepts_or_refuses (family? : Option Family) (name text : String) (option : FormOption) :
    option.Accepts family? text ∨ ∃ fault, option.Refuses family? name text fault := by
  by_cases haccepts : option.Accepts family? text
  · exact Or.inl haccepts
  refine Or.inr ?_
  cases option with
  | flag switch =>
    obtain ⟨htrue, hfalse⟩ := not_or.mp haccepts
    exact ⟨_, .notBoolean htrue hfalse⟩
  | family =>
    obtain ⟨hblank, hname⟩ := not_or.mp haccepts
    exact ⟨_, .unknownFamily hblank (not_exists.mp hname)⟩
  | algorithm =>
    obtain ⟨hblank, hnone⟩ := not_or.mp haccepts
    by_cases hnamed : ∃ algorithm : Algorithm, algorithm.IsNamed (trim text)
    · obtain ⟨found, hfound⟩ := hnamed
      cases hfamily : family? with
      | none => exact ⟨_, .requiresFamily hblank hfound rfl⟩
      | some chosen =>
        exact ⟨_, .foreignAlgorithm hblank hfound rfl fun hmem => hnone ⟨found, chosen, hfound, hfamily, hmem⟩⟩
    · exact ⟨_, .unknownAlgorithm hblank (not_exists.mp hnamed)⟩
  | column => exact absurd trivial haccepts
  | degree =>
    obtain ⟨hblank, hnone⟩ := not_or.mp haccepts
    cases hread : readUnsigned UInt8.size (trim text) with
    | none => exact ⟨_, .notDegree hblank hread⟩
    | some n => exact ⟨_, .degreeOutside hblank hread fun hbounds => hnone ⟨n, hread, hbounds⟩⟩
  | criterion =>
    obtain ⟨hblank, hname⟩ := not_or.mp haccepts
    exact ⟨_, .unknownCriterion hblank (not_exists.mp hname)⟩
  | randomState kind => exact ⟨_, .notRandomState haccepts⟩

/-! ## Reading one option -/

/-- The options after one of them is read from its text. -/
def read (options : Options) (name text : String) : FormOption → Except GenerationError Options
  | flag switch => (Form.readFlag name text).map fun value => options.setFlag value switch
  | family => do return { options with family := ← Form.readOptional text (Form.readFamily name) }
  | algorithm => do
    return { options with algorithm := ← Form.readOptional text (Form.readAlgorithm options.family name) }
  | column => .ok { options with categoricalColumn := readColumn text }
  | degree => do return { options with polynomialDegree := (← Form.readDegree name text).getD options.polynomialDegree }
  | criterion => do
    return { options with criterion := (← Form.readOptional text (Form.readCriterion name)).getD .gini }
  | randomState kind => do return options.setRandomState (← Form.readRandomState name text) kind

end FormOption

/-- The options that trimmed texts stand for, where an option without one has its default. -/
def Options.said (texts : FormOption → Option String) : Options where
  importLibraries := texts (.flag .importLibraries) = some "true"
  dropFirstColumn := texts (.flag .dropFirstColumn) = some "true"
  handleMissingData := texts (.flag .handleMissingData) = some "true"
  categoricalFeature := texts (.flag .categoricalFeature) = some "true"
  categoricalTargetPresent := texts (.flag .categoricalTargetPresent) = some "true"
  splitDataset := texts (.flag .splitDataset) = some "true"
  performScaling := texts (.flag .performScaling) = some "true"
  family := (texts .family).bind Family.ofName?
  algorithm := (texts .algorithm).bind Algorithm.ofName?
  categoricalColumn := (texts .column).bind fun text => (readUnsigned UInt64.size text).map UInt64.ofNat
  polynomialDegree := ((texts .degree).bind fun text => (readUnsigned UInt8.size text).map UInt8.ofNat).getD 2
  criterion := ((texts .criterion).bind Criterion.ofName?).getD .gini
  classificationRandomState := (texts (.randomState .classification)).getD ""
  regressionRandomState := (texts (.randomState .regression)).getD ""

open Options (said)

theorem said_update_flag (texts : FormOption → Option String) (text : String) (switch : Flag) :
    said (Function.update texts (.flag switch) (some text)) = (said texts).setFlag (text = "true") switch := by
  cases switch <;> simp [said, Options.setFlag]

theorem said_update_randomState (texts : FormOption → Option String) (text : String) (kind : Family) :
    said (Function.update texts (.randomState kind) (some text)) = (said texts).setRandomState text kind := by
  cases kind <;> simp [said, Options.setRandomState]

namespace FormOption

variable {family? : Option Family} {name text : String} {option : FormOption} {fault : GenerationError}
  {texts : FormOption → Option String}

theorem readOptional_of_ne_blank {α : Type} {read : String → Except GenerationError α} (h : trim text ≠ "") :
    Form.readOptional text read = (read (trim text)).map some := by
  simp [Form.readOptional, h]

/-- What stands for something is not empty. -/
theorem ne_blank_of_eq_some {α : Type} {value? : String → Option α} {text : String} {a : α}
    (h : value? text = some a) (hempty : value? "" = none) : text ≠ "" := by
  rintro rfl
  rw [hempty] at h
  cases h

/-- A text that may be blank is read as what stands under its name. -/
theorem readOptional_of_ofName? {α : Type} {ofName? : String → Option α} {read : String → Except GenerationError α}
    (hempty : ofName? "" = none)
    (h : trim text = "" ∨ ∃ a, ofName? (trim text) = some a ∧ read (trim text) = .ok a) :
    Form.readOptional text read = .ok (ofName? (trim text)) := by
  rcases h with hblank | ⟨a, hname, hread⟩
  · simp [Form.readOptional, hblank, hempty]
  · rw [readOptional_of_ne_blank (ne_blank_of_eq_some hname hempty), hread, hname]
    rfl

/-- An accepted text adds to what the texts before it say. -/
theorem read_of_accepts (name : String) (haccepts : option.Accepts family? text) (hnew : texts option = none)
    (hfamily : option = .algorithm → (said texts).family = family?) :
    option.read (said texts) name text = .ok (said (Function.update texts option (some (trim text)))) := by
  cases option with
  | flag switch =>
    rw [said_update_flag]
    rcases haccepts with htext | htext <;> simp [read, Form.readFlag, htext, Except.map]
  | family =>
    have hread : Form.readOptional text (Form.readFamily name) = .ok (Family.ofName? (trim text)) := by
      refine readOptional_of_ofName? rfl (haccepts.imp_right ?_)
      rintro ⟨found, hname⟩
      have hfound := Family.ofName?_eq_some_iff.mpr hname
      exact ⟨found, hfound, by rw [Form.readFamily, hfound]⟩
    rw [read, hread, ok_bind]
    simp [said, pure, Except.pure]
  | algorithm =>
    have hread : Form.readOptional text (Form.readAlgorithm (said texts).family name) =
        .ok (Algorithm.ofName? (trim text)) := by
      refine readOptional_of_ofName? rfl (haccepts.imp_right ?_)
      rintro ⟨found, chosen, hname, hchosen, hmem⟩
      have hfound := Algorithm.ofName?_eq_some_iff.mpr hname
      have hoffers := Family.offers_iff_mem.mpr hmem
      exact ⟨found, hfound, by simp [Form.readAlgorithm, hfound, hfamily rfl, hchosen, hoffers]⟩
    rw [read, hread, ok_bind]
    simp [said, pure, Except.pure]
  | column => simp [read, said, readColumn]
  | degree =>
    have hread : Form.readDegree name text = .ok ((readUnsigned UInt8.size (trim text)).map UInt8.ofNat) := by
      rcases haccepts with hblank | ⟨n, hn, hbounds⟩
      · simp only [Form.readDegree, hblank, if_true]
        rfl
      · have hne : trim text ≠ "" := ne_blank_of_eq_some hn rfl
        simp only [Form.readDegree, hne, if_false, hn, checkDegree_eq_ok_iff.mpr hbounds]
        rfl
    have hdefault : (said texts).polynomialDegree = 2 := by simp [said, hnew]
    rw [read, hread, ok_bind, hdefault]
    simp [said, pure, Except.pure]
  | criterion =>
    have hread : Form.readOptional text (Form.readCriterion name) = .ok (Criterion.ofName? (trim text)) := by
      refine readOptional_of_ofName? rfl (haccepts.imp_right ?_)
      rintro ⟨found, hname⟩
      have hfound := Criterion.ofName?_eq_some_iff.mpr hname
      exact ⟨found, hfound, by rw [Form.readCriterion, hfound]⟩
    rw [read, hread, ok_bind]
    simp [said, pure, Except.pure]
  | randomState kind =>
    rw [said_update_randomState, read, Form.readRandomState_eq_ok_iff.mpr ⟨haccepts, rfl⟩]
    rfl

/-- A text that is not accepted ends reading. -/
theorem read_of_refuses {options : Options} (hrefuses : option.Refuses family? name text fault)
    (hfamily : option = .algorithm → options.family = family?) : option.read options name text = .error fault := by
  cases hrefuses with
  | notBoolean htrue hfalse =>
    simp [read, Form.readFlag, htrue, hfalse, Except.map]
  | unknownFamily hblank hname =>
    have hnone : Family.ofName? (trim text) = none :=
      Option.eq_none_iff_forall_ne_some.mpr fun family h => hname family (Family.ofName?_eq_some_iff.mp h)
    rw [read, readOptional_of_ne_blank hblank, Form.readFamily, hnone]
    rfl
  | unknownAlgorithm hblank hname =>
    have hnone : Algorithm.ofName? (trim text) = none :=
      Option.eq_none_iff_forall_ne_some.mpr fun found h => hname found (Algorithm.ofName?_eq_some_iff.mp h)
    rw [read, readOptional_of_ne_blank hblank, Form.readAlgorithm, hnone, hfamily rfl]
    rfl
  | requiresFamily hblank hname hnone =>
    rw [read, readOptional_of_ne_blank hblank, Form.readAlgorithm, Algorithm.ofName?_eq_some_iff.mpr hname, hfamily rfl,
      hnone]
    rfl
  | foreignAlgorithm hblank hname hchosen hforeign =>
    rw [← Family.offers_iff_mem, Bool.not_eq_true] at hforeign
    rw [read, readOptional_of_ne_blank hblank, Form.readAlgorithm, Algorithm.ofName?_eq_some_iff.mpr hname, hfamily rfl,
      hchosen]
    simp only [hforeign]
    rfl
  | notDegree hblank hread =>
    simp only [read, Form.readDegree, hblank, if_false, hread]
    rfl
  | @degreeOutside n hblank hread houtside =>
    have hcheck : isDegree n = false := by simpa [isDegree] using houtside
    simp only [read, Form.readDegree, hblank, if_false, hread, checkDegree, hcheck]
    rfl
  | unknownCriterion hblank hname =>
    have hnone : Criterion.ofName? (trim text) = none :=
      Option.eq_none_iff_forall_ne_some.mpr fun found h => hname found (Criterion.ofName?_eq_some_iff.mp h)
    rw [read, readOptional_of_ne_blank hblank, Form.readCriterion, hnone]
    rfl
  | notRandomState hstate =>
    rw [← isRandomState_iff, Bool.not_eq_true] at hstate
    simp only [read, Form.readRandomState, checkRandomState, hstate]
    rfl

end FormOption

/-! ## Nested fields -/

/-- A truth value, a number or a string. -/
def Json.IsScalar : Json → Prop
  | .bool _ | .integer _ | .float _ | .string _ => True
  | .null | .array _ | .object _ => False

private theorem exists_first_not {α : Type} {P : α → Prop} {l : List α} (h : ¬ ∀ a ∈ l, P a) :
    ∃ before a after, l = before ++ a :: after ∧ (∀ b ∈ before, P b) ∧ ¬ P a := by
  induction l with
  | nil => simp at h
  | cons a l ih =>
    by_cases ha : P a
    · have hl : ¬ ∀ b ∈ l, P b := fun hl => h (List.forall_mem_cons.mpr ⟨ha, hl⟩)
      obtain ⟨before, b, after, rfl, hbefore, hb⟩ := ih hl
      exact ⟨a :: before, b, after, rfl, List.forall_mem_cons.mpr ⟨ha, hbefore⟩, hb⟩
    · exact ⟨[], a, l, rfl, by simp, ha⟩

namespace Form

variable {form : Form} {fault : GenerationError}

/-- Nested fields are an object of scalars, if there are any. -/
def NestsScalars (form : Form) : Prop :=
  form.get? nestedName = none ∨ ∃ text members, form.get? nestedName = some text ∧
    Json.read text = .ok (.object members) ∧ ∀ member ∈ members, member.2.IsScalar

/-- How nested fields are refused that are no object of scalars: for the first member that is none, if they are an
object. -/
inductive RefusesNesting (form : Form) : GenerationError → Prop where
  | invalidJson {text : String} {fault : Json.SyntaxFault} (hheld : form.get? nestedName = some text)
      (hread : Json.read text = .error fault) : RefusesNesting form (.validation nestedName (.invalidJson fault))
  | notObject {text : String} {value : Json} (hheld : form.get? nestedName = some text)
      (hread : Json.read text = .ok value) (hobject : ∀ members, value ≠ .object members) :
    RefusesNesting form (.validation nestedName .notObject)
  | notScalar {text name : String} {value : Json} {before after : List (String × Json)}
      (hheld : form.get? nestedName = some text)
      (hread : Json.read text = .ok (.object (before ++ (name, value) :: after)))
      (hbefore : ∀ member ∈ before, member.2.IsScalar) (hvalue : ¬ value.IsScalar) :
    RefusesNesting form (.validation nestedName (.notScalar name))

theorem isSome_scalarText_iff {value : Json} : (scalarText value).isSome ↔ value.IsScalar := by
  cases value <;> simp [scalarText, Json.IsScalar]

theorem isSome_memberTexts?_iff {members : List (String × Json)} :
    (memberTexts? members).isSome ↔ ∀ member ∈ members, member.2.IsScalar := by
  induction members with
  | nil => simp [memberTexts?]
  | cons member members ih =>
    rw [List.forall_mem_cons, ← isSome_scalarText_iff, ← ih, memberTexts?]
    cases scalarText member.2 <;> simp

theorem isSome_nested?_iff : form.nested?.isSome ↔ form.NestsScalars := by
  unfold nested? NestsScalars
  cases hheld : form.get? nestedName with
  | none => simp
  | some text =>
    cases hread : Json.read text with
    | error fault => simp [hread]
    | ok value => cases value <;> simp [isSome_memberTexts?_iff, hread]

/-- The first member that is no scalar is refused. -/
theorem addNested_of_not_isScalar {before after : List (String × Json)} {name : String} {value : Json}
    (hbefore : ∀ member ∈ before, member.2.IsScalar) (hvalue : ¬ value.IsScalar) (fields : List (String × String)) :
    addNested (before ++ (name, value) :: after) fields = .error (.validation nestedName (.notScalar name)) := by
  induction before generalizing fields with
  | nil =>
    rw [← isSome_scalarText_iff, Option.not_isSome_iff_eq_none] at hvalue
    simp only [List.nil_append, addNested, hvalue]
  | cons member before ih =>
    rw [List.forall_mem_cons, ← isSome_scalarText_iff] at hbefore
    obtain ⟨text, htext⟩ := Option.isSome_iff_exists.mp hbefore.1
    simp only [List.cons_append, addNested, htext]
    exact ih hbefore.2 _

theorem expand_of_refusesNesting (h : form.RefusesNesting fault) : form.expand = .error fault := by
  cases h with
  | invalidJson hheld hread => simp only [expand, hheld, hread]
  | @notObject text value hheld hread hobject =>
    cases value with
    | object members => exact absurd rfl (hobject members)
    | _ => simp only [expand, hheld, hread]
  | notScalar hheld hread hbefore hvalue =>
    simp only [expand, hheld, hread, addNested_of_not_isScalar hbefore hvalue]

theorem nestsScalars_or_refusesNesting (form : Form) : form.NestsScalars ∨ ∃ fault, form.RefusesNesting fault := by
  cases hheld : form.get? nestedName with
  | none => exact Or.inl (Or.inl hheld)
  | some text =>
    cases hread : Json.read text with
    | error fault => exact Or.inr ⟨_, .invalidJson hheld hread⟩
    | ok value =>
      by_cases hobject : ∃ members, value = .object members
      · obtain ⟨members, rfl⟩ := hobject
        by_cases hscalar : ∀ member ∈ members, member.2.IsScalar
        · exact Or.inl (Or.inr ⟨text, members, hheld, hread, hscalar⟩)
        · obtain ⟨before, ⟨name, value⟩, after, rfl, hbefore, hvalue⟩ := exists_first_not hscalar
          exact Or.inr ⟨_, .notScalar hheld hread hbefore hvalue⟩
      · exact Or.inr ⟨_, .notObject hheld hread (not_exists.mp hobject)⟩

/-! ## Reading all options -/

variable {fields : List (String × String)} {option : FormOption} {before after : List FormOption}
  {texts : FormOption → Option String}

/-- The text by which a form chooses an option, without the blanks around it. -/
def trimmed? (form : Form) (option : FormOption) : Option String :=
  (form.chosen option).map fun choice => trim choice.2

/-- The options that the texts of a form stand for. -/
def denoted (form : Form) : Options :=
  said form.trimmed?

/-- A form does not choose an option by a text that is not in its grammar. -/
def Accepts (form : Form) (option : FormOption) : Prop :=
  ∀ name text, form.chosen option = some (name, text) → option.Accepts form.denoted.family text

/-- A form chooses an option by a text that is refused. -/
def Refuses (form : Form) (option : FormOption) (fault : GenerationError) : Prop :=
  ∃ name text, form.chosen option = some (name, text) ∧ option.Refuses form.denoted.family name text fault

/-- Forms that stand for options. -/
structure Grammatical (form : Form) : Prop where
  nesting : form.NestsScalars
  accepts : ∀ option, form.Accepts option

theorem accepts_or_refuses (form : Form) (option : FormOption) :
    form.Accepts option ∨ ∃ fault, form.Refuses option fault := by
  cases hchosen : form.chosen option with
  | none =>
    refine Or.inl fun name text h => ?_
    rw [hchosen] at h
    cases h
  | some choice =>
    obtain ⟨name, text⟩ := choice
    rcases option.accepts_or_refuses form.denoted.family name text with haccepts | ⟨fault, hrefuses⟩
    · refine Or.inl fun found held h => ?_
      rw [hchosen] at h
      cases h
      exact haccepts
    · exact Or.inr ⟨fault, name, text, hchosen, hrefuses⟩

/-- Reads an option after others. -/
def readOption (fields : List (String × String)) (options : Options) (option : FormOption) :
    Except GenerationError Options :=
  readInto fields option options fun name text => option.read options name text

/-- All options are read in the same way, one after another. -/
theorem decode_eq_foldlM (fields : List (String × String)) :
    decode fields = FormOption.all.foldlM (readOption fields) {} := by
  rw [FormOption.all, List.foldlM_append, List.foldlM_map]
  simp only [List.foldlM_cons, List.foldlM_nil, bind_pure]
  rfl

/-- An option that is accepted is read as what its trimmed text says, or keeps its default without one. -/
theorem readOption_of_accepts (hchosen : effective? fields option = form.chosen option) (haccepts : form.Accepts option)
    (hnew : texts option = none) (hfamily : option = .algorithm → (said texts).family = form.denoted.family) :
    readOption fields (said texts) option = .ok (said (Function.update texts option (form.trimmed? option))) := by
  rw [readOption, readInto, hchosen, trimmed?]
  cases hchoice : form.chosen option with
  | none => rw [Option.map_none, ← hnew, Function.update_eq_self]
  | some choice => exact FormOption.read_of_accepts _ (haccepts _ _ hchoice) hnew hfamily

theorem readOption_of_refuses (hchosen : effective? fields option = form.chosen option)
    (hrefuses : form.Refuses option fault)
    (hfamily : option = .algorithm → (said texts).family = form.denoted.family) :
    readOption fields (said texts) option = .error fault := by
  obtain ⟨name, text, hchoice, hrefuses⟩ := hrefuses
  rw [readOption, readInto, hchosen, hchoice]
  exact FormOption.read_of_refuses hrefuses hfamily

/-- The trimmed texts of some options only. -/
def trimmedIn (form : Form) (before : List FormOption) (option : FormOption) : Option String :=
  if option ∈ before then form.trimmed? option else none

theorem trimmedIn_append_singleton (form : Form) (before : List FormOption) (option : FormOption) :
    form.trimmedIn (before ++ [option]) = Function.update (form.trimmedIn before) option (form.trimmed? option) := by
  funext other
  by_cases hother : other = option
  · simp [trimmedIn, hother]
  · simp [trimmedIn, hother]

theorem trimmedIn_all (form : Form) : form.trimmedIn FormOption.all = form.trimmed? := by
  funext option
  exact if_pos option.mem_all

/-- No option comes twice. -/
theorem trimmedIn_eq_none (h : FormOption.all = before ++ option :: after) : form.trimmedIn before option = none := by
  have hnodup : FormOption.all.Nodup := by decide
  rw [h, List.nodup_append] at hnodup
  exact if_neg fun hmem => hnodup.2.2 option hmem option List.mem_cons_self rfl

/-- The family is known before the algorithm is read. -/
theorem family_said_trimmedIn (h : FormOption.all = before ++ option :: after) (heq : option = .algorithm) :
    (said (form.trimmedIn before)).family = form.denoted.family := by
  have horder : FormOption.all.Pairwise fun first second => first = .algorithm → second ≠ .family := by decide
  have hall := FormOption.mem_all .family
  rw [h] at horder hall
  have hmem : FormOption.family ∈ before := by
    rcases List.mem_append.mp hall with hmem | hmem
    · exact hmem
    rcases List.mem_cons.mp hmem with hoption | hafter
    · rw [heq] at hoption
      cases hoption
    · exact absurd rfl ((List.pairwise_cons.mp (List.pairwise_append.mp horder).2.1).1 _ hafter heq)
  simp only [said, denoted, trimmedIn, if_pos hmem]

/-- As long as options are accepted, the options so far are what their texts say. -/
theorem foldlM_of_accepts (hchosen : ∀ option, effective? fields option = form.chosen option)
    (h : FormOption.all = before ++ after) (haccepts : ∀ option ∈ before, form.Accepts option) :
    before.foldlM (readOption fields) {} = .ok (said (form.trimmedIn before)) := by
  induction before using List.reverseRecOn generalizing after with
  | nil => rfl
  | append_singleton before option ih =>
    rw [List.append_assoc, List.singleton_append] at h
    have hbefore := ih h fun earlier hearlier => haccepts earlier (List.mem_append_left _ hearlier)
    have hoption := readOption_of_accepts (hchosen option) (haccepts option (by simp)) (trimmedIn_eq_none h)
      (family_said_trimmedIn h)
    rw [List.foldlM_append, hbefore, ok_bind, List.foldlM_cons, hoption, ok_bind, trimmedIn_append_singleton]
    rfl

theorem outcome_of_nestsScalars (h : form.NestsScalars) : ∃ fields,
    form.parse.outcome = FormOption.all.foldlM (readOption fields) {} ∧
      ∀ option, effective? fields option = form.chosen option := by
  obtain ⟨fields, hfields, hget⟩ := exists_expand_eq_ok (isSome_nested?_iff.mpr h)
  exact ⟨fields, by rw [outcome_parse, hfields, ok_bind, decode_eq_foldlM], effective?_eq_chosen hget⟩

/-- A form in the grammar stands for what all its texts say. -/
theorem outcome_of_grammatical (h : form.Grammatical) : form.parse.outcome = .ok form.denoted := by
  obtain ⟨fields, houtcome, hchosen⟩ := outcome_of_nestsScalars h.nesting
  rw [houtcome, foldlM_of_accepts hchosen (List.append_nil _).symm fun option _ => h.accepts option, trimmedIn_all]
  rfl

/-- A form that is not in the grammar is refused for the first thing that is not: for its nested fields, or else for
the first option that it chooses by a text that is not accepted. -/
inductive Refused (form : Form) : GenerationError → Prop where
  | nesting {fault : GenerationError} (h : form.RefusesNesting fault) : Refused form fault
  | option {before after : List FormOption} {option : FormOption} {fault : GenerationError}
      (hnesting : form.NestsScalars) (horder : FormOption.all = before ++ option :: after)
      (hbefore : ∀ earlier ∈ before, form.Accepts earlier) (h : form.Refuses option fault) : Refused form fault

theorem outcome_of_refused (h : form.Refused fault) : form.parse.outcome = .error fault := by
  cases h with
  | nesting h => rw [outcome_parse, expand_of_refusesNesting h, error_bind]
  | option hnesting horder hbefore h =>
    obtain ⟨fields, houtcome, hchosen⟩ := outcome_of_nestsScalars hnesting
    have hoption := readOption_of_refuses (hchosen _) h (family_said_trimmedIn horder)
    rw [houtcome, horder, List.foldlM_append, foldlM_of_accepts hchosen horder hbefore, ok_bind, List.foldlM_cons,
      hoption, error_bind]

theorem grammatical_or_refused (form : Form) : form.Grammatical ∨ ∃ fault, form.Refused fault := by
  rcases form.nestsScalars_or_refusesNesting with hnesting | ⟨fault, hrefuses⟩
  · by_cases haccepts : ∀ option ∈ FormOption.all, form.Accepts option
    · exact Or.inl ⟨hnesting, fun option => haccepts option option.mem_all⟩
    · obtain ⟨before, option, after, horder, hbefore, hoption⟩ := exists_first_not haccepts
      obtain ⟨fault, hrefuses⟩ := (form.accepts_or_refuses option).resolve_left hoption
      exact Or.inr ⟨fault, .option hnesting horder hbefore hrefuses⟩
  · exact Or.inr ⟨fault, .nesting hrefuses⟩

theorem outcome_eq_ok_iff {options : Options} :
    form.parse.outcome = .ok options ↔ form.Grammatical ∧ options = form.denoted := by
  constructor
  · intro h
    rcases form.grammatical_or_refused with hgrammatical | ⟨fault, hrefused⟩
    · rw [outcome_of_grammatical hgrammatical] at h
      exact ⟨hgrammatical, (Except.ok.inj h).symm⟩
    · rw [outcome_of_refused hrefused] at h
      cases h
  · rintro ⟨hgrammatical, rfl⟩
    exact outcome_of_grammatical hgrammatical

theorem outcome_eq_error_iff : form.parse.outcome = .error fault ↔ form.Refused fault := by
  refine ⟨fun h => ?_, outcome_of_refused⟩
  rcases form.grammatical_or_refused with hgrammatical | ⟨found, hrefused⟩
  · rw [outcome_of_grammatical hgrammatical] at h
    cases h
  · rw [outcome_of_refused hrefused] at h
    exact Except.error.inj h ▸ hrefused

/-- Fields that are neither for an option nor for nested fields do not count. -/
theorem outcome_congr_own {other : Form} (hnested : form.get? nestedName = other.get? nestedName)
    (h : ∀ option : FormOption, ∀ name ∈ option.names, form.get? name = other.get? name) :
    form.parse.outcome = other.parse.outcome := by
  have heq : form.nested? = other.nested? := nested?_congr hnested
  cases htable : form.nested? with
  | none => exact (outcome_of_nested?_eq_none htable hnested.symm).symm
  | some texts =>
    have hother : other.nested? = some texts := heq ▸ htable
    refine outcome_congr (by rw [htable]; rfl) (by rw [hother]; rfl) fun option => chosen_congr fun name hname => ?_
    rw [text?, text?, h option name hname, heq]

end Form

open Form

/-- A form is accepted exactly if it is in the grammar, and then stands for what its texts say.  Otherwise it is refused
for the first check that fails.  Neither own nor nested fields under other names than those of options count. -/
theorem parse_accepts_grammar :
    (∀ (form : Form) options, form.parse.outcome = .ok options ↔ form.Grammatical ∧ options = form.denoted) ∧
    (∀ (form : Form) fault, form.parse.outcome = .error fault ↔ form.Refused fault) ∧
    (∀ form other : Form, form.get? nestedName = other.get? nestedName →
      (∀ option : FormOption, ∀ name ∈ option.names, form.get? name = other.get? name) →
      form.parse.outcome = other.parse.outcome) ∧
    ∀ form other : Form, form.NestsScalars → other.NestsScalars →
      (∀ option : FormOption, ∀ name ∈ option.names, form.text? name = other.text? name) →
      form.parse.outcome = other.parse.outcome := by
  refine ⟨fun _ _ => outcome_eq_ok_iff, fun _ _ => outcome_eq_error_iff, fun _ _ => outcome_congr_own,
    fun form other hform hother h => ?_⟩
  exact outcome_congr (isSome_nested?_iff.mpr hform) (isSome_nested?_iff.mpr hother) fun option =>
    chosen_congr (h option)

/-- A degree that is nested and has a blank before it, a short name, a column that is none, and fields that do not
count. -/
theorem parse_accepts_nested_degree :
    let form := ofPairs [("algorithmFamily", "regression"), ("categoricalInput", "last"), ("note", "x"),
      ("options", "\x7b\"polynomialDegree\": \" 3\", \"remark\": 1\x7d"), ("selectedAlgorithm", "svr ")]
    let other := ofPairs [("algorithmFamily", "regression"), ("categoricalInput", "last"), ("polynomialDegree", " 3"),
      ("selectedAlgorithm", "svr ")]
    let options : Options :=
      { family := some .regression, algorithm := some .supportVectorRegression, polynomialDegree := 3 }
    form.Grammatical ∧ form.denoted = options ∧ form.parse.outcome = (form.insert "note" "y").parse.outcome ∧
      form.parse.outcome = other.parse.outcome := by
  intro form other options
  obtain ⟨hform, hdenoted⟩ := (parse_accepts_grammar.1 form options).mp (by decide +kernel)
  obtain ⟨hother, -⟩ := (parse_accepts_grammar.1 other options).mp (by decide)
  have hown : ∀ option ∈ FormOption.all, ∀ name ∈ option.names,
      form.get? name = (form.insert "note" "y").get? name := by
    decide
  have htext : ∀ option ∈ FormOption.all, ∀ name ∈ option.names, form.text? name = other.text? name := by
    decide +kernel
  exact ⟨hform, hdenoted.symm,
    parse_accepts_grammar.2.2.1 _ _ (by decide) fun option => hown option option.mem_all,
    parse_accepts_grammar.2.2.2 _ _ hform.nesting hother.nesting fun option => htext option option.mem_all⟩

/-- A blank leaves a family unset but is no truth value, and switches are read first. -/
example : (ofPairs [("algorithmCategory", " "), ("polynomialDegree", "9"), ("splitDataset", " ")]).parse.outcome =
    .error (.validation "splitDataset" (.notBoolean "")) := by
  decide +kernel

end TableScript
