import TableScript.Options.Validate
import TableScript.Proofs.Outcome
import TableScript.Proofs.Text.Numeral
import TableScript.Script.Render

/-!
# The values in scripts

What the holes of fragments are filled with, and the characters these values have.  None of them has a control
character, whatever the name of the dataset's file is, and only that name can bring a brace along
(`Render.isControl_value`, `Render.brace_not_mem_value`).
-/

namespace TableScript

namespace Text

/-- A condition on the characters of a list is decided along the list, not over all characters there are. -/
instance (priority := 2000) decidableForallMem (p : Char → Prop) [DecidablePred p] (cs : List Char) :
    Decidable (∀ c ∈ cs, p c) :=
  List.decidableBAll p cs

theorem isControl_of_isAlphanum {c : Char} (h : c.isAlphanum) : isControl c = false := by
  change ((decide (c.val ≥ 'A'.val ∧ c.val ≤ 'Z'.val) || (decide (c.val ≥ 'a'.val) && decide (c.val ≤ 'z'.val))) ||
    (decide (c.val ≥ '0'.val) && decide (c.val ≤ '9'.val))) = true at h
  simp only [Bool.or_eq_true, Bool.and_eq_true, decide_eq_true_eq, ge_iff_le, UInt32.le_iff_toNat_le] at h
  change ((65 ≤ c.toNat ∧ c.toNat ≤ 90) ∨ (97 ≤ c.toNat ∧ c.toNat ≤ 122)) ∨ (48 ≤ c.toNat ∧ c.toNat ≤ 57) at h
  simp only [isControl, Bool.or_eq_false_iff, Bool.and_eq_false_iff, decide_eq_false_iff_not]
  omega

end Text

namespace Literal

private theorem isControl_hexDigit {n : Nat} (h : n < 16) : Text.isControl (Text.hexDigit n) = false :=
  (by decide : ∀ n < 16, Text.isControl (Text.hexDigit n) = false) n h

/-- The three ways to write a character: behind a backslash, by its number, or as it is. -/
theorem escapeChar_cases (c : Char) :
    (∃ d, Text.isControl d = false ∧ escapeChar c = ['\\', d]) ∨
    (c.toNat < 256 ∧ escapeChar c = ['\\', 'x'] ++ Text.hexByte c.toNat) ∨
    (c ≠ '\\' ∧ c ≠ '\'' ∧ Text.isControl c = false ∧ escapeChar c = [c]) := by
  unfold escapeChar
  split
  · exact Or.inl ⟨_, by decide, rfl⟩
  split
  · exact Or.inl ⟨_, by decide, rfl⟩
  split
  · exact Or.inl ⟨_, by decide, rfl⟩
  split
  · exact Or.inl ⟨_, by decide, rfl⟩
  split
  · exact Or.inl ⟨_, by decide, rfl⟩
  split
  · rename_i hc
    simp only [Text.isControl, Bool.or_eq_true, Bool.and_eq_true, decide_eq_true_eq] at hc
    exact Or.inr (Or.inl ⟨by omega, rfl⟩)
  · rename_i hslash hquote _ _ _ hc
    exact Or.inr (Or.inr ⟨hslash, hquote, by simpa using hc, rfl⟩)

theorem isControl_of_mem_escapeChar {c d : Char} (h : d ∈ escapeChar c) : Text.isControl d = false := by
  rcases escapeChar_cases c with ⟨e, he, hc⟩ | ⟨hlt, hc⟩ | ⟨-, -, hcontrol, hc⟩
  · rw [hc] at h
    simp only [List.mem_cons, List.not_mem_nil, or_false] at h
    rcases h with rfl | rfl
    · decide
    · exact he
  · rw [hc] at h
    simp only [Text.hexByte, List.cons_append, List.nil_append, List.mem_cons, List.not_mem_nil, or_false] at h
    rcases h with rfl | rfl | rfl | rfl
    · decide
    · decide
    · exact isControl_hexDigit (by omega)
    · exact isControl_hexDigit (by omega)
  · rw [hc] at h
    rwa [List.mem_singleton.1 h]

/-- A literal has no control characters. -/
theorem isControl_of_mem_chars {text : List Char} {c : Char} (h : c ∈ chars text) : Text.isControl c = false := by
  simp only [chars, List.mem_cons, List.mem_append, List.mem_flatMap, List.not_mem_nil, or_false] at h
  rcases h with rfl | ⟨d, -, h⟩ | rfl
  · decide
  · exact isControl_of_mem_escapeChar h
  · decide

end Literal

namespace Options

/-- The random state of the chosen family is one. -/
def HasRandomState (options : Options) : Prop :=
  ∀ family, options.family = some family → isRandomState (options.randomStateText family)

theorem hasRandomState_of_validate {options : Options} (h : options.validate = .ok ()) : options.HasRandomState := by
  have hcheck : ∀ field text, checkRandomState field text = .ok () → isRandomState text := by
    intro field text h
    unfold checkRandomState at h
    split at h
    · assumption
    · cases h
  intro family _
  unfold validate at h
  split at h
  · cases h
  · obtain ⟨_, -, h⟩ := bind_eq_ok_iff.1 h
    obtain ⟨_, hc, hr⟩ := bind_eq_ok_iff.1 h
    cases family with
    | classification => exact hcheck _ _ hc
    | regression => exact hcheck _ _ hr

/-- A random state is written as `None` or as digits behind a plus sign or none. -/
theorem randomState_shape {options : Options} {family : Family} (h : isRandomState (options.randomStateText family)) :
    options.randomState family = "None" ∨ ∃ digits, (digits ≠ [] ∧ ∀ c ∈ digits, c.isDigit) ∧
      ((options.randomState family).toList = digits ∨ (options.randomState family).toList = '+' :: digits) := by
  unfold isRandomState at h
  unfold randomState
  generalize Text.trim (options.randomStateText family) = text at h
  by_cases he : text = ""
  · subst he
    exact Or.inr ⟨['0'], by decide, Or.inl (by decide)⟩
  · simp only [he, ↓reduceIte]
    simp only [he, decide_false, Bool.false_or, Bool.or_eq_true, decide_eq_true_eq] at h
    rcases h with rfl | h
    · exact Or.inl rfl
    · obtain ⟨value, hv⟩ := Option.isSome_iff_exists.1 h
      exact Or.inr (Text.readUnsigned_shape hv)

end Options

namespace Render

/-- What a hole is filled with. -/
def value (options : Options) (dataset : Dataset) (scope : Scope) : Parameter → String
  | .fileLiteral => Literal.write dataset.fileName
  | .column => Text.decimal options.column
  | .xFit => (if scope.isSplit then Symbol.xTrain else .x).name
  | .yFit => (if scope.isSplit then Symbol.yTrain else .y).name
  | .xEval => (if scope.isSplit then Symbol.xTest else .x).name
  | .yEval => (if scope.isSplit then Symbol.yTest else .y).name
  | .randomState => (options.family.map options.randomState).getD "0"
  | .criterion => options.criterion.name
  | .degree => Text.decimal options.polynomialDegree.toNat

/-- The parameters of estimators and metrics. -/
def modelParameters : List Parameter :=
  [.xFit, .yFit, .xEval, .yEval, .randomState, .criterion, .degree]

theorem modelBindings_eq {options : Options} {family : Family} (h : options.family = some family) (dataset : Dataset)
    (scope : Scope) : modelBindings options family scope =
      modelParameters.map fun parameter => (parameter.name, value options dataset scope parameter) := by
  simp only [modelBindings, modelParameters, List.map_cons, List.map_nil, value, h, Option.map_some, Option.getD_some]
  split <;> rfl

variable {options : Options} {dataset : Dataset} {scope : Scope}

/-- The words among the values: variables, criteria and the random state that is none. -/
def words : List String :=
  "None" :: Symbol.all.map Symbol.name ++ Criterion.all.map Criterion.name

/-- All values but the literal are words or numerals, the latter behind a plus sign or none. -/
theorem value_shape (h : options.HasRandomState) {parameter : Parameter} (hp : parameter ≠ .fileLiteral) :
    value options dataset scope parameter ∈ words ∨ ∃ digits, (digits ≠ [] ∧ ∀ c ∈ digits, c.isDigit) ∧
      ((value options dataset scope parameter).toList = digits ∨
        (value options dataset scope parameter).toList = '+' :: digits) := by
  have hsymbol : ∀ symbol : Symbol, symbol.name ∈ words := by
    intro symbol
    cases symbol <;> simp [words, Symbol.all]
  have hcriterion : ∀ criterion : Criterion, criterion.name ∈ words := by
    intro criterion
    cases criterion <;> simp [words, Criterion.all]
  have hdecimal : ∀ n, (Text.decimal n).toList = Text.decimalChars n := fun n => String.toList_ofList
  cases parameter with
  | fileLiteral => exact absurd rfl hp
  | column | degree =>
    exact Or.inr ⟨_, ⟨Text.decimalChars_ne_nil _, Text.isDigit_of_mem_decimalChars _⟩, Or.inl (hdecimal _)⟩
  | xFit | yFit | xEval | yEval => exact Or.inl (hsymbol _)
  | criterion => exact Or.inl (hcriterion _)
  | randomState =>
    cases hf : options.family with
    | none =>
      simp only [value, hf, Option.map_none, Option.getD_none]
      exact Or.inr ⟨['0'], by decide, Or.inl (by decide)⟩
    | some family =>
      simp only [value, hf, Option.map_some, Option.getD_some]
      rcases Options.randomState_shape (h family hf) with he | hdigits
      · rw [he]
        exact Or.inl (List.mem_cons_self ..)
      · exact Or.inr hdigits

/-- All values but the literal are letters, digits, underscores and plus signs. -/
theorem value_chars (h : options.HasRandomState) {parameter : Parameter} (hp : parameter ≠ .fileLiteral) :
    ∀ c ∈ (value options dataset scope parameter).toList, c.isAlphanum ∨ c = '_' ∨ c = '+' := by
  have hwords : ∀ word ∈ words, ∀ c ∈ word.toList, c.isAlphanum ∨ c = '_' ∨ c = '+' := by decide
  have hdigit : ∀ c : Char, c.isDigit → c.isAlphanum ∨ c = '_' ∨ c = '+' := fun c hc => by
    simp [Char.isAlphanum, hc]
  have hshape : value options dataset scope parameter ∈ words ∨ _ := value_shape h hp
  rcases hshape with hw | ⟨digits, ⟨-, hd⟩, he | he⟩
  · exact hwords _ hw
  · rw [he]
    exact fun c hc => hdigit c (hd c hc)
  · rw [he]
    intro c hc
    rcases List.mem_cons.1 hc with rfl | hc
    · simp
    · exact hdigit c (hd c hc)

theorem isControl_value (h : options.HasRandomState) (parameter : Parameter) :
    ∀ c ∈ (value options dataset scope parameter).toList, Text.isControl c = false := by
  by_cases hp : parameter = .fileLiteral
  · subst hp
    intro c hc
    rw [value, Literal.write, String.toList_ofList] at hc
    exact Literal.isControl_of_mem_chars hc
  · intro c hc
    rcases value_chars h hp c hc with hc | rfl | rfl
    · exact Text.isControl_of_isAlphanum hc
    · decide
    · decide

theorem brace_not_mem_value (h : options.HasRandomState) {parameter : Parameter} (hp : parameter ≠ .fileLiteral) :
    '{' ∉ (value options dataset scope parameter).toList := fun hc =>
  absurd (value_chars h hp _ hc) (by decide)

end Render

end TableScript
