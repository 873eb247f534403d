import TableScript.Proofs.Options.Reach

/-!
# Random states in scripts

A random state that options may have is written into the script as it is, but for the blanks around it.  It is then
`None` or digits behind a plus sign or none, of a number below 2^32.  The script's language takes such digits for an
integer unless they begin with a zero and are not all zeros, and the check of options lets these through
(`randomState_literal_iff`).
-/

namespace TableScript

namespace Literal

/-- The rest of an integer literal: characters that satisfy `p`, each behind an underscore or none. -/
def isIntegerRest (p : Char → Bool) : List Char → Bool
  | [] => true
  | '_' :: c :: cs => p c && isIntegerRest p cs
  | c :: cs => p c && isIntegerRest p cs

/-- A decimal integer literal: zeros only, or a digit other than zero and more digits. -/
def isInteger : List Char → Bool
  | [] => false
  | c :: cs => if c = '0' then isIntegerRest (· = '0') cs else c.isDigit && isIntegerRest Char.isDigit cs

/-- The value of a decimal integer literal. -/
def integer? (cs : List Char) : Option Nat :=
  if isInteger cs then Text.readDigits (cs.filter (· ≠ '_')) else none

/-- Digits that begin with a zero and are not all zeros. -/
def Padded (digits : List Char) : Prop :=
  digits.head? = some '0' ∧ ∃ c ∈ digits, c ≠ '0'

/-- Digits have no underscores. -/
theorem isIntegerRest_digits {digits : List Char} (h : ∀ c ∈ digits, c.isDigit) (p : Char → Bool) :
    isIntegerRest p digits = digits.all p := by
  induction digits with
  | nil => rfl
  | cons c digits ih =>
    rw [List.forall_mem_cons] at h
    have hc : c ≠ '_' := by
      rintro rfl
      exact absurd h.1 (by decide)
    rw [isIntegerRest.eq_3 _ _ _ fun _ _ he => absurd he hc, ih h.2, List.all_cons]

theorem isInteger_digits_iff {digits : List Char} (hne : digits ≠ []) (h : ∀ c ∈ digits, c.isDigit) :
    isInteger digits ↔ ¬ Padded digits := by
  obtain ⟨c, digits, rfl⟩ := List.exists_cons_of_ne_nil hne
  rw [List.forall_mem_cons] at h
  rw [isInteger, Padded, List.head?_cons, isIntegerRest_digits h.2, isIntegerRest_digits h.2]
  by_cases hc : c = '0'
  · simp [hc]
  · have hall : digits.all Char.isDigit = true := by simpa using h.2
    simp [hc, h.1, hall]

/-- The value of digits as a literal is the one that they are read with, if they are a literal. -/
theorem integer?_digits {digits : List Char} (hne : digits ≠ []) (h : ∀ c ∈ digits, c.isDigit) :
    (¬ Padded digits → integer? digits = Text.readDigits digits) ∧ (Padded digits → integer? digits = none) := by
  have hfilter : digits.filter (· ≠ '_') = digits := by
    rw [List.filter_eq_self]
    intro c hc
    have hne : c ≠ '_' := by
      rintro rfl
      exact absurd (h _ hc) (by decide)
    simpa using hne
  constructor
  · intro hp
    rw [integer?, if_pos ((isInteger_digits_iff hne h).2 hp), hfilter]
  · intro hp
    rw [integer?, if_neg fun hi => (isInteger_digits_iff hne h).1 hi hp]

end Literal

namespace Options

/-- The text without the plus sign in front of it. -/
def unsigned (text : String) : List Char :=
  if text.toList.head? = some '+' then text.toList.tail else text.toList

/-- `None`, or an integer literal behind a plus sign or none, of a number below 2^32. -/
def IsRandomStateLiteral (text : String) : Prop :=
  text = "None" ∨ ∃ value, Literal.integer? (unsigned text) = some value ∧ value < UInt32.size

theorem readUnsigned_eq_some_iff {bound value : Nat} {text : String} :
    Text.readUnsigned bound text = some value ↔ Text.readDigits (unsigned text) = some value ∧ value < bound := by
  rw [Text.readUnsigned, Option.filter_eq_some_iff, decide_eq_true_iff, unsigned]
  split
  · rename_i cs he
    rw [he, List.head?_cons, if_pos rfl, List.tail_cons]
  · rename_i hplus
    rw [if_neg]
    intro hhead
    obtain ⟨cs, hcs⟩ := List.head?_eq_some_iff.1 hhead
    exact hplus cs hcs

/-- An accepted random state is written as `None` or as a numeral of 32 bits. -/
theorem readUnsigned_randomState {options : Options} {family : Family}
    (h : RandomStateText (options.randomStateText family)) : options.randomState family = "None" ∨
      ∃ value, Text.readUnsigned UInt32.size (options.randomState family) = some value := by
  rw [randomState]
  rcases h with he | h
  · rw [if_pos he]
    exact Or.inr ⟨0, by decide⟩
  · have hne : Text.trim (options.randomStateText family) ≠ "" := by
      intro he
      rw [he] at h
      rcases h with h | ⟨_, h⟩
      · exact absurd h (by decide)
      · have hempty : Text.readUnsigned UInt32.size "" = none := by decide
        exact absurd (h.symm.trans hempty) (by simp)
    rw [if_neg hne]
    exact h

/-- Any text for a random state that is accepted is written without the blanks around it, as `None` or as digits behind
a plus sign or none, of a number below 2^32, which they are a literal for if they are not padded.  So what is written
is `None` or a signed literal exactly if it is not padded. -/
theorem randomState_literal_iff (options : Options) (family : Family) (field : String)
    (h : checkRandomState field (options.randomStateText family) = .ok ()) :
    (options.randomState family = "None" ∨ ∃ value,
      Text.readDigits (unsigned (options.randomState family)) = some value ∧ value < UInt32.size ∧
        (¬ Literal.Padded (unsigned (options.randomState family)) →
          Literal.integer? (unsigned (options.randomState family)) = some value)) ∧
    (IsRandomStateLiteral (options.randomState family) ↔
      ¬ Literal.Padded (unsigned (options.randomState family))) := by
  rcases readUnsigned_randomState (checkRandomState_eq_ok_iff.1 h) with he | ⟨value, hvalue⟩
  · have hpadded : ¬ Literal.Padded (unsigned "None") := by
      rintro ⟨hhead, -⟩
      exact absurd hhead (by decide)
    rw [he]
    exact ⟨Or.inl rfl, iff_of_true (Or.inl rfl) hpadded⟩
  · obtain ⟨hdigits, hlt⟩ := readUnsigned_eq_some_iff.1 hvalue
    obtain ⟨hne, hall⟩ := Text.isDigit_of_readDigits hdigits
    obtain ⟨hliteral, hnone⟩ := Literal.integer?_digits hne hall
    rw [hdigits] at hliteral
    refine ⟨Or.inr ⟨value, hdigits, hlt, hliteral⟩, ?_, fun hpadded => Or.inr ⟨value, hliteral hpadded, hlt⟩⟩
    rintro (he | ⟨other, hother, -⟩) hpadded
    · -- no digit is a letter
      rw [he] at hall
      exact absurd (hall 'N' (by decide)) (by decide)
    · rw [hnone hpadded] at hother
      cases hother

/-- The blanks around `+42` are not written, and it is a literal. -/
theorem randomState_blanks_around : IsRandomStateLiteral
    (randomState { ({} : Options) with classificationRandomState := " +42\t" } .classification) :=
  (randomState_literal_iff { ({} : Options) with classificationRandomState := " +42\t" } .classification
    "classification_random_state" (by decide)).2.2 (by rintro ⟨hhead, -⟩; exact absurd hhead (by decide))

/-- Not all accepted random states are literals: `007` is written as it is, which is none. -/
theorem not_randomState_literal : ¬ ∀ (options : Options) (family : Family) (field : String),
    checkRandomState field (options.randomStateText family) = .ok () →
      IsRandomStateLiteral (options.randomState family) := by
  intro h
  have hseven := h { ({} : Options) with classificationRandomState := "007" } .classification
    "classification_random_state" (by decide)
  rcases hseven with he | ⟨value, hvalue, -⟩
  · exact absurd he (by decide)
  · have hnone : Literal.integer? "007".toList = none := by decide
    exact absurd (hvalue.symm.trans hnone) (by simp)

end Options

end TableScript
