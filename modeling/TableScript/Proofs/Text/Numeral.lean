import TableScript.Text.Blank
import TableScript.Proofs.Text.Trimming
import TableScript.Text.Numeral

/-!
# Reading numerals

Numerals are digits and nothing else, but for a plus sign in front (`readUnsigned_shape`).  The decimal numeral of a
number is its usual one (`decimal_eq_toString`), and the number is read back from it (`readUnsigned_decimal`).
-/

namespace TableScript.Text

/-! ## Digits -/

theorem isDigit_iff {c : Char} : c.isDigit = true ↔ '0' ≤ c ∧ c ≤ '9' := by
  simp [Char.isDigit, Char.le_def]

theorem isDigit_of_readDigitsFrom {acc value : Nat} {cs : List Char} (h : readDigitsFrom acc cs = some value) :
    ∀ c ∈ cs, c.isDigit := by
  induction cs generalizing acc with
  | nil => simp
  | cons c cs ih =>
    rw [readDigitsFrom] at h
    cases hd : digitValue? c with
    | none => simp [hd] at h
    | some d =>
      have hc : c.isDigit := by
        unfold digitValue? at hd
        split at hd
        · rename_i hc
          exact isDigit_iff.2 hc
        · cases hd
      simp only [hd] at h
      exact List.forall_mem_cons.2 ⟨hc, ih h⟩

/-- What is read as digits is digits, at least one. -/
theorem isDigit_of_readDigits {value : Nat} {cs : List Char} (h : readDigits cs = some value) :
    cs ≠ [] ∧ ∀ c ∈ cs, c.isDigit := by
  cases cs with
  | nil => simp [readDigits] at h
  | cons c cs => exact ⟨by simp, isDigit_of_readDigitsFrom h⟩

/-- An unsigned numeral is digits behind a plus sign or none. -/
theorem readUnsigned_shape {bound value : Nat} {s : String} (h : readUnsigned bound s = some value) :
    ∃ digits, (digits ≠ [] ∧ ∀ c ∈ digits, c.isDigit) ∧ (s.toList = digits ∨ s.toList = '+' :: digits) := by
  rw [readUnsigned, Option.filter_eq_some_iff] at h
  obtain ⟨h, -⟩ := h
  split at h
  · rename_i cs he
    exact ⟨cs, isDigit_of_readDigits h, Or.inr he⟩
  · exact ⟨s.toList, isDigit_of_readDigits h, Or.inl rfl⟩

private theorem isDigit_ofNat {n : Nat} (h : n < 10) : (Char.ofNat ('0'.toNat + n)).isDigit :=
  (by decide : ∀ n < 10, (Char.ofNat ('0'.toNat + n)).isDigit) n h

theorem isDigit_of_mem_decimalChars (n : Nat) : ∀ c ∈ decimalChars n, c.isDigit := by
  induction n using decimalChars.induct with
  | case1 n h =>
    rw [decimalChars, if_pos h]
    simpa using isDigit_ofNat h
  | case2 n h ih =>
    rw [decimalChars, if_neg h]
    intro c hc
    rcases List.mem_append.1 hc with hc | hc
    · exact ih c hc
    · rw [List.mem_singleton.1 hc]
      exact isDigit_ofNat (Nat.mod_lt n (by decide))

theorem decimalChars_ne_nil (n : Nat) : decimalChars n ≠ [] := by
  rw [decimalChars]
  split <;> simp

/-- Only the numeral of zero begins with a zero. -/
theorem eq_zero_of_head?_decimalChars {n : Nat} (h : (decimalChars n).head? = some '0') : n = 0 := by
  induction n using decimalChars.induct with
  | case1 n hn =>
    rw [decimalChars, if_pos hn, List.head?_cons, Option.some.injEq] at h
    exact (by decide : ∀ n < 10, Char.ofNat ('0'.toNat + n) = '0' → n = 0) n hn h
  | case2 n hn ih =>
    rw [decimalChars, if_neg hn, List.head?_append_of_ne_nil _ (decimalChars_ne_nil _)] at h
    have := ih h
    omega

/-! ## Reading back -/

private theorem ofNat_eq_digitChar {n : Nat} (h : n < 10) : Char.ofNat ('0'.toNat + n) = Nat.digitChar n :=
  (by decide : ∀ n < 10, Char.ofNat ('0'.toNat + n) = Nat.digitChar n) n h

/-- The decimal digits of a number are those that the library writes. -/
theorem decimalChars_eq_toDigits (n : Nat) : decimalChars n = Nat.toDigits 10 n := by
  induction n using decimalChars.induct with
  | case1 n h => rw [decimalChars, if_pos h, Nat.toDigits_of_lt_base h, ofNat_eq_digitChar h]
  | case2 n h ih =>
    rw [decimalChars, if_neg h, Nat.toDigits_of_base_le (by omega) (by omega), ih,
      ofNat_eq_digitChar (Nat.mod_lt n (by omega))]

theorem decimal_eq_toString (n : Nat) : decimal n = toString n := by
  rw [decimal, decimalChars_eq_toDigits, Nat.toString_eq_ofList_toDigits]

theorem digitValue?_digitChar {n : Nat} (h : n < 10) : digitValue? (Char.ofNat ('0'.toNat + n)) = some n :=
  (by decide : ∀ n < 10, digitValue? (Char.ofNat ('0'.toNat + n)) = some n) n h

/-- Reading goes on after the digits of a number with the number. -/
theorem readDigitsFrom_decimalChars_append (n : Nat) (rest : List Char) :
    readDigitsFrom 0 (decimalChars n ++ rest) = readDigitsFrom n rest := by
  induction n using decimalChars.induct generalizing rest with
  | case1 n h =>
    rw [decimalChars, if_pos h, List.singleton_append, readDigitsFrom, digitValue?_digitChar h]
    simp
  | case2 n h ih =>
    rw [decimalChars, if_neg h, List.append_assoc, ih, List.singleton_append, readDigitsFrom,
      digitValue?_digitChar (Nat.mod_lt n (by omega))]
    simp only [Nat.div_add_mod]

theorem readDigits_decimalChars (n : Nat) : readDigits (decimalChars n) = some n := by
  have hread := readDigitsFrom_decimalChars_append n []
  rw [List.append_nil, readDigitsFrom] at hread
  unfold readDigits
  split
  · rename_i hnil
    exact absurd hnil (decimalChars_ne_nil n)
  · exact hread

/-- A number below the bound is read back from its numeral. -/
theorem readUnsigned_decimal {bound n : Nat} (h : n < bound) : readUnsigned bound (decimal n) = some n := by
  have hdigits := readDigits_decimalChars n
  rw [readUnsigned, decimal, String.toList_ofList]
  split
  · -- no digit is a plus sign
    rename_i cs heq
    exact absurd (isDigit_of_mem_decimalChars n '+' (by simp [heq])) (by decide)
  · simp [hdigits, h]

theorem isBlankChar_of_isDigit {c : Char} (h : c.isDigit) : isBlankChar c = false := by
  rw [isDigit_iff, Char.le_def, Char.le_def, UInt32.le_iff_toNat_le, UInt32.le_iff_toNat_le] at h
  change 48 ≤ c.toNat ∧ c.toNat ≤ 57 at h
  simp only [isBlankChar, Bool.or_eq_false_iff, Bool.and_eq_false_iff, decide_eq_false_iff_not, beq_eq_false_iff_ne]
  omega

@[simp] theorem trim_decimal (n : Nat) : trim (decimal n) = decimal n := by
  refine trim_eq_self fun c hc => ?_
  rw [decimal, String.toList_ofList] at hc
  exact isBlankChar_of_isDigit (isDigit_of_mem_decimalChars n c hc)

end TableScript.Text
