import TableScript.Proofs.Json.ReadBack
import TableScript.Proofs.Text.Numeral

/-!
# Reading numbers and truth values back

An integer is written in decimal (`compact_integer`), and read back as long as it has 64 bits, with or without a sign,
where nothing follows that could belong to it (`readsAs_integer`).
-/

namespace TableScript.Json

open Text (decimalChars digitValue?)

/-! ## Digits -/

/-- The digits of a number in range are taken as the number. -/
theorem takeDigits_decimalChars {n : Nat} (h : n ≤ maxSignificand) (count : Nat) (rest : List Char) :
    takeDigits 0 count (decimalChars n ++ rest) = takeDigits n (count + (decimalChars n).length) rest := by
  induction n using Text.decimalChars.induct generalizing rest with
  | case1 n hn =>
    rw [decimalChars, if_pos hn, List.singleton_append, takeDigits]
    simp only [Text.digitValue?_digitChar hn, Nat.zero_mul, Nat.zero_add, if_pos h, List.length_singleton]
  | case2 n hn ih =>
    have hdigit := Text.digitValue?_digitChar (Nat.mod_lt n (by omega : 0 < 10))
    have hn' : n / 10 * 10 + n % 10 = n := by omega
    rw [decimalChars, if_neg hn, List.append_assoc, ih (by omega), List.singleton_append, takeDigits]
    simp only [hdigit, hn', if_pos h, List.length_append, List.length_singleton, Nat.add_assoc]

/-- A numeral begins with a digit, which is zero for the number zero only. -/
theorem exists_decimalChars_eq_cons (n : Nat) :
    ∃ c cs, decimalChars n = c :: cs ∧ isDigit c ∧ (c = '0' → n = 0) := by
  obtain ⟨c, cs, hcs⟩ := List.exists_cons_of_ne_nil (Text.decimalChars_ne_nil n)
  have hc : c.isDigit := Text.isDigit_of_mem_decimalChars n c (by simp [hcs])
  refine ⟨c, cs, hcs, ?_, ?_⟩
  · rw [Text.isDigit_iff] at hc
    simp [isDigit, digitValue?, hc]
  · rintro rfl
    exact Text.eq_zero_of_head?_decimalChars (by rw [hcs, List.head?_cons])

/-- Nothing that comes next could belong to a number. -/
def EndsNumber (rest : List Char) : Prop :=
  ∀ c ∈ rest.head?, isDigit c = false ∧ c ≠ '.' ∧ c ≠ 'e' ∧ c ≠ 'E'

theorem endsNumber_cons {c : Char} (hc : c ∈ [',', ']', '}', '\n']) (rest : List Char) : EndsNumber (c :: rest) := by
  rintro _ ⟨⟩
  simp only [List.mem_cons, List.not_mem_nil, or_false] at hc
  rcases hc with rfl | rfl | rfl | rfl <;> decide

theorem endsNumber_nil : EndsNumber [] := by
  rintro _ ⟨⟩

/-- A number in range is read from its digits when nothing that comes next could belong to it. -/
theorem readNumber_decimalChars (negative : Bool) {n : Nat} (h : n ≤ maxSignificand) {rest : List Char}
    (hrest : EndsNumber rest) :
    readNumber negative (decimalChars n ++ rest) = .ok (integerLiteral negative n, rest) := by
  by_cases hn : n = 0
  · -- a leading zero is read in a case of its own
    subst hn
    cases rest with
    | nil => simp [decimalChars, readNumber]
    | cons c rest =>
      obtain ⟨hdigit, hpoint, hlower, hupper⟩ := hrest c rfl
      simp [decimalChars, readNumber, hdigit, hpoint, hlower, hupper]
  · obtain ⟨d, ds, hds, hd, hzero⟩ := exists_decimalChars_eq_cons n
    have htake : takeDigits 0 0 (d :: (ds ++ rest)) = (n, 0 + (decimalChars n).length, rest) := by
      rw [← List.cons_append, ← hds, takeDigits_decimalChars h]
      cases rest with
      | nil => rfl
      | cons c rest =>
        have hvalue : digitValue? c = none := by simpa [isDigit] using (hrest c rfl).1
        rw [takeDigits, hvalue]
    rw [hds, List.cons_append]
    unfold readNumber
    split
    · contradiction
    · rename_i heq
      exact absurd (hzero (List.cons.inj heq).1) hn
    · rename_i heq
      obtain ⟨rfl, rfl⟩ := List.cons.inj heq
      simp only [hd, htake, Bool.not_true, Bool.false_eq_true, ↓reduceIte]
      cases rest with
      | nil => rfl
      | cons c rest =>
        obtain ⟨hdigit, hpoint, hlower, hupper⟩ := hrest c rfl
        simp [hdigit, hpoint, hlower, hupper]

/-! ## Values -/

theorem isSpace_of_isDigit {c : Char} (hc : isDigit c) : isSpace c = false := by
  by_contra h
  simp only [isSpace, Bool.not_eq_false, Bool.or_eq_true, decide_eq_true_eq] at h
  rcases h with ((rfl | rfl) | rfl) | rfl <;> exact absurd hc (by decide)

/-- What begins with a digit is read as a number. -/
theorem readValueWith_of_isDigit (bound : Nat) (nested : Option (List Char → Step Json)) {c : Char} (hc : isDigit c)
    (rest : List Char) : readValueWith bound nested (c :: rest) = readNumber false (c :: rest) := by
  rw [readValueWith, skipSpace_cons (isSpace_of_isDigit hc)]
  -- of all the cases only the last is about digits
  split
  case h_1 heq => cases heq
  case h_9 heq =>
    obtain ⟨rfl, rfl⟩ := List.cons.inj heq
    rw [if_pos hc]
  all_goals
    rename_i heq
    cases heq
    exact absurd hc (by decide)

/-- Integers of 64 bits are read from their text. -/
theorem readsAs_integer (bound : Nat) (nested : Option (List Char → Step Json)) {value : Int}
    (hmin : Int64.minValue.toInt ≤ value) (hmax : value < UInt64.size) :
    ReadsAs (readValueWith bound nested) EndsNumber (integerChars value) (.integer value) := by
  intro rest hrest
  have hrange : value.natAbs ≤ maxSignificand := by
    have hlow : -9223372036854775808 ≤ value := hmin
    have hhigh : value < 18446744073709551616 := hmax
    change value.natAbs ≤ 18446744073709551615
    omega
  simp only [integerChars]
  split_ifs with hnegative
  · have hliteral : integerLiteral true value.natAbs = .integer value := by
      have hzero : value.natAbs ≠ 0 := by omega
      have hvalue : -(value.natAbs : Int) = value := by omega
      have hsmall : ¬ value < Int64.minValue.toInt := Int.not_lt.mpr hmin
      simp only [integerLiteral, hvalue, hzero, hsmall, Bool.not_true, Bool.false_eq_true, or_self, if_false]
    rw [List.cons_append, readValueWith, skipSpace_cons (by decide)]
    simp only [readNumber_decimalChars true hrange hrest, hliteral]
  · have hliteral : integerLiteral false value.natAbs = .integer value := by
      have hvalue : (value.natAbs : Int) = value := by omega
      simp [integerLiteral, hvalue]
    obtain ⟨d, ds, hds, hd, -⟩ := exists_decimalChars_eq_cons value.natAbs
    rw [hds, List.cons_append, readValueWith_of_isDigit bound nested hd, ← List.cons_append, ← hds,
      readNumber_decimalChars false hrange hrest, hliteral]

theorem readsAs_bool (bound : Nat) (nested : Option (List Char → Step Json)) (ends : List Char → Prop)
    (value : Bool) : ReadsAs (readValueWith bound nested) ends (leafChars (.bool value)) (.bool value) := by
  intro rest _
  cases value <;> rfl

/-- What is read up to the end of a number is read up to a comma or a closing brace. -/
theorem readsBack_of_readsAs {read : List Char → Step Json} {value : Json}
    (h : ReadsAs read EndsNumber (compactChars value) value) : ReadsBack read value := by
  intro c hc rest
  refine h (c :: rest) (endsNumber_cons ?_ rest)
  rcases List.mem_pair.mp hc with rfl | rfl <;> simp

/-- Integers of 64 bits are read back. -/
theorem readsBack_integer (bound : Nat) (nested : Option (List Char → Step Json)) {value : Int}
    (hmin : Int64.minValue.toInt ≤ value) (hmax : value < UInt64.size) :
    ReadsBack (readValueWith bound nested) (.integer value) :=
  readsBack_of_readsAs (readsAs_integer bound nested hmin hmax)

theorem readsBack_bool (bound : Nat) (nested : Option (List Char → Step Json)) (value : Bool) :
    ReadsBack (readValueWith bound nested) (.bool value) :=
  readsBack_of_readsAs (readsAs_bool bound nested EndsNumber value)

/-- An integer is written as its numeral. -/
theorem compact_integer (value : Int) : (Json.integer value).compact = toString value := by
  have hdigits : decimalChars value.natAbs = Nat.toDigits 10 value.natAbs := Text.decimalChars_eq_toDigits _
  simp only [compact, compactChars, leafChars, integerChars, hdigits]
  rw [Int.toString_eq_repr, Int.repr_eq_if]
  split_ifs with hneg hpos hpos
  · omega
  · have hnat : (-value).toNat = value.natAbs := by omega
    rw [hnat, Nat.repr_eq_ofList_toDigits, ← List.singleton_append, String.ofList_append]
  · have hnat : value.toNat = value.natAbs := by omega
    rw [hnat, Nat.repr_eq_ofList_toDigits]
  · omega

end TableScript.Json
