import Mathlib.Data.List.DropRight
import TableScript.Text.Blank

/-!
# Trimming

A text that has been trimmed stays as it is when it is trimmed again, and so does a text with nothing to drop at either
end.  What is put around a text to be dropped is dropped (`trimWhile_around`).
-/

namespace TableScript.Text

theorem trimWhile_eq (p : Char → Bool) (cs : List Char) : trimWhile p cs = (cs.dropWhile p).rdropWhile p := rfl

/-- What is dropped from the end leaves the first character in place. -/
private theorem dropWhile_rdropWhile_dropWhile (p : Char → Bool) (cs : List Char) :
    ((cs.dropWhile p).rdropWhile p).dropWhile p = (cs.dropWhile p).rdropWhile p := by
  rw [List.dropWhile_eq_self_iff]
  intro hlength
  have hfront := List.rdropWhile_prefix p (l := cs.dropWhile p)
  rw [hfront.getElem hlength]
  exact List.dropWhile_get_zero_not _ _ (Nat.lt_of_lt_of_le hlength hfront.length_le)

theorem trimWhile_trimWhile (p : Char → Bool) (cs : List Char) : trimWhile p (trimWhile p cs) = trimWhile p cs := by
  rw [trimWhile_eq, trimWhile_eq, dropWhile_rdropWhile_dropWhile, List.rdropWhile_idempotent]

@[simp] theorem trim_trim (s : String) : trim (trim s) = trim s := by
  simp only [trim, trimChars, String.toList_ofList, trimWhile_trimWhile]

variable {p : Char → Bool} {cs before after : List Char}

/-! ## The end of a text -/

theorem dropEndWhile_eq (p : Char → Bool) (cs : List Char) : dropEndWhile p cs = cs.rdropWhile p := rfl

theorem exists_dropEndWhile_append (p : Char → Bool) (cs : List Char) :
    ∃ dropped, cs = dropEndWhile p cs ++ dropped ∧ ∀ c ∈ dropped, p c = true :=
  ⟨cs.rtakeWhile p, List.rdropWhile_append_rtakeWhile.symm, fun _ hc => List.mem_rtakeWhile_imp hc⟩

theorem getLast?_dropEndWhile {c : Char} (h : c ∈ (dropEndWhile p cs).getLast?) : p c = false := by
  obtain ⟨hne, rfl⟩ := List.mem_getLast?_eq_getLast h
  exact eq_false_of_ne_true (List.rdropWhile_last_not p cs hne)

theorem dropEndWhile_eq_self (h : ∀ c ∈ cs.getLast?, p c = false) : dropEndWhile p cs = cs := by
  rw [dropEndWhile_eq, List.rdropWhile_eq_self_iff]
  intro hne
  simp [h _ (List.getLast_mem_getLast? hne)]

/-! ## Both ends -/

/-- Neither the first nor the last of some characters satisfies `p`. -/
structure NoneAround (p : Char → Bool) (cs : List Char) : Prop where
  first : ∀ c ∈ cs.head?, p c = false
  last : ∀ c ∈ cs.getLast?, p c = false

instance (p : Char → Bool) (cs : List Char) : Decidable (NoneAround p cs) :=
  decidable_of_iff (cs.head?.all (!p ·) = true ∧ cs.getLast?.all (!p ·) = true)
    ⟨fun ⟨hfirst, hlast⟩ => ⟨by simpa [Option.all_eq_true] using hfirst, by simpa [Option.all_eq_true] using hlast⟩,
      fun h => ⟨by simpa [Option.all_eq_true] using h.first, by simpa [Option.all_eq_true] using h.last⟩⟩

theorem NoneAround.reverse (h : NoneAround p cs) : NoneAround p cs.reverse :=
  ⟨by rw [List.head?_reverse]; exact h.last, by rw [List.getLast?_reverse]; exact h.first⟩

theorem NoneAround.dropWhile_eq_self (h : NoneAround p cs) : cs.dropWhile p = cs := by
  rw [List.dropWhile_eq_self_iff]
  intro hlength
  simp [h.first cs[0] (by simp [List.head?_eq_getElem?, hlength])]

theorem NoneAround.trimWhile_eq_self (h : NoneAround p cs) : trimWhile p cs = cs := by
  rw [trimWhile, h.dropWhile_eq_self, dropEndWhile, h.reverse.dropWhile_eq_self, List.reverse_reverse]

/-- A text without blanks has none to drop. -/
theorem trim_eq_self {s : String} (h : ∀ c ∈ s.toList, isBlankChar c = false) : trim s = s := by
  have haround : NoneAround isBlankChar s.toList :=
    ⟨fun c hc => h c (List.mem_of_mem_head? hc), fun c hc => h c (List.mem_of_mem_getLast? hc)⟩
  rw [trim, trimChars, haround.trimWhile_eq_self, String.ofList_toList]

theorem trimWhile_append_left (h : ∀ c ∈ before, p c = true) (cs : List Char) :
    trimWhile p (before ++ cs) = trimWhile p cs := by
  rw [trimWhile, List.dropWhile_append_of_pos h, trimWhile]

theorem trimWhile_append_right (h : ∀ c ∈ after, p c = true) (cs : List Char) :
    trimWhile p (cs ++ after) = trimWhile p cs := by
  rw [trimWhile, trimWhile, List.dropWhile_append]
  split_ifs with hempty
  · -- nothing is left of either
    rw [List.isEmpty_iff.mp hempty, List.dropWhile_eq_nil_iff.mpr h]
  · have hreverse : ∀ c ∈ after.reverse, p c = true := fun c hc => h c (List.mem_reverse.mp hc)
    rw [dropEndWhile, dropEndWhile, List.reverse_append, List.dropWhile_append_of_pos hreverse]

/-- Behind what has nothing to drop at either end, only the end of what follows is dropped. -/
theorem trimWhile_append (h : NoneAround p cs) (hne : cs ≠ []) (after : List Char) :
    trimWhile p (cs ++ after) = cs ++ dropEndWhile p after := by
  have hfront : (cs ++ after).dropWhile p = cs ++ after := by
    rw [List.dropWhile_append, h.dropWhile_eq_self, if_neg (by simpa using hne)]
  rw [trimWhile, hfront, dropEndWhile, dropEndWhile, List.reverse_append, List.dropWhile_append]
  split_ifs with hempty
  · rw [h.reverse.dropWhile_eq_self, List.reverse_reverse, List.isEmpty_iff.1 hempty, List.reverse_nil,
      List.append_nil]
  · rw [List.reverse_append, List.reverse_reverse]

/-- What satisfies `p` throughout is dropped around what has it neither first nor last. -/
theorem trimWhile_around (hbefore : ∀ c ∈ before, p c = true) (hafter : ∀ c ∈ after, p c = true)
    (h : NoneAround p cs) : trimWhile p (before ++ cs ++ after) = cs := by
  rw [trimWhile_append_right hafter, trimWhile_append_left hbefore, h.trimWhile_eq_self]

end TableScript.Text
