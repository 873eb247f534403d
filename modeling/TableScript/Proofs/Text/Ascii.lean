import Mathlib.Data.List.Basic

/-!
# ASCII texts

The characters of an ASCII text are known by its bytes, which takes less computing than decoding them
(`toList_eq_charsOf`).  Statements about many texts that are given are decided after this change of form.
-/

namespace TableScript.Text

def byteList (s : String) : List UInt8 :=
  s.toByteArray.data.toList

/-- The characters of a text, which are its bytes if all of these are below 128. -/
def charsOf (s : String) : List Char :=
  if (byteList s).all (·.toNat < 128) then (byteList s).map fun byte => Char.ofNat byte.toNat else s.toList

theorem byteList_eq (s : String) : byteList s = s.toList.flatMap String.utf8EncodeChar := by
  rw [byteList, ← String.utf8Encode_toList, List.utf8Encode, List.toList_data_toByteArray]

/-- Bytes below 128 stand for themselves. -/
theorem utf8EncodeChar_of_lt {c : Char} (h : ∀ byte ∈ String.utf8EncodeChar c, byte.toNat < 128) :
    String.utf8EncodeChar c = [UInt8.ofNat c.toNat] ∧ c.toNat < 128 := by
  unfold String.utf8EncodeChar at h ⊢
  simp only [Char.toNat] at *
  split_ifs at h ⊢ with hone htwo hthree
  · exact ⟨rfl, by omega⟩
  -- the first of several bytes is not below 128
  all_goals
    simp only [List.forall_mem_cons, UInt8.toNat_ofNat'] at h
    omega

theorem map_ofNat_flatMap {cs : List Char} (h : ∀ byte ∈ cs.flatMap String.utf8EncodeChar, byte.toNat < 128) :
    (cs.flatMap String.utf8EncodeChar).map (fun byte => Char.ofNat byte.toNat) = cs := by
  induction cs with
  | nil => rfl
  | cons c cs ih =>
    rw [List.flatMap_cons, List.forall_mem_append] at h
    obtain ⟨hencode, hlt⟩ := utf8EncodeChar_of_lt h.1
    rw [List.flatMap_cons, hencode, List.singleton_append, List.map_cons, ih h.2, UInt8.toNat_ofNat',
      Nat.mod_eq_of_lt (by omega), Char.ofNat_toNat]

theorem toList_eq_charsOf (s : String) : s.toList = charsOf s := by
  rw [charsOf]
  split_ifs with h
  · rw [byteList_eq] at h ⊢
    exact (map_ofNat_flatMap fun byte hbyte => by simpa using List.all_eq_true.mp h byte hbyte).symm
  · rfl

end TableScript.Text
