import TableScript.Configuration.Reading
import TableScript.Proofs.Dict
import TableScript.Proofs.Outcome

/-!
# Reading sections into records

A section is read into a record field by field.  If the fields can be told apart by their keys, a table whose known
members can all be read gives a record, and each field of it is what its member is read as, or what it was before if it
has no member (`Record.exists_toSection`).
-/

namespace TableScript

/-- A record whose fields have keys in a section and are read from the settings there. -/
structure Record (σ : Type) where
  Field : Type
  Value : Field → Type
  fields : List Field
  key : Field → String
  read : (field : Field) → String → Setting → Except ConfigurationFault (Value field)
  get : (field : Field) → σ → Value field
  put : (field : Field) → Value field → σ → σ
  mem_fields : ∀ field, field ∈ fields
  key_injective : ∀ {a b}, key a = key b → a = b
  get_put : ∀ field value state, get field (put field value state) = value
  get_put_of_ne : ∀ {a b}, a ≠ b → ∀ value state, get a (put b value state) = get a state

namespace Record

variable {σ : Type} (record : Record σ)

/-- What the settings of the section do. -/
def settingFields : Setting.Fields σ :=
  record.fields.map fun field =>
    (record.key field, fun key setting => (record.read field key setting).map (record.put field))

/-- A setting counts for the field whose key it has. -/
theorem find?_settingFields (field : record.Field) :
    record.settingFields.find? (fun entry => entry.1 = record.key field) =
      some (record.key field, fun key setting => (record.read field key setting).map (record.put field)) := by
  have hall : ∀ fields : List record.Field, field ∈ fields →
      (fields.map fun field => (record.key field, fun key setting =>
        (record.read field key setting).map (record.put field))).find? (fun entry => entry.1 = record.key field) =
          some (record.key field, fun key setting => (record.read field key setting).map (record.put field)) := by
    intro fields hmem
    induction fields with
    | nil => cases hmem
    | cons other fields ih =>
      rw [List.map_cons, List.find?_cons]
      by_cases hkey : record.key other = record.key field
      · rw [record.key_injective hkey]
        simp
      · have hne : field ≠ other := fun h => hkey (h ▸ rfl)
        simpa [hkey] using ih (List.mem_of_ne_of_mem hne hmem)
  exact hall record.fields (record.mem_fields field)

theorem find?_settingFields_eq_none {name : String} (h : ∀ field, record.key field ≠ name) :
    record.settingFields.find? (fun entry => entry.1 = name) = none := by
  rw [List.find?_eq_none]
  intro entry hentry
  obtain ⟨field, -, rfl⟩ := List.mem_map.1 hentry
  simpa using h field

/-- A table whose known members can be read gives a record with what they are read as. -/
theorem exists_toSection (name key : String) {members : List (String × Setting)} (source : Option String)
    (hkeys : (members.map Prod.fst).Nodup) (hread : ∀ field, ∀ setting ∈ Dict.get? (record.key field) members,
      ∃ value, record.read field (key ++ "." ++ record.key field) setting = .ok value) (start : σ) :
    ∃ state, Setting.toSection name key record.settingFields start (.table members source) = .ok state ∧
      ∀ field, (∀ setting ∈ Dict.get? (record.key field) members,
          record.read field (key ++ "." ++ record.key field) setting = .ok (record.get field state)) ∧
        (Dict.get? (record.key field) members = none → record.get field state = record.get field start) := by
  induction members generalizing start with
  | nil => exact ⟨start, rfl, fun field => ⟨fun setting h => (by cases h), fun _ => rfl⟩⟩
  | cons member members ih =>
    obtain ⟨own, setting⟩ := member
    rw [List.map_cons, List.nodup_cons] at hkeys
    have hrest : ∀ field, ∀ setting ∈ Dict.get? (record.key field) members,
        ∃ value, record.read field (key ++ "." ++ record.key field) setting = .ok value :=
      fun field found hfound => hread field found (Dict.get?_cons_of_not_mem hkeys.1 hfound)
    simp only [Setting.toSection, List.foldlM_cons] at ih ⊢
    -- the member belongs to one field, or to none
    by_cases hknown : ∃ field, record.key field = own
    · obtain ⟨field, rfl⟩ := hknown
      obtain ⟨value, hvalue⟩ := hread field setting (by rw [Dict.get?, if_pos rfl]; rfl)
      obtain ⟨state, hstate, hfields⟩ := ih hkeys.2 hrest (record.put field value start)
      refine ⟨state, ?_, fun other => ?_⟩
      · rw [record.find?_settingFields field]
        simp only [hvalue, Except.map, ok_bind]
        exact hstate
      · obtain ⟨hsome, hnone⟩ := hfields other
        rw [Dict.get?]
        by_cases hother : record.key field = record.key other
        · obtain rfl := record.key_injective hother
          rw [if_pos rfl]
          refine ⟨fun found hfound => ?_, fun h => (by cases h)⟩
          cases hfound
          rw [hvalue, hnone (Dict.get?_eq_none_iff.2 hkeys.1), record.get_put]
        · rw [if_neg hother]
          refine ⟨hsome, fun h => ?_⟩
          rw [hnone h, record.get_put_of_ne fun he => hother (congrArg record.key he.symm)]
    · obtain ⟨state, hstate, hfields⟩ := ih hkeys.2 hrest start
      refine ⟨state, ?_, fun other => ?_⟩
      · rw [record.find?_settingFields_eq_none (not_exists.1 hknown)]
        exact hstate
      · rw [Dict.get?, if_neg fun h => hknown ⟨other, h.symm⟩]
        exact hfields other

end Record

end TableScript
