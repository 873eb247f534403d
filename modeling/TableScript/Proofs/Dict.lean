import Mathlib.Data.List.Nodup
import TableScript.Dict

/-!
# Looking up in dictionaries

What `get?` finds after entries were stored, dropped or put behind others.  Entries need not be in the order of
their keys; of entries with the same key the first counts, and of pairs stored one after another the last.  Entries that
are in the order of their keys, as those of `ofList` are, are known by what is found among them (`Ordered.ext`).
-/

namespace TableScript.Dict

variable {α : Type} {key : String}

/-- What has a name is found by it and by no other, if it is found by its own. -/
theorem find?_name_eq_some_iff {name : α → String} {all : List α} {text : String} {a : α}
    (hown : all.find? (fun b => name b = name a) = some a) :
    all.find? (fun b => name b = text) = some a ↔ text = name a := by
  constructor
  · intro h
    have hname := List.find?_some h
    exact (of_decide_eq_true hname).symm
  · rintro rfl
    exact hown

/-- Looking up finds the value of the first entry with the key. -/
theorem find?_key (key : String) (entries : List (String × α)) :
    entries.find? (fun entry => entry.1 = key) = (get? key entries).map (key, ·) := by
  induction entries with
  | nil => rfl
  | cons entry entries ih =>
    obtain ⟨k, v⟩ := entry
    by_cases h : k = key
    · subst h
      simp [get?]
    · simp [get?, h, ih]

theorem mem_of_get? {entries : List (String × α)} {value : α} (h : get? key entries = some value) :
    (key, value) ∈ entries :=
  List.mem_of_find?_eq_some (by rw [find?_key, h, Option.map_some])

theorem get?_eq_none_iff {entries : List (String × α)} :
    get? key entries = none ↔ key ∉ entries.map Prod.fst := by
  induction entries with
  | nil => simp [get?]
  | cons entry entries ih =>
    by_cases h : entry.1 = key
    · simp [get?, h]
    · simpa [get?, h, Ne.symm h] using ih

theorem isSome_get?_iff {entries : List (String × α)} :
    (get? key entries).isSome ↔ key ∈ entries.map Prod.fst := by
  rw [Option.isSome_iff_ne_none, ne_eq, get?_eq_none_iff, Decidable.not_not]

/-- An entry with a key of its own hides none of those behind it. -/
theorem get?_cons_of_not_mem {own : String} {first value : α} {entries : List (String × α)}
    (hown : own ∉ entries.map Prod.fst) (h : get? key entries = some value) :
    get? key ((own, first) :: entries) = some value := by
  rw [get?, if_neg]
  · exact h
  · rintro rfl
    exact hown (isSome_get?_iff.1 (Option.isSome_iff_exists.2 ⟨value, h⟩))

theorem get?_append (key : String) (first second : List (String × α)) :
    get? key (first ++ second) = (get? key first).or (get? key second) := by
  induction first with
  | nil => simp [get?]
  | cons entry first ih =>
    simp only [List.cons_append, get?, ih]
    split <;> simp

theorem get?_filter (key : String) (p : String → Bool) (entries : List (String × α)) :
    get? key (entries.filter fun entry => p entry.1) = if p key then get? key entries else none := by
  induction entries with
  | nil => simp [get?]
  | cons entry entries ih =>
    by_cases hk : entry.1 = key
    · subst hk
      by_cases hp : p entry.1 <;> simp [get?, ih, hp]
    · by_cases hp : p entry.1 <;> simp [get?, ih, hp, hk]

theorem get?_erase (read key : String) (entries : List (String × α)) :
    get? read (erase key entries) = if read = key then none else get? read entries := by
  unfold erase
  rw [get?_filter read (fun name => decide (name ≠ key)) entries]
  by_cases h : read = key <;> simp [h]

theorem get?_insertAll (key : String) (pairs entries : List (String × α)) :
    get? key (insertAll pairs entries) = (get? key pairs.reverse).or (get? key entries) := by
  induction pairs generalizing entries with
  | nil => simp [insertAll, get?]
  | cons pair pairs ih =>
    have hstep : insertAll (pair :: pairs) entries = insertAll pairs (insert pair.1 pair.2 entries) := rfl
    rw [hstep, ih, get?_insert, List.reverse_cons, get?_append, Option.or_assoc]
    congr 1
    by_cases h : pair.1 = key <;> simp [get?, h]

/-- Looking up in entries made from a list, under a key that only one of its items has. -/
theorem get?_map_of_mem {ι : Type} (key : ι → String) (value : ι → α) {items : List ι} {i : ι} (hi : i ∈ items)
    (h : ∀ j ∈ items, key j = key i → j = i) :
    get? (key i) (items.map fun j => (key j, value j)) = some (value i) := by
  induction items with
  | nil => cases hi
  | cons j items ih =>
    rw [List.map_cons, get?]
    by_cases hj : key j = key i
    · rw [if_pos hj, h j List.mem_cons_self hj]
    · rw [if_neg hj]
      have hne : i ≠ j := fun heq => hj (by rw [heq])
      exact ih (List.mem_of_ne_of_mem hne hi) fun k hk => h k (List.mem_cons_of_mem j hk)

theorem insert_map {β : Type} (f : α → β) (key : String) (value : α) (entries : List (String × α)) :
    insert key (f value) (entries.map fun entry => (entry.1, f entry.2)) =
      (insert key value entries).map fun entry => (entry.1, f entry.2) := by
  induction entries with
  | nil => rfl
  | cons entry entries ih =>
    simp only [List.map_cons, insert, ih]
    split
    · rfl
    · split <;> rfl

theorem ofList_map {β : Type} (f : α → β) (pairs : List (String × α)) :
    ofList (pairs.map fun pair => (pair.1, f pair.2)) = (ofList pairs).map fun entry => (entry.1, f entry.2) := by
  have hall (entries : List (String × α)) :
      insertAll (pairs.map fun pair => (pair.1, f pair.2)) (entries.map fun entry => (entry.1, f entry.2)) =
        (insertAll pairs entries).map fun entry => (entry.1, f entry.2) := by
    unfold insertAll
    induction pairs generalizing entries with
    | nil => rfl
    | cons pair pairs ih =>
      have hstep := insert_map f pair.1 pair.2 entries
      simp only [List.map_cons, List.foldl_cons, hstep, ih]
  exact hall []

/-! ## Keys in order -/

variable {entries others : List (String × α)}

/-- Of entries with different keys, all can be looked up. -/
theorem get?_eq_some_iff (hkeys : (entries.map Prod.fst).Nodup) {value : α} :
    get? key entries = some value ↔ (key, value) ∈ entries := by
  induction entries with
  | nil => simp [get?]
  | cons entry entries ih =>
    rw [List.map_cons, List.nodup_cons] at hkeys
    obtain ⟨k, v⟩ := entry
    rw [get?, List.mem_cons, Prod.mk.injEq]
    by_cases hk : k = key
    · subst hk
      have hmem : (k, value) ∉ entries := fun h => hkeys.1 (List.mem_map.mpr ⟨_, h, rfl⟩)
      simp [hmem, eq_comm]
    · simp [hk, Ne.symm hk, ih hkeys.2]

/-- The order of entries with different keys does not matter. -/
theorem get?_perm (hkeys : (entries.map Prod.fst).Nodup) (hperm : entries.Perm others) (key : String) :
    get? key entries = get? key others := by
  have hkeys' : (others.map Prod.fst).Nodup := (hperm.map Prod.fst).nodup_iff.mp hkeys
  ext value
  rw [get?_eq_some_iff hkeys, get?_eq_some_iff hkeys', hperm.mem_iff]

/-- The keys of the entries increase. -/
def Ordered (entries : List (String × α)) : Prop :=
  (entries.map Prod.fst).Pairwise (· < ·)

theorem Ordered.nodup (h : Ordered entries) : (entries.map Prod.fst).Nodup :=
  h.imp String.ne_of_lt

theorem mem_keys_insert_iff {read : String} {value : α} :
    read ∈ (insert key value entries).map Prod.fst ↔ key = read ∨ read ∈ entries.map Prod.fst := by
  rw [← isSome_get?_iff, get?_insert, ← isSome_get?_iff]
  split_ifs with h <;> simp [h]

theorem ordered_insert (h : Ordered entries) (key : String) (value : α) : Ordered (insert key value entries) := by
  induction entries with
  | nil => simp [insert, Ordered]
  | cons entry entries ih =>
    obtain ⟨k, v⟩ := entry
    obtain ⟨hk, hentries⟩ := List.pairwise_cons.mp h
    rw [insert]
    split_ifs with hlt heq
    · -- the new key comes first
      refine List.pairwise_cons.mpr ⟨fun read hread => ?_, h⟩
      rcases List.mem_cons.mp hread with rfl | hread
      · exact hlt
      · exact String.lt_trans hlt (hk read hread)
    · subst heq
      exact h
    · -- it comes somewhere behind the first key, which stays below all others
      refine List.pairwise_cons.mpr ⟨fun read hread => ?_, ih hentries⟩
      rcases mem_keys_insert_iff.mp hread with rfl | hread
      · exact Std.lt_of_le_of_ne (String.not_lt.mp hlt) (Ne.symm heq)
      · exact hk read hread

/-- The entries of a dictionary are in the order of their keys. -/
theorem ordered_ofList (pairs : List (String × α)) : Ordered (ofList pairs) := by
  have hall (entries : List (String × α)) (h : Ordered entries) : Ordered (insertAll pairs entries) := by
    unfold insertAll
    induction pairs generalizing entries with
    | nil => exact h
    | cons pair pairs ih => exact ih _ (ordered_insert h pair.1 pair.2)
  exact hall [] List.Pairwise.nil

/-- Entries in the order of their keys are told apart by looking up. -/
theorem Ordered.ext (h : Ordered entries) (h' : Ordered others) (hget : ∀ key, get? key entries = get? key others) :
    entries = others := by
  have hperm : entries.Perm others := by
    refine (List.perm_ext_iff_of_nodup h.nodup.of_map h'.nodup.of_map).mpr fun ⟨key, value⟩ => ?_
    rw [← get?_eq_some_iff h.nodup, ← get?_eq_some_iff h'.nodup, hget]
  refine hperm.eq_of_pairwise (fun a b _ _ hab hba => ?_) (List.pairwise_map.mp h) (List.pairwise_map.mp h')
  exact absurd hba (String.lt_asymm hab)

/-- The order of pairs with different keys does not matter. -/
theorem ofList_perm {pairs more : List (String × α)} (hkeys : (pairs.map Prod.fst).Nodup) (hperm : pairs.Perm more) :
    ofList pairs = ofList more := by
  refine (ordered_ofList pairs).ext (ordered_ofList more) fun key => ?_
  rw [ofList, ofList, get?_insertAll, get?_insertAll, get?_perm]
  · rw [List.map_reverse]
    exact List.nodup_reverse.mpr hkeys
  · exact (List.reverse_perm pairs).trans (hperm.trans (List.reverse_perm more).symm)

/-- A dictionary is the dictionary of its entries. -/
theorem Ordered.ofList_eq (h : Ordered entries) : ofList entries = entries := by
  refine (ordered_ofList entries).ext h fun key => ?_
  rw [ofList, get?_insertAll, get?, Option.or_none]
  exact (get?_perm h.nodup (List.reverse_perm entries).symm key).symm

end TableScript.Dict
