/-!
# Dictionaries

Finite maps from texts, as lists of entries in the order of their keys.  `get?_insert` says what an insertion
changes.
-/

namespace TableScript.Dict

variable {α : Type}

/-- The value stored under a key. -/
def get? (key : String) : List (String × α) → Option α
  | [] => none
  | (k, v) :: entries => if k = key then some v else get? key entries

/-- Stores a value under a key, in place of an earlier one. -/
def insert (key : String) (value : α) : List (String × α) → List (String × α)
  | [] => [(key, value)]
  | (k, v) :: entries =>
    if key < k then (key, value) :: (k, v) :: entries
    else if key = k then (key, value) :: entries
    else (k, v) :: insert key value entries

/-- Removes a key. -/
def erase (key : String) (entries : List (String × α)) : List (String × α) :=
  entries.filter fun entry => entry.1 ≠ key

/-- Stores the pairs one after another. -/
def insertAll (pairs : List (String × α)) (entries : List (String × α)) : List (String × α) :=
  pairs.foldl (fun entries pair => insert pair.1 pair.2 entries) entries

/-- The dictionary of some pairs; of pairs with the same key the last counts. -/
def ofList (pairs : List (String × α)) : List (String × α) :=
  insertAll pairs []

theorem get?_insert (key read : String) (value : α) (entries : List (String × α)) :
    get? read (insert key value entries) = if key = read then some value else get? read entries := by
  induction entries with
  | nil => simp [insert, get?]
  | cons entry entries ih =>
    obtain ⟨k, v⟩ := entry
    unfold insert
    split
    · simp [get?]
    · split
      · subst k
        simp only [get?]
        split <;> rfl
      · rename_i hne
        simp only [get?, ih]
        by_cases hk : k = read
        · have : ¬ key = read := fun h => hne (h.trans hk.symm)
          simp [hk, this]
        · simp [hk]

end TableScript.Dict
