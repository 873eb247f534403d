import Mathlib.Tactic.SplitIfs
import TableScript.FileStore
import TableScript.Proofs.Outcome
import TableScript.Proofs.Text.Lines

/-!
# Walks through file stores

A walk goes along the parts of a path up to a link, and from there along the path that the link holds
(`walk_induction`).  It does not end at a link (`entry?_ne_link_of_walk`).
-/

namespace TableScript.FileStore

variable {store : FileStore} {location : Location} {path : String}

theorem entry?_nil (store : FileStore) : store.entry? [] = some .directory := rfl

theorem lookUp_eq_ok_iff {entry : Entry} : store.lookUp path = .ok (location, entry) ↔
    store.locate path = .ok location ∧ store.entry? location = some entry := by
  unfold lookUp
  rw [bind_eq_ok_iff]
  constructor
  · rintro ⟨place, hplace, h⟩
    split at h
    · rename_i hentry
      cases h
      exact ⟨hplace, hentry⟩
    · cases h
  · rintro ⟨hplace, hentry⟩
    exact ⟨location, hplace, by rw [hentry]⟩

theorem isFile_iff : store.isFile path ↔ ∃ location content, store.lookUp path = .ok (location, .file content) := by
  unfold isFile
  split <;> simp_all

theorem isPresent_of_isFile (h : store.isFile path) : store.isPresent path := by
  obtain ⟨location, content, hfound⟩ := isFile_iff.1 h
  rw [isPresent, hfound]
  rfl

/-- There is no file at a path that is too long. -/
theorem isFile_of_long (h : maxPathSize < path.utf8ByteSize) : store.isFile path = false := by
  have hpieces : ∃ problem, pieces path = .error problem := by
    unfold pieces
    split_ifs
    · exact ⟨_, rfl⟩
    · exact ⟨_, rfl⟩
    · exact ⟨_, rfl⟩
  obtain ⟨problem, hpieces⟩ := hpieces
  simp [isFile, lookUp, locate, hpieces, error_bind]

theorem pieces_ne_nil {parts : List String} (h : pieces path = .ok parts) : parts ≠ [] := by
  unfold pieces at h
  split_ifs at h
  cases h
  simpa using Text.splitOn_ne_nil '/' path.toList

theorem walk_of_place {links : Nat} {parts : List String} {place : Location}
    (h : store.stride location parts = .ok (.place place)) : store.walk links location parts = .ok place := by
  rw [walk, h]

theorem walk_of_link {links : Nat} {parts rest more : List String} {place : Location} {target : String}
    (h : store.stride location parts = .ok (.link place target rest)) (hpieces : pieces target = .ok more) :
    store.walk (links + 1) location parts = store.walk links (startFrom place.dropLast target) (more ++ rest) := by
  rw [walk, h]
  dsimp only
  rw [hpieces]

/-- Induction over the links on a walk: it comes to its end without one, or goes on from the first. -/
@[elab_as_elim]
theorem walk_induction {place : Location} {motive : Nat → Location → List String → Prop}
    (arrive : ∀ links location parts, store.stride location parts = .ok (.place place) → motive links location parts)
    (follow : ∀ links location parts link target rest more, store.stride location parts = .ok (.link link target rest) →
      pieces target = .ok more → motive links (startFrom link.dropLast target) (more ++ rest) →
        motive (links + 1) location parts)
    {links : Nat} {parts : List String} (h : store.walk links location parts = .ok place) :
    motive links location parts := by
  induction links generalizing location parts with
  | zero =>
    rw [walk] at h
    split at h
    · cases h
    · rename_i hstride
      cases h
      exact arrive _ _ _ hstride
    · cases h
  | succ links ih =>
    rw [walk] at h
    split at h
    · cases h
    · rename_i hstride
      cases h
      exact arrive _ _ _ hstride
    · rename_i link target rest hstride
      cases hpieces : pieces target with
      | error problem =>
        rw [hpieces] at h
        cases h
      | ok more =>
        rw [hpieces] at h
        exact follow _ _ _ _ _ _ _ hstride hpieces (ih h)

/-- A stride along more parts goes on where the one along the first of them ends. -/
theorem stride_append (location : Location) (parts more : List String) :
    store.stride location (parts ++ more) = match store.stride location parts with
      | .error problem => .error problem
      | .ok (.place place) => store.stride place more
      | .ok (.link place target rest) => .ok (.link place target (rest ++ more)) := by
  induction parts generalizing location with
  | nil => rfl
  | cons part parts ih =>
    rw [List.cons_append, stride, stride]
    cases store.step location part with
    | error problem => rfl
    | ok next =>
      dsimp only
      split
      · rfl
      · exact ih next

/-- A walk whose beginning is a stride. -/
theorem walk_append_of_stride {links : Nat} {parts more : List String} {place : Location}
    (h : store.stride location parts = .ok (.place place)) :
    store.walk links location (parts ++ more) = store.walk links place more := by
  rw [walk, stride_append, h, walk.eq_def store links place]

/-- A walk whose end is followed by a stride. -/
theorem walk_append {links : Nat} {parts more : List String} {place next : Location}
    (h : store.walk links location parts = .ok place) (hmore : store.stride place more = .ok (.place next)) :
    store.walk links location (parts ++ more) = .ok next := by
  refine walk_induction (fun links location parts hstride => ?_)
    (fun links location parts link target rest first hstride hpieces ih => ?_) h
  · exact walk_of_place (by rw [stride_append, hstride]; exact hmore)
  · rw [walk_of_link (by rw [stride_append, hstride]) hpieces, ← List.append_assoc, ih]

/-- A stride does not end at a link. -/
theorem entry?_ne_link_of_stride {parts : List String} {place : Location} (hparts : parts ≠ [])
    (h : store.stride location parts = .ok (.place place)) (target : String) :
    store.entry? place ≠ some (.link target) := by
  induction parts generalizing location with
  | nil => exact absurd rfl hparts
  | cons part parts ih =>
    rw [stride] at h
    split at h
    · cases h
    · split at h
      · cases h
      · rename_i next hstep hnext
        cases parts with
        | nil =>
          cases h
          exact hnext target
        | cons second parts => exact ih (by simp) h

theorem entry?_ne_link_of_walk {links : Nat} {parts : List String} {place : Location} (hparts : parts ≠ [])
    (h : store.walk links location parts = .ok place) (target : String) : store.entry? place ≠ some (.link target) := by
  refine walk_induction (motive := fun _ _ parts => parts ≠ [] → _) (fun links location parts hstride hparts => ?_)
    (fun links location parts link target rest more hstride hpieces ih _ => ?_) h hparts
  · exact entry?_ne_link_of_stride hparts hstride target
  · exact ih (by simp [pieces_ne_nil hpieces])

/-- What is at the end of a walk along the parts of a path but the last is a step away from what the path leads to. -/
theorem locate_of_locateLast (h : store.locateLast path = .ok location)
    (hlink : ∀ target, store.entry? location ≠ some (.link target)) : store.locate path = .ok location := by
  obtain ⟨parts, hparts, h⟩ := bind_eq_ok_iff.1 h
  obtain ⟨directory, hwalk, hstep⟩ := bind_eq_ok_iff.1 h
  have hstride : store.stride directory [parts.getLastD ""] = .ok (.place location) := by
    rw [stride, hstep]
    dsimp only
    split
    · rename_i target hentry
      exact absurd hentry (hlink target)
    · rfl
  have hsplit : parts.dropLast ++ [parts.getLastD ""] = parts := by
    rw [List.getLastD_eq_getLast?, List.getLast?_eq_some_getLast (pieces_ne_nil hparts), Option.getD_some,
      List.dropLast_concat_getLast]
  refine bind_eq_ok_iff.2 ⟨parts, hparts, ?_⟩
  rw [← hsplit]
  exact walk_append hwalk hstride

end TableScript.FileStore
