import TableScript.Proofs.FileStore.Walk

/-!
# Changes to file stores

What making directories and opening a file for writing at its end do to the rest of a store.  Where everything that
there was is kept and there are no new links, paths lead where they led before (`Keeps.locate`), so a store that only
grows by directories can be compared with an earlier one step by step.
-/

namespace TableScript.FileStore

variable {store before after : FileStore} {location : Location} {path : String} {paths : List String}

/-- Only the place itself changes when an entry is put somewhere below the root. -/
theorem entry?_put (hroot : location ≠ []) (entry : Entry) (place : Location) :
    entry? (store.put location entry) place = if place = location then some entry else store.entry? place := by
  match place with
  | [] => rw [entry?_nil, entry?_nil, if_neg hroot.symm]
  | name :: names =>
    unfold entry? put
    dsimp only
    rw [List.find?_cons]
    by_cases hplace : name :: names = location
    · simp [hplace]
    · rw [decide_eq_false (Ne.symm hplace), if_neg hplace, List.find?_filter]
      dsimp only
      congr 2
      funext other
      by_cases hother : other.1 = name :: names <;> simp [hother, hplace]

/-! ## Stores that keep what there was -/

/-- Everything in a store is in a later one too, where there are no more links, and relative paths start from the same
place. -/
structure Keeps (before after : FileStore) : Prop where
  entry?_eq : ∀ location entry, before.entry? location = some entry → after.entry? location = some entry
  link_eq : ∀ location target, after.entry? location = some (.link target) →
    before.entry? location = some (.link target)
  workingDirectory_eq : after.workingDirectory = before.workingDirectory

namespace Keeps

theorem refl (store : FileStore) : store.Keeps store :=
  ⟨fun _ _ h => h, fun _ _ h => h, rfl⟩

theorem trans {between : FileStore} (hfirst : before.Keeps between) (hsecond : between.Keeps after) :
    before.Keeps after where
  entry?_eq location entry h := hsecond.entry?_eq location entry (hfirst.entry?_eq location entry h)
  link_eq location target h := hfirst.link_eq location target (hsecond.link_eq location target h)
  workingDirectory_eq := hsecond.workingDirectory_eq.trans hfirst.workingDirectory_eq

/-- A step only asks for the directory that it starts from. -/
theorem step (hkeeps : before.Keeps after) {part : String} {next : Location} (h : before.step location part = .ok next) :
    after.step location part = .ok next := by
  unfold FileStore.step at h ⊢
  cases hentry : before.entry? location with
  | none => rw [hentry] at h; cases h
  | some entry =>
    rw [hentry] at h
    rw [hkeeps.entry?_eq _ _ hentry]
    exact h

theorem stride (hkeeps : before.Keeps after) {parts : List String} {stop : Stop}
    (h : before.stride location parts = .ok stop) : after.stride location parts = .ok stop := by
  induction parts generalizing location with
  | nil => exact h
  | cons part parts ih =>
    rw [FileStore.stride] at h ⊢
    cases hstep : before.step location part with
    | error problem => rw [hstep] at h; cases h
    | ok next =>
      rw [hstep] at h
      rw [hkeeps.step hstep]
      dsimp only at h ⊢
      cases hafter : after.entry? next with
      | none =>
        cases hbefore : before.entry? next with
        | none =>
          rw [hbefore] at h
          exact ih h
        | some entry => rw [hkeeps.entry?_eq _ _ hbefore] at hafter; cases hafter
      | some entry =>
        cases entry with
        | link target =>
          rw [hkeeps.link_eq _ _ hafter] at h
          exact h
        | _ =>
          split at h
          · rename_i hbefore
            rw [hkeeps.entry?_eq _ _ hbefore] at hafter
            cases hafter
          · exact ih h

theorem walk (hkeeps : before.Keeps after) {links : Nat} {place : Location} {parts : List String}
    (h : before.walk links location parts = .ok place) : after.walk links location parts = .ok place := by
  refine walk_induction (fun links location parts hstride => ?_)
    (fun links location parts link target rest more hstride hpieces ih => ?_) h
  · exact walk_of_place (hkeeps.stride hstride)
  · rw [walk_of_link (hkeeps.stride hstride) hpieces, ih]

theorem start_eq (hkeeps : before.Keeps after) (path : String) : after.start path = before.start path := by
  rw [start, start, hkeeps.workingDirectory_eq]

theorem locate (hkeeps : before.Keeps after) (h : before.locate path = .ok location) :
    after.locate path = .ok location := by
  obtain ⟨parts, hparts, hwalk⟩ := bind_eq_ok_iff.1 h
  exact bind_eq_ok_iff.2 ⟨parts, hparts, by rw [hkeeps.start_eq]; exact hkeeps.walk hwalk⟩

theorem locateLast (hkeeps : before.Keeps after) (h : before.locateLast path = .ok location) :
    after.locateLast path = .ok location := by
  obtain ⟨parts, hparts, h⟩ := bind_eq_ok_iff.1 h
  obtain ⟨directory, hwalk, hstep⟩ := bind_eq_ok_iff.1 h
  refine bind_eq_ok_iff.2 ⟨parts, hparts, bind_eq_ok_iff.2 ⟨directory, ?_, hkeeps.step hstep⟩⟩
  rw [hkeeps.start_eq]
  exact hkeeps.walk hwalk

/-- An entry that is no link is put where there was none. -/
theorem put (hmissing : store.entry? location = none) {entry : Entry} (hentry : ∀ target, entry ≠ .link target) :
    store.Keeps (store.put location entry) where
  entry?_eq place other h := by
    have hroot : location ≠ [] := by rintro rfl; cases hmissing
    rw [entry?_put hroot, if_neg (by rintro rfl; rw [hmissing] at h; cases h), h]
  link_eq place target h := by
    have hroot : location ≠ [] := by rintro rfl; cases hmissing
    rw [entry?_put hroot] at h
    split at h
    · exact absurd (Option.some.inj h) (hentry target)
    · exact h
  workingDirectory_eq := rfl

end Keeps

/-! ## Making directories -/

/-- A store keeps what there was, and what is new in it are directories that some paths lead to. -/
structure Grown (paths : List String) (before after : FileStore) : Prop extends before.Keeps after where
  made : ∀ location, before.entry? location = none → after.entry? location = none ∨
    after.entry? location = some .directory ∧ ∃ path ∈ paths, after.locate path = .ok location

namespace Grown

theorem refl (paths : List String) (store : FileStore) : Grown paths store store :=
  ⟨.refl store, fun _ h => Or.inl h⟩

theorem trans {between : FileStore} (hfirst : Grown paths before between) (hsecond : Grown paths between after) :
    Grown paths before after where
  toKeeps := hfirst.toKeeps.trans hsecond.toKeeps
  made location h := by
    rcases hfirst.made location h with hnone | ⟨hdirectory, path, hpath, hlocate⟩
    · exact hsecond.made location hnone
    · exact Or.inr ⟨hsecond.entry?_eq _ _ hdirectory, path, hpath, hsecond.toKeeps.locate hlocate⟩

theorem mono {more : List String} (hsub : paths ⊆ more) (h : Grown paths before after) : Grown more before after where
  toKeeps := h.toKeeps
  made location hnone := (h.made location hnone).imp_right fun ⟨hdirectory, path, hpath, hlocate⟩ =>
    ⟨hdirectory, path, hsub hpath, hlocate⟩

end Grown

theorem grown_of_makeDirectory (h : store.makeDirectory path = .ok after) : Grown [path] store after := by
  obtain ⟨location, hlocate, h⟩ := bind_eq_ok_iff.1 h
  split at h
  · cases h
  · rename_i hmissing
    cases h
    have hkeeps : store.Keeps (store.put location .directory) := .put hmissing (by simp)
    have hmade : ∀ place, entry? (store.put location .directory) place =
        if place = location then some .directory else store.entry? place :=
      entry?_put (by rintro rfl; cases hmissing) _
    refine ⟨hkeeps, fun place hplace => ?_⟩
    by_cases he : place = location
    · subst he
      have hentry := (hmade place).trans (if_pos rfl)
      exact Or.inr ⟨hentry, path, List.mem_singleton_self path,
        locate_of_locateLast (hkeeps.locateLast hlocate) (by simp [hentry])⟩
    · exact Or.inl (by rw [hmade, if_neg he, hplace])

theorem grown_of_ensureDirectory (h : store.ensureDirectory path = .ok after) : Grown [path] store after := by
  rw [ensureDirectory] at h
  split at h
  · rename_i hmade
    cases h
    exact grown_of_makeDirectory hmade
  · split at h
    · cases h
      exact .refl _ store
    · cases h

/-- Whether it comes to an end or not, making directories only makes directories that the paths lead to. -/
theorem grown_makeDirectories (store : FileStore) (paths : List String) :
    Grown paths store (store.makeDirectories paths).2 := by
  induction paths generalizing store with
  | nil => exact .refl _ store
  | cons path above ih =>
    have hfirst : ∀ {store after : FileStore}, store.ensureDirectory path = .ok after →
        Grown (path :: above) store after := fun h =>
      (grown_of_ensureDirectory h).mono (List.cons_subset_cons path (List.nil_subset above))
    have habove : Grown (path :: above) store (store.makeDirectories above).2 :=
      (ih store).mono (List.subset_cons_self ..)
    rw [makeDirectories]
    cases hensure : store.ensureDirectory path with
    | ok after => exact hfirst hensure
    | error problem =>
      cases problem with
      | notFound =>
        dsimp only
        cases hmake : store.makeDirectories above with
        | mk outcome between =>
          rw [hmake] at habove
          cases outcome with
          | error problem => exact habove
          | ok _ =>
            dsimp only
            cases hagain : between.ensureDirectory path with
            | ok after => exact habove.trans (hfirst hagain)
            | error problem => exact habove
      | _ => exact .refl _ store

/-! ## Opening a file -/

/-- A file that is opened is where the path led before, and it is made empty if there was none. -/
theorem openAtEnd_eq_ok (h : store.openAtEnd path = .ok (location, after)) :
    store.locate path = .ok location ∧
      ((∃ content, store.entry? location = some (.file content) ∧ after = store) ∨
        store.entry? location = none ∧ after = store.put location (.file [])) := by
  obtain ⟨parts, -, h⟩ := bind_eq_ok_iff.1 h
  dsimp only at h
  split at h
  · obtain ⟨_, -, h⟩ := bind_eq_ok_iff.1 h
    cases h
  · obtain ⟨place, hplace, h⟩ := bind_eq_ok_iff.1 h
    split at h
    · rename_i content hcontent
      cases h
      exact ⟨hplace, Or.inl ⟨content, hcontent, rfl⟩⟩
    · cases h
    · cases h
    · rename_i hmissing
      cases h
      exact ⟨hplace, Or.inr ⟨hmissing, rfl⟩⟩

end TableScript.FileStore
