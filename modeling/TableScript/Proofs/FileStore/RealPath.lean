import TableScript.Proofs.FileStore.Walk

/-!
# Real paths

Where a walk starts at a place that directories with good names lead down to, it only comes to such places
(`Reachable.walk`).  The path of such a place leads to the place itself (`lookUp_pathOf`).  So there is the same at the
real path of a path as at the path (`lookUp_realPath`), and at a path from the root as at the one from the working
directory (`lookUp_absolute`).
-/

namespace TableScript.FileStore

/-- No slash and no zero byte is in a part of a path. -/
def IsPart (part : String) : Prop :=
  '/' ∉ part.toList ∧ '\x00' ∉ part.toList

instance (part : String) : Decidable (IsPart part) :=
  inferInstanceAs (Decidable (_ ∧ _))

/-- A part of a path that stands for an entry of a directory. -/
structure IsName (name : String) : Prop extends toIsPart : IsPart name where
  ne_empty : name ≠ ""
  ne_dot : name ≠ "."
  ne_dots : name ≠ ".."
  size_le : name.utf8ByteSize ≤ maxNameSize

/-- A place that directories lead down to from the root. -/
inductive Reachable (store : FileStore) : Location → Prop where
  | root : store.Reachable []
  | child {location : Location} {name : String} (above : store.Reachable location)
      (directory : store.entry? location = some .directory) (isName : IsName name) :
      store.Reachable (location ++ [name])

variable {store : FileStore} {location : Location} {path : String}

theorem isPart_of_mem_pieces {parts : List String} (h : pieces path = .ok parts) : ∀ part ∈ parts, IsPart part := by
  unfold pieces at h
  split_ifs at h with hzero
  cases h
  intro part hpart
  obtain ⟨piece, hpiece, rfl⟩ := List.mem_map.1 hpart
  rw [IsPart, String.toList_ofList]
  exact ⟨Text.not_mem_of_mem_splitOn hpiece, fun h => hzero (by simpa using Text.mem_of_mem_splitOn hpiece h)⟩

namespace Reachable

theorem singleton {name : String} (isName : IsName name) : store.Reachable [name] :=
  root.child rfl isName

theorem dropLast (h : store.Reachable location) : store.Reachable location.dropLast := by
  cases h with
  | root => exact .root
  | child above => rwa [List.dropLast_concat]

theorem names (h : store.Reachable location) : ∀ name ∈ location, IsName name := by
  induction h with
  | root => simp
  | child _ _ isName ih => simpa [or_imp, forall_and] using ⟨ih, isName⟩

theorem startFrom (h : store.Reachable location) (path : String) : store.Reachable (startFrom location path) := by
  unfold FileStore.startFrom
  split
  · exact .root
  · exact h

theorem step (h : store.Reachable location) {part : String} (hpart : IsPart part) {next : Location}
    (hstep : store.step location part = .ok next) : store.Reachable next := by
  unfold FileStore.step at hstep
  split at hstep
  · cases hstep
  · rename_i hdirectory
    split_ifs at hstep with hstay hup hsize
    · cases hstep
      exact h
    · cases hstep
      exact h.dropLast
    · cases hstep
      simp only [not_or] at hstay
      exact .child h hdirectory ⟨hpart, hstay.1, hstay.2, hup, Nat.le_of_not_lt hsize⟩
  · cases hstep

theorem stride_place (h : store.Reachable location) {parts : List String} (hparts : ∀ part ∈ parts, IsPart part)
    {place : Location} (hstride : store.stride location parts = .ok (.place place)) : store.Reachable place := by
  induction parts generalizing location with
  | nil =>
    cases hstride
    exact h
  | cons part parts ih =>
    rw [List.forall_mem_cons] at hparts
    rw [stride] at hstride
    split at hstride
    · cases hstride
    · rename_i next hstep
      split at hstride
      · cases hstride
      · exact ih (h.step hparts.1 hstep) hparts.2 hstride

theorem stride_link (h : store.Reachable location) {parts rest : List String} (hparts : ∀ part ∈ parts, IsPart part)
    {link : Location} {target : String} (hstride : store.stride location parts = .ok (.link link target rest)) :
    store.Reachable link ∧ ∀ part ∈ rest, IsPart part := by
  induction parts generalizing location with
  | nil => cases hstride
  | cons part parts ih =>
    rw [List.forall_mem_cons] at hparts
    rw [stride] at hstride
    split at hstride
    · cases hstride
    · rename_i next hstep
      split at hstride
      · cases hstride
        exact ⟨h.step hparts.1 hstep, hparts.2⟩
      · exact ih (h.step hparts.1 hstep) hparts.2 hstride

theorem walk (h : store.Reachable location) {parts : List String} (hparts : ∀ part ∈ parts, IsPart part) {links : Nat}
    {place : Location} (hwalk : store.walk links location parts = .ok place) : store.Reachable place := by
  refine walk_induction
    (motive := fun _ location parts => store.Reachable location → (∀ part ∈ parts, IsPart part) → store.Reachable place)
    (fun links location parts hstride h hparts => ?_)
    (fun links location parts link target rest more hstride hpieces ih h hparts => ?_) hwalk h hparts
  · exact h.stride_place hparts hstride
  · obtain ⟨hlink, hrest⟩ := h.stride_link hparts hstride
    exact ih (hlink.dropLast.startFrom target) (List.forall_mem_append.2 ⟨isPart_of_mem_pieces hpieces, hrest⟩)

/-- The names down to a place lead to it, if it is no link. -/
theorem stride_names (h : store.Reachable location) (hlink : ∀ target, store.entry? location ≠ some (.link target)) :
    store.stride [] location = .ok (.place location) := by
  induction h with
  | root => rfl
  | @child location name above directory isName ih =>
    have hstep : store.step location name = .ok (location ++ [name]) := by
      rw [FileStore.step, directory]
      simp [isName.ne_empty, isName.ne_dot, isName.ne_dots, isName.size_le]
    rw [stride_append, ih (by simp [directory])]
    dsimp only
    rw [stride, hstep]
    dsimp only
    split
    · rename_i target hentry
      exact absurd hentry (hlink target)
    · rfl

end Reachable

/-- Directories lead down to the working directory, and it is a directory itself. -/
structure WellFormed (store : FileStore) : Prop where
  reachable : store.Reachable store.workingDirectory
  directory : store.entry? store.workingDirectory = some .directory

/-! ## Paths of places -/

theorem toList_pathOf (location : Location) :
    (pathOf location).toList = '/' :: ['/'].intercalate (location.map String.toList) := by
  simp [pathOf, Text.join]

theorem pathOf_ne_empty (location : Location) : pathOf location ≠ "" := fun h => by
  have hchars := toList_pathOf location
  rw [h] at hchars
  cases hchars

theorem not_mem_pathOf (hnames : ∀ name ∈ location, IsName name) : '\x00' ∉ (pathOf location).toList := by
  rw [toList_pathOf, List.mem_cons, not_or]
  refine ⟨by decide, fun h => ?_⟩
  rcases Text.mem_intercalate h with h | ⟨piece, hpiece, h⟩
  · simp at h
  · obtain ⟨name, hname, rfl⟩ := List.mem_map.1 hpiece
    exact (hnames name hname).toIsPart.2 h

/-- The parts of the path of a place below the root are an empty one, for the slash at its beginning, and the names. -/
theorem splitOn_pathOf (hnames : ∀ name ∈ location, IsName name) (hroot : location ≠ []) :
    Text.splitOn '/' (pathOf location).toList = [] :: location.map String.toList := by
  rw [toList_pathOf, ← List.nil_append ('/' :: _), Text.splitOn_append_cons (by simp),
    Text.splitOn_intercalate _ (by simpa)]
  intro piece hpiece
  obtain ⟨name, hname, rfl⟩ := List.mem_map.1 hpiece
  exact (hnames name hname).toIsPart.1

/-- The path of a place below the root ends in a name. -/
theorem getLast?_pathOf (hnames : ∀ name ∈ location, IsName name) (hroot : location ≠ []) :
    (pathOf location).toList.getLast? ≠ some '/' := by
  intro h
  have hempty := Text.getLast?_splitOn_eq_nil_iff.2 fun c hc => Option.some.inj (hc.symm.trans h)
  rw [splitOn_pathOf hnames hroot, List.getLast?_cons_of_ne_nil (by simpa), List.getLast?_map,
    Option.map_eq_some_iff] at hempty
  obtain ⟨name, hname, hnil⟩ := hempty
  exact (hnames name (List.mem_of_getLast? hname)).ne_empty (String.toList_eq_nil_iff.1 hnil)

theorem pieces_eq_ok (hzero : '\x00' ∉ path.toList) (hne : path ≠ "") (hsize : path.utf8ByteSize ≤ maxPathSize) :
    pieces path = .ok ((Text.splitOn '/' path.toList).map String.ofList) := by
  rw [pieces, if_neg (by simpa using hzero), if_neg hne, if_neg (Nat.not_lt.2 hsize)]

theorem pieces_eq_error (hzero : '\x00' ∈ path.toList) : pieces path = .error .zeroByte := by
  rw [pieces, if_pos (by simpa using hzero)]

theorem map_ofList_toList (names : List String) : (names.map String.toList).map String.ofList = names := by
  simp [Function.comp_def]

/-- The parts of the path of a place lead from the root to it. -/
theorem Reachable.stride_root (h : store.Reachable location)
    (hlink : ∀ target, store.entry? location ≠ some (.link target)) :
    store.stride [] ("" :: location) = .ok (.place location) :=
  h.stride_names hlink

theorem lookUp_pathOf {entry : Entry} (h : store.Reachable location) (hentry : store.entry? location = some entry)
    (hlink : ∀ target, entry ≠ .link target) (hsize : (pathOf location).utf8ByteSize ≤ maxPathSize) :
    store.lookUp (pathOf location) = .ok (location, entry) := by
  have hstart : store.start (pathOf location) = [] := by
    simp [start, startFrom, Path.isAbsolute, toList_pathOf]
  have hpieces := pieces_eq_ok (not_mem_pathOf h.names) (pathOf_ne_empty location) hsize
  refine lookUp_eq_ok_iff.2 ⟨bind_eq_ok_iff.2 ⟨_, hpieces, ?_⟩, hentry⟩
  rw [hstart]
  refine walk_of_place ?_
  by_cases hroot : location = []
  · subst hroot
    rfl
  · rw [splitOn_pathOf h.names hroot, List.map_cons, map_ofList_toList]
    exact h.stride_root (by simp [hentry, hlink])

/-- There is the same at the real path of a path as at the path. -/
theorem lookUp_realPath (h : store.WellFormed) (path : String) :
    store.lookUp (store.realPath path) = store.lookUp path := by
  unfold realPath
  cases hfound : store.lookUp path with
  | error problem => exact hfound
  | ok found =>
    obtain ⟨location, entry⟩ := found
    dsimp only
    split_ifs with hsize
    · exact hfound
    · obtain ⟨hlocate, hentry⟩ := lookUp_eq_ok_iff.1 hfound
      obtain ⟨parts, hparts, hwalk⟩ := bind_eq_ok_iff.1 hlocate
      have hlink := entry?_ne_link_of_walk (pieces_ne_nil hparts) hwalk
      rw [hentry] at hlink
      exact lookUp_pathOf ((h.reachable.startFrom path).walk (isPart_of_mem_pieces hparts) hwalk) hentry
        (fun target h => hlink target (by rw [h])) (Nat.le_of_not_lt hsize)

theorem isAbsolute_absolute (store : FileStore) (path : String) : Path.isAbsolute (store.absolute path) = true := by
  unfold absolute Path.join
  split_ifs with hwhole
  · exact hwhole.resolve_right (pathOf_ne_empty _)
  · simp [Path.isAbsolute, toList_pathOf]
  · simp [Path.isAbsolute, toList_pathOf]

/-- A path from the root, seen from the working directory, has the path of that directory in front. -/
theorem exists_absolute (hnames : ∀ name ∈ store.workingDirectory, IsName name) (hpath : Path.isAbsolute path = false) :
    ∃ front, (store.absolute path).toList = front ++ '/' :: path.toList ∧ '\x00' ∉ front ∧
      Text.splitOn '/' front = [] :: store.workingDirectory.map String.toList := by
  unfold absolute Path.join
  by_cases hroot : store.workingDirectory = []
  · refine ⟨[], ?_, by simp, by simp [hroot, Text.splitOn]⟩
    simp [hpath, hroot, pathOf, Text.join]
  · refine ⟨(pathOf store.workingDirectory).toList, ?_, not_mem_pathOf hnames, splitOn_pathOf hnames hroot⟩
    rw [if_neg (by simp [hpath, pathOf_ne_empty]), if_neg (getLast?_pathOf hnames hroot)]
    simp

/-- There is the same at a path from the root as at the path itself, as long as it is not too long. -/
theorem lookUp_absolute (h : store.WellFormed) (hpath : path ≠ "")
    (hsize : (store.absolute path).utf8ByteSize ≤ maxPathSize) :
    store.lookUp (store.absolute path) = store.lookUp path := by
  cases habsolute : Path.isAbsolute path with
  | true =>
    rw [absolute, Path.join, if_pos (Or.inl habsolute)]
  | false =>
    obtain ⟨front, hchars, hzero, hsplit⟩ := exists_absolute h.reachable.names habsolute
    have hwhole : store.absolute path = String.ofList (front ++ ['/']) ++ path := by
      rw [← String.toList_inj, hchars]
      simp
    have hstart : store.start path = store.workingDirectory := by
      rw [start, startFrom, habsolute, if_neg Bool.false_ne_true]
    have hroot : store.start (store.absolute path) = [] := by
      rw [start, startFrom, isAbsolute_absolute, if_pos rfl]
    suffices hlocate : store.locate (store.absolute path) = store.locate path by rw [lookUp, lookUp, hlocate]
    unfold locate
    by_cases hbad : '\x00' ∈ path.toList
    · rw [pieces_eq_error hbad, pieces_eq_error (by simp [hchars, hbad])]
      rfl
    · have hshort : path.utf8ByteSize ≤ maxPathSize := by
        rw [hwhole, String.utf8ByteSize_append] at hsize
        omega
      rw [pieces_eq_ok hbad hpath hshort, pieces_eq_ok (by simp [hchars, hzero, hbad]) (by simp [hwhole]) hsize, hchars,
        Text.splitOn_append_cons_append, hsplit, List.map_append, List.map_cons, map_ofList_toList, hstart, hroot]
      exact walk_append_of_stride (h.reachable.stride_root (by simp [h.directory]))

end TableScript.FileStore
