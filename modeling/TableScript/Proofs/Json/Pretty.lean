import TableScript.Proofs.Json.Scalars

/-!
# Reading pretty texts back

A value is read back from its pretty text, up to the order of the members of its objects, if the numbers in it are
integers of 64 bits and it has no more levels than a text may have (`read_pretty`).  White space in front of items and
members and escapes in texts make no difference.
-/

namespace TableScript.Json

/-! ## Values in the order of their keys -/

mutual

/-- A value with the members of its objects as dictionaries. -/
def sorted : Json → Json
  | array items => array (sortedItems items)
  | object members => object (Dict.ofList (sortedMembers members))
  | leaf => leaf

def sortedItems : List Json → List Json
  | [] => []
  | item :: items => sorted item :: sortedItems items

def sortedMembers : List (String × Json) → List (String × Json)
  | [] => []
  | (key, value) :: members => (key, sorted value) :: sortedMembers members

end

theorem sortedItems_eq_map (items : List Json) : sortedItems items = items.map sorted := by
  induction items with
  | nil => rfl
  | cons item items ih => rw [sortedItems, ih, List.map_cons]

theorem sortedMembers_eq_map (members : List (String × Json)) :
    sortedMembers members = members.map fun member => (member.1, member.2.sorted) := by
  induction members with
  | nil => rfl
  | cons member members ih => rw [sortedMembers, ih, List.map_cons]

/-- Values with at most `depth` levels of arrays and objects, in which all numbers are integers of 64 bits. -/
def Readable : Nat → Json → Prop
  | _, null | _, bool _ | _, string _ => True
  | _, integer value => Int64.minValue.toInt ≤ value ∧ value < UInt64.size
  | _, float _ => False
  | 0, array _ | 0, object _ => False
  | depth + 1, array items => ∀ item ∈ items, Readable depth item
  | depth + 1, object members => ∀ member ∈ members, Readable depth member.2

/-! ## The text of a value -/

theorem prettyItems_cons (level : Nat) (item : Json) (items : List Json) :
    prettyItems level (item :: items) = newLine level ++ (prettyChars level item ++
      items.flatMap fun other => ',' :: (newLine level ++ prettyChars level other)) := by
  induction items generalizing item with
  | nil => simp [prettyItems]
  | cons next items ih =>
    have hstep : prettyItems level (item :: next :: items) =
        newLine level ++ prettyChars level item ++ ',' :: prettyItems level (next :: items) := by rw [prettyItems]; simp
    rw [hstep, ih, List.flatMap_cons]
    simp

/-- The value of a member stands behind a space. -/
def spacedChars (level : Nat) (value : Json) : List Char :=
  ' ' :: prettyChars level value

theorem prettyMembers_cons (level : Nat) (member : String × Json) (members : List (String × Json)) :
    prettyMembers level (member :: members) = newLine level ++ (memberText (spacedChars level) member ++
      members.flatMap fun other => ',' :: (newLine level ++ memberText (spacedChars level) other)) := by
  induction members generalizing member with
  | nil => simp [prettyMembers, memberText, spacedChars]
  | cons next members ih =>
    have hstep : prettyMembers level (member :: next :: members) = newLine level ++
        memberText (spacedChars level) member ++ ',' :: prettyMembers level (next :: members) := by
      rw [prettyMembers]
      · simp [memberText, spacedChars]
      · simp
    rw [hstep, ih, List.flatMap_cons]
    simp

theorem prettyChars_array_append (level : Nat) (item : Json) (items : List Json) (rest : List Char) :
    prettyChars level (.array (item :: items)) ++ rest = '[' :: (newLine (level + 1) ++ (prettyChars (level + 1) item ++
      moreText (newLine (level + 1)) (newLine level) ']' (prettyChars (level + 1)) items rest)) := by
  simp [prettyChars, prettyItems_cons, moreText]

theorem prettyChars_object_append (level : Nat) (member : String × Json) (members : List (String × Json))
    (rest : List Char) : prettyChars level (.object (member :: members)) ++ rest = '{' :: (newLine (level + 1) ++
      (memberText (spacedChars (level + 1)) member ++ moreText (newLine (level + 1)) (newLine level) '}'
        (memberText (spacedChars (level + 1))) members rest)) := by
  simp [prettyChars, prettyMembers_cons, moreText]

/-- There are fewer items in an array than characters in its text, and fewer characters in the text of each. -/
theorem length_lt_length_array (level : Nat) (items : List Json) :
    items.length < (prettyChars level (.array items)).length ∧
      ∀ item ∈ items, (prettyChars (level + 1) item).length < (prettyChars level (.array items)).length := by
  cases items with
  | nil => simp [prettyChars, leafChars]
  | cons item items =>
    obtain ⟨hcount, htexts⟩ := length_le_length_moreText (newLine (level + 1)) (newLine level) ']'
      (prettyChars (level + 1)) items []
    have htext := congrArg List.length (prettyChars_array_append level item items [])
    have hgap : (newLine (level + 1)).length = 2 * (level + 1) + 1 := by simp [newLine]
    simp only [List.append_nil, List.length_cons, List.length_append] at htext
    rw [List.length_cons, List.forall_mem_cons]
    refine ⟨by omega, by omega, fun other hother => ?_⟩
    have := htexts other hother
    omega

theorem length_lt_length_object (level : Nat) (members : List (String × Json)) :
    members.length < (prettyChars level (.object members)).length ∧ ∀ member ∈ members,
      (prettyChars (level + 1) member.2).length < (prettyChars level (.object members)).length := by
  cases members with
  | nil => simp [prettyChars, leafChars]
  | cons member members =>
    obtain ⟨hcount, htexts⟩ := length_le_length_moreText (newLine (level + 1)) (newLine level) '}'
      (memberText (spacedChars (level + 1))) members []
    have htext := congrArg List.length (prettyChars_object_append level member members [])
    have hvalue : ∀ other : String × Json,
        (prettyChars (level + 1) other.2).length < (memberText (spacedChars (level + 1)) other).length := by
      intro other
      simp only [memberText, spacedChars, List.length_append, List.length_cons]
      omega
    have hfirst := hvalue member
    simp only [List.append_nil, List.length_cons, List.length_append] at htext
    rw [List.length_cons, List.forall_mem_cons]
    refine ⟨by omega, by omega, fun other hother => ?_⟩
    have := htexts other hother
    have := hvalue other
    omega

theorem isSpace_of_mem_newLine {level : Nat} {c : Char} (h : c ∈ newLine level) : isSpace c = true := by
  rcases List.mem_cons.1 h with rfl | h
  · rfl
  · rw [List.eq_of_mem_replicate h]
    rfl

theorem layout_pretty (level : Nat) (bracket : Char) :
    Layout EndsNumber (newLine (level + 1)) (newLine level) bracket where
  isSpace_gap _ := isSpace_of_mem_newLine
  isSpace_close _ := isSpace_of_mem_newLine
  ends_comma := endsNumber_cons (by decide)
  ends_bracket _ := endsNumber_cons (by decide) _

/-! ## Reading back -/

theorem beginsItem_prettyChars {depth : Nat} {value : Json} (h : Readable depth value) (level : Nat) :
    BeginsItem (prettyChars level value) := by
  cases value with
  | null => exact ⟨'n', _, rfl, by decide, by decide⟩
  | bool value => cases value <;> exact ⟨_, _, rfl, by decide, by decide⟩
  | integer value =>
    have hchars : prettyChars level (.integer value) = integerChars value := by rw [prettyChars, leafChars] <;> simp
    rw [hchars, integerChars]
    split_ifs
    · exact ⟨'-', _, rfl, by decide, by decide⟩
    · obtain ⟨c, cs, hcs, hc, -⟩ := exists_decimalChars_eq_cons value.natAbs
      exact ⟨c, cs, hcs, isSpace_of_isDigit hc, by rintro rfl; exact absurd hc (by decide)⟩
  | float value => cases depth <;> cases h
  | string value => exact ⟨'"', _, rfl, by decide, by decide⟩
  | array items => cases items <;> exact ⟨'[', _, rfl, by decide, by decide⟩
  | object members => cases members <;> exact ⟨'{', _, rfl, by decide, by decide⟩

/-- White space in front of a value is passed over. -/
theorem readNested_space (bound depth : Nat) (cs : List Char) :
    readNested bound depth (' ' :: cs) = readNested bound depth cs := by
  have hskip : skipSpace (' ' :: cs) = skipSpace cs := by simp [skipSpace, isSpace]
  cases depth <;> simp only [readNested, readValueWith, hskip]

/-- A value that is neither an array nor an object is read from its text. -/
theorem readsAs_leaf {depth : Nat} {value : Json} (h : Readable depth value) (harray : ∀ items, value ≠ .array items)
    (hobject : ∀ members, value ≠ .object members) (level bound : Nat) (nested : Option (List Char → Step Json)) :
    ReadsAs (readValueWith bound nested) EndsNumber (prettyChars level value) value.sorted := by
  cases value with
  | null => intro rest _; rfl
  | bool value => exact readsAs_bool bound nested EndsNumber value
  | integer value =>
    obtain ⟨hmin, hmax⟩ : Int64.minValue.toInt ≤ value ∧ value < UInt64.size := by cases depth <;> exact h
    exact readsAs_integer bound nested hmin hmax
  | float value => cases depth <;> cases h
  | string text => exact readsAs_string bound nested EndsNumber text
  | array items => exact absurd rfl (harray items)
  | object members => exact absurd rfl (hobject members)

/-- An array is read from its text when its items are at the next level of nesting. -/
theorem readsAs_array {depth level bound : Nat} {items : List Json} (h : ∀ item ∈ items, Readable depth item)
    (hread : ∀ item ∈ items,
      ReadsAs (readNested bound depth) EndsNumber (prettyChars (level + 1) item) item.sorted)
    (hbound : items.length < bound) :
    ReadsAs (readNested bound (depth + 1)) EndsNumber (prettyChars level (.array items))
      (.array (items.map sorted)) := by
  intro rest _
  cases items with
  | nil =>
    obtain ⟨bound, rfl⟩ := Nat.exists_eq_succ_of_ne_zero (by omega : bound ≠ 0)
    rfl
  | cons item items =>
    have hbegins : ∀ other ∈ item :: items, BeginsItem (prettyChars (level + 1) other) :=
      fun other hother => beginsItem_prettyChars (h other hother) _
    rw [prettyChars_array_append, readNested, readValueWith, skipSpace_cons (by decide)]
    exact readItems_cons (layout_pretty level ']') hread hbegins hbound rest

/-- An object is read from its text when its values are at the next level of nesting. -/
theorem readsAs_object {depth level bound : Nat} {members : List (String × Json)}
    (hread : ∀ member ∈ members,
      ReadsAs (readNested bound depth) EndsNumber (prettyChars (level + 1) member.2) member.2.sorted)
    (hbound : members.length < bound) :
    ReadsAs (readNested bound (depth + 1)) EndsNumber (prettyChars level (.object members))
      (.object (Dict.ofList (members.map fun member => (member.1, member.2.sorted)))) := by
  intro rest _
  cases members with
  | nil =>
    obtain ⟨bound, rfl⟩ := Nat.exists_eq_succ_of_ne_zero (by omega : bound ≠ 0)
    rfl
  | cons member members =>
    have hspaced : ∀ other ∈ member :: members,
        ReadsAs (readNested bound depth) EndsNumber (spacedChars (level + 1) other.2) other.2.sorted := by
      intro other hother rest hrest
      rw [spacedChars, List.cons_append, readNested_space]
      exact hread other hother rest hrest
    rw [prettyChars_object_append, readNested, readValueWith, skipSpace_cons (by decide)]
    exact readMembers_cons (layout_pretty level '}') hspaced hbound rest

/-- A value is read from its pretty text by a reader with enough levels left and a bound that exceeds the text. -/
theorem readsAs_prettyChars {depth : Nat} {value : Json} (h : Readable depth value) {level bound : Nat}
    (hbound : (prettyChars level value).length < bound) :
    ReadsAs (readNested bound depth) EndsNumber (prettyChars level value) value.sorted := by
  -- the levels that the reader has left go down with those of the value
  induction depth generalizing value level with
  | zero =>
    exact readsAs_leaf h (by rintro items rfl; exact h) (by rintro members rfl; exact h) level bound none
  | succ depth ih =>
    match value with
    | .array items =>
      obtain ⟨hcount, htexts⟩ := length_lt_length_array level items
      rw [sorted, sortedItems_eq_map]
      exact readsAs_array h (fun item hitem => ih (h item hitem) (Nat.lt_trans (htexts item hitem) hbound))
        (Nat.lt_trans hcount hbound)
    | .object members =>
      obtain ⟨hcount, htexts⟩ := length_lt_length_object level members
      rw [sorted, sortedMembers_eq_map]
      exact readsAs_object (fun member hmember => ih (h member hmember) (Nat.lt_trans (htexts member hmember) hbound))
        (Nat.lt_trans hcount hbound)
    | .null | .bool _ | .integer _ | .float _ | .string _ => exact readsAs_leaf h (by simp) (by simp) level bound _

/-- A value is read back from its pretty text as itself in the order of its keys. -/
theorem read_pretty {value : Json} (h : Readable maxDepth value) : read value.pretty = .ok value.sorted := by
  have hvalue : readValue (prettyChars 0 value) = .ok (value.sorted, []) := by
    have hread := readsAs_prettyChars h (Nat.lt_succ_self (prettyChars 0 value).length) [] endsNumber_nil
    rwa [List.append_nil] at hread
  simp only [read, pretty, String.toList_ofList, hvalue]
  rfl

end TableScript.Json
