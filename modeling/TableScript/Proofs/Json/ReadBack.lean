import Mathlib.Data.List.Basic
import TableScript.Json.Printer
import TableScript.Json.Reader
import TableScript.Proofs.Dict

/-!
# Reading back what was written

A string is read back from its quoted text whatever characters it has.  Arrays and objects are read back when their
values are, with any white space in front of these (`readItems_cons`, `readMembers_cons`).  Of members with the same key
the last counts, so that the members read are those of `Dict.ofList`.
-/

namespace TableScript.Json

/-! ## Strings -/

/-- The escape of a control character by its number, after the backslash. -/
private theorem readEscape_hexByte (n : Nat) (h : n < 0x20) (rest : List Char) :
    readEscape ('u' :: '0' :: '0' :: (Text.hexByte n ++ rest)) = .ok (Char.ofNat n, 5) := by
  have hhigh := Text.hexValue?_hexDigit (n / 16) (by omega)
  have hlow := Text.hexValue?_hexDigit (n % 16) (by omega)
  have hzero : Text.hexValue? '0' = some 0 := rfl
  have hn : ((0 * 16 + 0) * 16 + n / 16) * 16 + n % 16 = n := by omega
  have h1 : ¬(0xDC00 ≤ n ∧ n ≤ 0xDFFF) := by omega
  have h2 : ¬(0xD800 ≤ n ∧ n ≤ 0xDBFF) := by omega
  simp only [readEscape, readFourHexDigits, Text.hexByte, List.cons_append, fourHexDigits?, hhigh, hlow, hzero,
    hn, h1, h2, if_false]

/-- An escaped character is read as the character. -/
private theorem readCharsAfter_escapeChar (done : List Char) (c : Char) (rest : List Char) :
    readCharsAfter done 0 (escapeChar c ++ rest) = readCharsAfter (c :: done) 0 rest := by
  unfold escapeChar
  split_ifs with hquote hback h8 hc hn hr ht hlow
  · subst hquote; simp [readCharsAfter, readEscape]
  · subst hback; simp [readCharsAfter, readEscape]
  · subst h8; simp [readCharsAfter, readEscape]
  · subst hc; simp [readCharsAfter, readEscape]
  · subst hn; simp [readCharsAfter, readEscape]
  · subst hr; simp [readCharsAfter, readEscape]
  · subst ht; simp [readCharsAfter, readEscape]
  · have hread := readEscape_hexByte c.toNat hlow rest
    rw [Char.ofNat_toNat] at hread
    simp only [List.cons_append, List.nil_append, readCharsAfter, hread]
    simp [Text.hexByte, readCharsAfter]
  · simp [readCharsAfter, hquote, hback, hlow]

/-- An escaped text is read up to its closing quote. -/
private theorem readCharsAfter_escaped (done cs rest : List Char) :
    readCharsAfter done 0 (cs.flatMap escapeChar ++ '"' :: rest) = .ok (done.reverse ++ cs, rest) := by
  induction cs generalizing done with
  | nil => simp [readCharsAfter]
  | cons c cs ih =>
    rw [List.flatMap_cons, List.append_assoc, readCharsAfter_escapeChar, ih]
    simp

/-- A quoted text is read as the text. -/
theorem readString_escaped (text : String) (rest : List Char) :
    readString (text.toList.flatMap escapeChar ++ '"' :: rest) = .ok (text, rest) := by
  simp [readString, readCharsAfter_escaped]

theorem skipSpace_cons {c : Char} (h : isSpace c = false) (rest : List Char) : skipSpace (c :: rest) = c :: rest := by
  simp [skipSpace, h]

theorem skipSpace_append {gap : List Char} (h : ∀ c ∈ gap, isSpace c = true) (cs : List Char) :
    skipSpace (gap ++ cs) = skipSpace cs := by
  rw [skipSpace, skipSpace, List.dropWhile_append_of_pos h]

/-! ## Separators -/

section Separators

variable {gap close : List Char} {c : Char}

theorem readListSeparator_close (first : Bool) (hclose : ∀ c ∈ close, isSpace c = true) (rest : List Char) :
    readListSeparator first (close ++ ']' :: rest) = .ok (.close, rest) := by
  rw [readListSeparator, skipSpace_append hclose, skipSpace_cons (by decide)]
  rfl

theorem readListSeparator_first (hgap : ∀ c ∈ gap, isSpace c = true) (hc : isSpace c = false) (hbracket : c ≠ ']')
    (cs : List Char) : readListSeparator true (gap ++ c :: cs) = .ok (.more, c :: cs) := by
  rw [readListSeparator, skipSpace_append hgap, skipSpace_cons hc]
  simp

theorem readListSeparator_comma (hgap : ∀ c ∈ gap, isSpace c = true) (hc : isSpace c = false) (hbracket : c ≠ ']')
    (cs : List Char) : readListSeparator false (',' :: (gap ++ c :: cs)) = .ok (.more, c :: cs) := by
  rw [readListSeparator, skipSpace_cons (by decide)]
  simp [skipSpace_append hgap, skipSpace_cons hc, hbracket]

theorem readKeySeparator_close (first : Bool) (hclose : ∀ c ∈ close, isSpace c = true) (rest : List Char) :
    readKeySeparator first (close ++ '}' :: rest) = .ok (.close, rest) := by
  rw [readKeySeparator, skipSpace_append hclose, skipSpace_cons (by decide)]
  rfl

theorem readKeySeparator_first (hgap : ∀ c ∈ gap, isSpace c = true) (cs : List Char) :
    readKeySeparator true (gap ++ '"' :: cs) = .ok (.more, cs) := by
  rw [readKeySeparator, skipSpace_append hgap, skipSpace_cons (by decide)]
  rfl

theorem readKeySeparator_comma (hgap : ∀ c ∈ gap, isSpace c = true) (cs : List Char) :
    readKeySeparator false (',' :: (gap ++ '"' :: cs)) = .ok (.more, cs) := by
  rw [readKeySeparator, skipSpace_cons (by decide)]
  simp [skipSpace_append hgap, skipSpace_cons (show isSpace '"' = false by decide)]

theorem readColon_cons (cs : List Char) : readColon (':' :: cs) = .ok ((), cs) := by
  rw [readColon, skipSpace_cons (by decide)]
  rfl

end Separators

/-! ## Arrays and objects in any layout -/

/-- A text is read as a value where what follows it ends it. -/
def ReadsAs (read : List Char → Step Json) (ends : List Char → Prop) (text : List Char) (value : Json) : Prop :=
  ∀ rest, ends rest → read (text ++ rest) = .ok (value, rest)

/-- A text is read from its quoted form, whatever follows. -/
theorem readsAs_string (bound : Nat) (nested : Option (List Char → Step Json)) (ends : List Char → Prop)
    (text : String) : ReadsAs (readValueWith bound nested) ends (quotedChars text) (.string text) := by
  intro rest _
  have hquote : isSpace '"' = false := by decide
  simp [readValueWith, quotedChars, skipSpace_cons hquote, readString_escaped]

/-- White space in front of each item or member, and in front of the closing bracket.  A comma and this bracket end what
stands before them. -/
structure Layout (ends : List Char → Prop) (gap close : List Char) (bracket : Char) : Prop where
  isSpace_gap : ∀ c ∈ gap, isSpace c = true
  isSpace_close : ∀ c ∈ close, isSpace c = true
  ends_comma : ∀ more, ends (',' :: more)
  ends_bracket : ∀ rest, ends (close ++ bracket :: rest)

/-- Items or members behind others, each behind a comma, up to the closing bracket. -/
def moreText {α : Type} (gap close : List Char) (bracket : Char) (text : α → List Char) (items : List α)
    (rest : List Char) : List Char :=
  (items.flatMap fun item => ',' :: (gap ++ text item)) ++ (close ++ bracket :: rest)

section Layout

variable {read : List Char → Step Json} {ends : List Char → Prop} {gap close : List Char} {text : Json → List Char}
  {value : Json → Json}

theorem Layout.ends_moreText {α : Type} {bracket : Char} (layout : Layout ends gap close bracket) (text : α → List Char)
    (items : List α) (rest : List Char) : ends (moreText gap close bracket text items rest) := by
  cases items with
  | nil => exact layout.ends_bracket rest
  | cons item items => exact layout.ends_comma _

theorem moreText_cons {α : Type} (gap close : List Char) (bracket : Char) (text : α → List Char) (item : α)
    (items : List α) (rest : List Char) : moreText gap close bracket text (item :: items) rest =
      ',' :: (gap ++ (text item ++ moreText gap close bracket text items rest)) := by
  simp [moreText]

theorem length_le_length_moreText {α : Type} (gap close : List Char) (bracket : Char) (text : α → List Char)
    (items : List α) (rest : List Char) : items.length ≤ (moreText gap close bracket text items rest).length ∧
      ∀ item ∈ items, (text item).length ≤ (moreText gap close bracket text items rest).length := by
  induction items with
  | nil => simp
  | cons item items ih =>
    rw [moreText_cons, List.forall_mem_cons]
    simp only [List.length_cons, List.length_append]
    refine ⟨by omega, by omega, fun other hother => ?_⟩
    have := ih.2 other hother
    omega

/-- An item begins like one: with neither white space nor a closing bracket. -/
def BeginsItem (text : List Char) : Prop :=
  ∃ c cs, text = c :: cs ∧ isSpace c = false ∧ c ≠ ']'

/-- The items behind others are read up to the closing bracket. -/
theorem readItems_more (layout : Layout ends gap close ']') {items : List Json}
    (hread : ∀ item ∈ items, ReadsAs read ends (text item) (value item))
    (hbegins : ∀ item ∈ items, BeginsItem (text item)) {done : List Json} (hdone : done ≠ []) {bound : Nat}
    (hbound : items.length < bound) (rest : List Char) :
    readItems read done bound (moreText gap close ']' text items rest) =
      .ok (.array (done.reverse ++ items.map value), rest) := by
  obtain ⟨bound, rfl⟩ := Nat.exists_eq_succ_of_ne_zero (by omega : bound ≠ 0)
  have hfirst : ∀ {done : List Json}, done ≠ [] → done.isEmpty = false := fun h => by simpa using h
  induction items generalizing done bound with
  | nil => simp [moreText, readItems, readListSeparator_close _ layout.isSpace_close]
  | cons item items ih =>
    rw [List.forall_mem_cons] at hread hbegins
    rw [List.length_cons, Nat.succ_lt_succ_iff] at hbound
    obtain ⟨bound, rfl⟩ := Nat.exists_eq_succ_of_ne_zero (by omega : bound ≠ 0)
    obtain ⟨c, cs, hcs, hspace, hbracket⟩ := hbegins.1
    have hitem := hread.1 _ (layout.ends_moreText text items rest)
    rw [moreText_cons, readItems, hfirst hdone, hcs, List.cons_append,
      readListSeparator_comma layout.isSpace_gap hspace hbracket, ← List.cons_append, ← hcs]
    simp only [hitem]
    rw [ih hread.2 hbegins.2 (List.cons_ne_nil _ _) bound (by omega)]
    simp

/-- An array with items is read after its opening bracket. -/
theorem readItems_cons (layout : Layout ends gap close ']') {item : Json} {items : List Json}
    (hread : ∀ other ∈ item :: items, ReadsAs read ends (text other) (value other))
    (hbegins : ∀ other ∈ item :: items, BeginsItem (text other)) {bound : Nat} (hbound : (item :: items).length < bound)
    (rest : List Char) :
    readItems read [] bound (gap ++ (text item ++ moreText gap close ']' text items rest)) =
      .ok (.array ((item :: items).map value), rest) := by
  obtain ⟨bound, rfl⟩ := Nat.exists_eq_succ_of_ne_zero (by omega : bound ≠ 0)
  rw [List.forall_mem_cons] at hread hbegins
  rw [List.length_cons, Nat.succ_lt_succ_iff] at hbound
  obtain ⟨c, cs, hcs, hspace, hbracket⟩ := hbegins.1
  have hitem := hread.1 _ (layout.ends_moreText text items rest)
  rw [readItems, hcs, List.cons_append, List.isEmpty_nil, readListSeparator_first layout.isSpace_gap hspace hbracket,
    ← List.cons_append, ← hcs]
  simp only [hitem]
  rw [readItems_more layout hread.2 hbegins.2 (List.cons_ne_nil _ _) hbound]
  rfl

/-- The text of a member of an object. -/
def memberText (text : Json → List Char) (member : String × Json) : List Char :=
  quotedChars member.1 ++ ':' :: text member.2

theorem memberText_append (text : Json → List Char) (member : String × Json) (rest : List Char) :
    memberText text member ++ rest =
      '"' :: (member.1.toList.flatMap escapeChar ++ '"' :: ':' :: (text member.2 ++ rest)) := by
  simp [memberText, quotedChars]

/-- One member is read after what stands before its key, with the opening quote. -/
theorem readMembers_member {first : Bool} {member : String × Json}
    (hread : ReadsAs read ends (text member.2) (value member.2)) (entries : List (String × Json)) (bound : Nat)
    {cs rest : List Char} (hends : ends rest) (hcs : readKeySeparator first cs =
      .ok (.more, member.1.toList.flatMap escapeChar ++ '"' :: ':' :: (text member.2 ++ rest))) :
    readMembers read first entries (bound + 1) cs =
      readMembers read false (Dict.insert member.1 (value member.2) entries) bound rest := by
  simp only [readMembers, hcs, readString_escaped, readColon_cons, hread rest hends]

/-- The members behind others are read up to the closing brace. -/
theorem readMembers_more (layout : Layout ends gap close '}') {members : List (String × Json)}
    (hread : ∀ member ∈ members, ReadsAs read ends (text member.2) (value member.2)) (entries : List (String × Json))
    {bound : Nat} (hbound : members.length < bound) (rest : List Char) :
    readMembers read false entries bound (moreText gap close '}' (memberText text) members rest) =
      .ok (.object (Dict.insertAll (members.map fun member => (member.1, value member.2)) entries), rest) := by
  obtain ⟨bound, rfl⟩ := Nat.exists_eq_succ_of_ne_zero (by omega : bound ≠ 0)
  induction members generalizing entries bound with
  | nil => simp [moreText, readMembers, readKeySeparator_close _ layout.isSpace_close, Dict.insertAll]
  | cons member members ih =>
    rw [List.forall_mem_cons] at hread
    rw [List.length_cons, Nat.succ_lt_succ_iff] at hbound
    obtain ⟨bound, rfl⟩ := Nat.exists_eq_succ_of_ne_zero (by omega : bound ≠ 0)
    rw [moreText_cons, memberText_append,
      readMembers_member hread.1 entries _ (layout.ends_moreText (memberText text) members rest)
        (readKeySeparator_comma layout.isSpace_gap _), ih hread.2 _ bound (by omega)]
    rfl

/-- An object with members is read after its opening brace, as the dictionary of them. -/
theorem readMembers_cons (layout : Layout ends gap close '}') {member : String × Json} {members : List (String × Json)}
    (hread : ∀ other ∈ member :: members, ReadsAs read ends (text other.2) (value other.2)) {bound : Nat}
    (hbound : (member :: members).length < bound) (rest : List Char) :
    readMembers read true [] bound
        (gap ++ (memberText text member ++ moreText gap close '}' (memberText text) members rest)) =
      .ok (.object (Dict.ofList ((member :: members).map fun other => (other.1, value other.2))), rest) := by
  obtain ⟨bound, rfl⟩ := Nat.exists_eq_succ_of_ne_zero (by omega : bound ≠ 0)
  rw [List.forall_mem_cons] at hread
  rw [List.length_cons, Nat.succ_lt_succ_iff] at hbound
  rw [memberText_append, readMembers_member hread.1 [] _ (layout.ends_moreText (memberText text) members rest)
    (readKeySeparator_first layout.isSpace_gap _), readMembers_more layout hread.2 _ hbound]
  rfl

end Layout

/-! ## Compact objects -/

/-- A value that is read from its compact text when a comma or a closing brace follows. -/
def ReadsBack (read : List Char → Step Json) (value : Json) : Prop :=
  ∀ c ∈ [',', '}'], ∀ rest, read (compactChars value ++ c :: rest) = .ok (value, c :: rest)

/-- A comma or a closing brace comes next. -/
private def EndsMember (rest : List Char) : Prop :=
  ∃ c ∈ [',', '}'], ∃ more, rest = c :: more

private theorem ReadsBack.readsAs {read : List Char → Step Json} {value : Json} (h : ReadsBack read value) :
    ReadsAs read EndsMember (compactChars value) value := by
  rintro _ ⟨c, hc, rest, rfl⟩
  exact h c hc rest

private theorem layout_compact : Layout EndsMember [] [] '}' :=
  ⟨by simp, by simp, fun more => ⟨',', by simp, more, rfl⟩, fun rest => ⟨'}', by simp, rest, rfl⟩⟩

theorem readsBack_string (bound : Nat) (nested : Option (List Char → Step Json)) (text : String) :
    ReadsBack (readValueWith bound nested) (.string text) :=
  fun c _ rest => readsAs_string bound nested (fun _ => True) text (c :: rest) trivial

private theorem compactMembers_cons (member : String × Json) (members : List (String × Json)) :
    compactMembers (member :: members) =
      memberText compactChars member ++ members.flatMap fun member => ',' :: memberText compactChars member := by
  induction members generalizing member with
  | nil => simp [compactMembers, memberText]
  | cons next members ih =>
    have hstep : compactMembers (member :: next :: members) =
        memberText compactChars member ++ ',' :: compactMembers (next :: members) := by
      simp [compactMembers, memberText]
    rw [hstep, ih, List.flatMap_cons]
    simp

/-- An object is read back from its compact text when its values are, as the dictionary of its members. -/
theorem readMembers_compactMembers {read : List Char → Step Json} {members : List (String × Json)}
    (hread : ∀ member ∈ members, ReadsBack read member.2) {bound : Nat} (hbound : members.length < bound)
    (rest : List Char) :
    readMembers read true [] bound (compactMembers members ++ '}' :: rest) =
      .ok (.object (Dict.ofList members), rest) := by
  cases members with
  | nil =>
    obtain ⟨bound, rfl⟩ := Nat.exists_eq_succ_of_ne_zero (by omega : bound ≠ 0)
    simp [compactMembers, readMembers, readKeySeparator, skipSpace, isSpace, Dict.ofList, Dict.insertAll]
  | cons member members =>
    have hread' : ∀ other ∈ member :: members, ReadsAs read EndsMember (compactChars other.2) (id other.2) :=
      fun other hother => (hread other hother).readsAs
    have hmembers := readMembers_cons layout_compact hread' hbound rest
    simpa [compactMembers_cons, moreText] using hmembers

private theorem length_le_length_compactMembers (members : List (String × Json)) :
    members.length ≤ (compactMembers members).length := by
  have hmore (rest : List (String × Json)) :
      rest.length ≤ (rest.flatMap fun member => ',' :: memberText compactChars member).length := by
    induction rest with
    | nil => simp
    | cons member rest ih =>
      rw [List.flatMap_cons, List.length_append, List.length_cons, List.length_cons]
      omega
  cases members with
  | nil => simp
  | cons member members =>
    have hone : 1 ≤ (memberText compactChars member).length := by simp [memberText, quotedChars]
    have := hmore members
    rw [compactMembers_cons, List.length_append, List.length_cons]
    omega

/-- An object with its keys in order is read back inside other values when its values are. -/
theorem readsBack_object {read : List Char → Step Json} {members : List (String × Json)}
    (hordered : Dict.Ordered members) (hread : ∀ member ∈ members, ReadsBack read member.2) {bound : Nat}
    (hbound : members.length < bound) : ReadsBack (readValueWith bound (some read)) (.object members) := by
  intro c _ rest
  have hchars : compactChars (.object members) ++ c :: rest = '{' :: (compactMembers members ++ '}' :: c :: rest) := by
    simp [compactChars]
  rw [hchars, readValueWith, skipSpace_cons (by decide)]
  simp only [readMembers_compactMembers hread hbound, hordered.ofList_eq]

/-- The compact text of an object is read as the dictionary of its members when its values are read back at the next
level of nesting, with more room than there are characters. -/
theorem read_compact_object_of_nested {members : List (String × Json)}
    (hread : ∀ bound > (compactMembers members).length, ∀ member ∈ members,
      ReadsBack (readNested bound (maxDepth - 1)) member.2) :
    read (Json.object members).compact = .ok (.object (Dict.ofList members)) := by
  have hchars : (Json.object members).compact.toList = '{' :: (compactMembers members ++ ['}']) := by
    simp [compact, compactChars]
  have hbound := length_le_length_compactMembers members
  have hvalue : readValue ('{' :: (compactMembers members ++ ['}'])) = .ok (.object (Dict.ofList members), []) := by
    change readNested _ (maxDepth - 1 + 1) _ = _
    rw [readNested, readValueWith, skipSpace_cons (by decide)]
    exact readMembers_compactMembers (hread _ (by simp; omega)) (by simp; omega) []
  simp only [read, hchars, hvalue]
  rfl

/-- The compact text of an object whose values are read back is read as the dictionary of its members. -/
theorem read_compact_object {members : List (String × Json)}
    (hread : ∀ bound nested, ∀ member ∈ members, ReadsBack (readValueWith bound nested) member.2) :
    read (Json.object members).compact = .ok (.object (Dict.ofList members)) :=
  read_compact_object_of_nested fun bound _ => hread bound (some (readNested bound (maxDepth - 2)))

/-- An object nested in another under one key is read back when its values are. -/
theorem read_compact_object_object (key : String) {members : List (String × Json)} (hordered : Dict.Ordered members)
    (hread : ∀ bound nested, ∀ member ∈ members, ReadsBack (readValueWith bound nested) member.2) :
    read (Json.object [(key, .object members)]).compact = .ok (.object [(key, .object members)]) := by
  refine read_compact_object_of_nested fun bound hbound member hmember => ?_
  obtain rfl := List.mem_singleton.mp hmember
  have hlength := length_le_length_compactMembers members
  have hroom : members.length < bound := by
    simp only [compactMembers, compactChars, List.length_append, List.length_cons] at hbound
    omega
  exact readsBack_object hordered (hread bound (some (readNested bound (maxDepth - 3)))) hroom

end TableScript.Json
