import TableScript.Json.Decoder
import TableScript.Proofs.Json.Pretty

/-!
# Decoding pretty texts

Decoders take what was written back to what it was written from, both from the value that a text is read as and from the
text itself.  A record is read from the pretty text of its members, each by the field with its key (`read_record`).
-/

namespace TableScript.Json.Decoder

variable {α σ : Type}

/-! ## From values -/

/-- A list is decoded from the array of its items when these are decoded. -/
theorem ofJson_list {decoder : Decoder α} {encode : α → Json} {items : List α}
    (h : ∀ a ∈ items, decoder.ofJson (encode a) = .ok a) :
    (list decoder).ofJson (.array (items.map encode)) = .ok items := by
  show (items.map encode).mapM decoder.ofJson = .ok items
  induction items with
  | nil => rfl
  | cons a items ih =>
    rw [List.forall_mem_cons] at h
    rw [List.map_cons, List.mapM_cons, h.1, ih h.2]
    rfl

theorem ofJson_natural (name : String) {bound n : Nat} (h : n < bound) :
    (natural name bound).ofJson (.natural n) = .ok n := by
  simp [natural, naturalOf, Json.natural, h]

theorem ofJson_texts (texts : List String) : (list text).ofJson (.strings texts) = .ok texts :=
  ofJson_list fun _ _ => rfl

theorem ofJson_map {β : Type} {decoder : Decoder α} {value : Json} {a : α} (h : decoder.ofJson value = .ok a)
    (f : α → β) : (decoder.map f).ofJson value = .ok (f a) := by
  show (decoder.ofJson value).map f = _
  rw [h]
  rfl

variable {fields : List (Field σ)} {members : List (String × Json)} {sets : List (σ → σ)}

/-- The state of a record after what some members do to it. -/
def assign (sets : List (σ → σ)) (state : σ) : σ :=
  sets.foldl (fun state set => set state) state

/-- A member is decoded by the field with its key, which does something to the record. -/
def DecodesField (fields : List (Field σ)) (member : String × Json) (set : σ → σ) : Prop :=
  ∃ field, fields.find? (fun field => field.key = member.1) = some field ∧ field.decoder.ofJson member.2 = .ok set

theorem decodeMembers_eq_ok (h : List.Forall₂ (DecodesField fields) members sets) (state : σ) :
    decodeMembers fields members state = .ok (assign sets state) := by
  induction h generalizing state with
  | nil => rfl
  | cons hmember _ ih =>
    obtain ⟨field, hfield, hvalue⟩ := hmember
    simp only [decodeMembers, hfield, hvalue, ih]
    rfl

/-- No required field is missing among some keys. -/
def Complete (fields : List (Field σ)) (keys : List String) : Prop :=
  ∀ field ∈ fields, field.required → field.key ∈ keys

theorem Complete.lacking?_eq_none (h : Complete fields (members.map Prod.fst)) : lacking? fields members = none := by
  rw [lacking?, Option.map_eq_none_iff]
  refine List.find?_eq_none.2 fun field hmem hmissing => ?_
  rw [Bool.and_eq_true, Option.isNone_iff_eq_none, Dict.get?_eq_none_iff] at hmissing
  exact hmissing.2 (h field hmem hmissing.1)

theorem Complete.find?_eq_none {keys : List String} (h : Complete fields keys) :
    fields.find? (fun field => field.required && !keys.contains field.key) = none := by
  refine List.find?_eq_none.2 fun field hmem hmissing => ?_
  simp only [Bool.and_eq_true, Bool.not_eq_true', List.contains_eq_mem, decide_eq_false_iff_not] at hmissing
  exact hmissing.2 (h field hmem hmissing.1)

/-- A record is decoded from an object, each of whose members has a field that decodes it, if no required field is
missing. -/
theorem ofJson_record (name : String) (start : σ) (h : List.Forall₂ (DecodesField fields) members sets)
    (hcomplete : Complete fields (members.map Prod.fst)) :
    (record name fields start).ofJson (.object members) = .ok (assign sets start) := by
  show (decodeMembers fields members start >>= fun state => _) = _
  rw [decodeMembers_eq_ok h]
  simp only [hcomplete.lacking?_eq_none]
  rfl

/-! ## From texts -/

/-- A decoder reads a value from its pretty text as the value of a member. -/
def ReadsMember (decoder : Decoder α) (value : Json) (a : α) : Prop :=
  ∀ level rest, EndsNumber rest → decoder.read (spacedChars level value ++ rest) = .ok (a, rest)

theorem ReadsMember.map {β : Type} {decoder : Decoder α} {value : Json} {a : α} (h : ReadsMember decoder value a)
    (f : α → β) : ReadsMember (decoder.map f) value (f a) := by
  intro level rest hrest
  show (decoder.read _).map _ = _
  rw [h level rest hrest]
  rfl

theorem readsMember_text (s : String) : ReadsMember text (.string s) s := by
  intro level rest _
  have hchars : spacedChars level (.string s) ++ rest = ' ' :: '"' :: (s.toList.flatMap escapeChar ++ '"' :: rest) := by
    simp [spacedChars, prettyChars, leafChars, quotedChars]
  have hskip : skipSpace (' ' :: '"' :: (s.toList.flatMap escapeChar ++ '"' :: rest)) =
      '"' :: (s.toList.flatMap escapeChar ++ '"' :: rest) := by simp [skipSpace, isSpace]
  rw [hchars, text]
  simp only [hskip, readString_escaped]
  rfl

theorem readsMember_natural (name : String) {bound n : Nat} (hbound : n < bound) (hn : n < UInt64.size) :
    ReadsMember (natural name bound) (.natural n) n := by
  intro level rest hrest
  have hchars : spacedChars level (.natural n) = ' ' :: Text.decimalChars n := by
    simp [spacedChars, Json.natural, prettyChars, leafChars, integerChars]
  obtain ⟨c, cs, hcs, hc, -⟩ := exists_decimalChars_eq_cons n
  have hskip : skipSpace (' ' :: c :: (cs ++ rest)) = c :: (cs ++ rest) := by
    simp [skipSpace, isSpace_of_isDigit hc, show isSpace ' ' = true from rfl]
  have hnumber : readNumber false (c :: (cs ++ rest)) = .ok (.integer n, rest) := by
    rw [← List.cons_append, ← hcs, readNumber_decimalChars false (by rw [maxSignificand]; omega) hrest]
    rfl
  have hvalue : naturalOf name bound (.integer n) = .ok n := ofJson_natural name hbound
  rw [hchars, hcs, natural]
  simp only [List.cons_append, hskip]
  split
  · rename_i heq
    cases heq
    exact absurd hc (by decide)
  · rename_i heq
    cases heq
    simp only [hc, ↓reduceIte, hnumber, hvalue]
  · rename_i heq
    cases heq

/-- What is decoded from a value is read from its pretty text. -/
theorem readsMember_ofValue {ofJson : Json → Except Misfit α} {value : Json} {a : α} (h : Readable maxDepth value)
    (ha : ofJson value.sorted = .ok a) : ReadsMember (ofValue ofJson) value a := by
  intro level rest hrest
  have hbound : (prettyChars level value).length < (spacedChars level value ++ rest).length + 1 := by
    simp only [spacedChars, List.length_append, List.length_cons]
    omega
  have hvalue : readValue (spacedChars level value ++ rest) = .ok (value.sorted, rest) := by
    rw [readValue]
    rw [spacedChars, List.cons_append] at hbound ⊢
    rw [readNested_space]
    exact readsAs_prettyChars h hbound rest hrest
  simp only [ofValue, hvalue, ha]

/-! ## Records -/

variable {seen : List String} {state : σ} {bound : Nat}

/-- A member is read by the field with its key, which does something to the record. -/
def ReadsField (fields : List (Field σ)) (member : String × Json) (set : σ → σ) : Prop :=
  ∃ field, fields.find? (fun field => field.key = member.1) = some field ∧ ReadsMember field.decoder member.2 set

theorem readFields_member {first : Bool} {member : String × Json} {set : σ → σ} {level : Nat}
    (h : ReadsField fields member set) (hseen : member.1 ∉ seen) {cs rest : List Char} (hrest : EndsNumber rest)
    (hcs : readKeySeparator first cs =
      .ok (.more, member.1.toList.flatMap escapeChar ++ '"' :: ':' :: (spacedChars level member.2 ++ rest))) :
    readFields fields seen first state (bound + 1) cs =
      readFields fields (member.1 :: seen) false (set state) bound rest := by
  obtain ⟨field, hfield, hread⟩ := h
  have hcontains : seen.contains member.1 = false := by simpa using hseen
  simp only [readFields, hcs, lift, Except.mapError, andThen, readString_escaped, hfield, hcontains, readColon_cons,
    hread level rest hrest, Bool.false_eq_true, ↓reduceIte]

/-- The members behind others are read up to the closing brace, each once. -/
theorem readFields_more (level : Nat) (h : List.Forall₂ (ReadsField fields) members sets)
    (hkeys : (members.map Prod.fst).Nodup) (hseen : ∀ member ∈ members, member.1 ∉ seen)
    (hbound : members.length < bound) (rest : List Char) :
    readFields fields seen false state bound (moreText (newLine (level + 1)) (newLine level) '}'
        (memberText (spacedChars (level + 1))) members rest) =
      .ok ((assign sets state, (members.map Prod.fst).reverse ++ seen), rest) := by
  obtain ⟨bound, rfl⟩ := Nat.exists_eq_succ_of_ne_zero (by omega : bound ≠ 0)
  have layout := layout_pretty level '}'
  induction h generalizing seen state bound with
  | nil =>
    simp [moreText, readFields, readKeySeparator_close _ layout.isSpace_close, lift, Except.mapError, andThen, assign]
  | @cons member set members sets hfield _ ih =>
    rw [List.map_cons, List.nodup_cons] at hkeys
    rw [List.length_cons, Nat.succ_lt_succ_iff] at hbound
    rw [List.forall_mem_cons] at hseen
    obtain ⟨bound, rfl⟩ := Nat.exists_eq_succ_of_ne_zero (by omega : bound ≠ 0)
    have hothers : ∀ other ∈ members, other.1 ∉ member.1 :: seen := by
      intro other hother
      rw [List.mem_cons, not_or]
      refine ⟨fun he => hkeys.1 ?_, hseen.2 other hother⟩
      rw [← he]
      exact List.mem_map_of_mem hother
    rw [moreText_cons, memberText_append, readFields_member hfield hseen.1 (layout.ends_moreText _ members rest)
      (readKeySeparator_comma layout.isSpace_gap _), ih hkeys.2 hothers bound (by omega)]
    simp [assign]

/-- A record is read from the pretty text of an object, each of whose members has a field of its own that reads it, if
no required field is missing. -/
theorem read_record (name : String) (start : σ) (level : Nat) {member : String × Json}
    (h : List.Forall₂ (ReadsField fields) (member :: members) sets)
    (hkeys : ((member :: members).map Prod.fst).Nodup)
    (hcomplete : Complete fields ((member :: members).map Prod.fst)) (rest : List Char) :
    (record name fields start).read (prettyChars level (.object (member :: members)) ++ rest) =
      .ok (assign sets start, rest) := by
  have layout := layout_pretty level '}'
  obtain ⟨set, sets, hfield, hothers, rfl⟩ : ∃ set others, ReadsField fields member set ∧
      List.Forall₂ (ReadsField fields) members others ∧ sets = set :: others := by
    cases h with
    | cons hfield hothers => exact ⟨_, _, hfield, hothers, rfl⟩
  rw [List.map_cons, List.nodup_cons] at hkeys
  have hother : ∀ other ∈ members, other.1 ∉ [member.1] := by
    intro other hmem he
    rw [List.mem_singleton] at he
    exact hkeys.1 (he ▸ List.mem_map_of_mem hmem)
  rw [prettyChars_object_append]
  generalize htext : newLine (level + 1) ++ (memberText (spacedChars (level + 1)) member ++
    moreText (newLine (level + 1)) (newLine level) '}' (memberText (spacedChars (level + 1))) members rest) = text
  have hlength : members.length < text.length := by
    have hcount := (length_le_length_moreText (newLine (level + 1)) (newLine level) '}'
      (memberText (spacedChars (level + 1))) members rest).1
    rw [← htext]
    simp only [List.length_append, memberText, List.length_cons]
    omega
  have hread : readFields fields [] true start (text.length + 1) text =
      .ok ((assign sets (set start), (members.map Prod.fst).reverse ++ [member.1]), rest) := by
    rw [← htext, memberText_append, readFields_member hfield List.not_mem_nil
      (layout.ends_moreText _ members rest) (readKeySeparator_first layout.isSpace_gap _), ← memberText_append, htext]
    exact readFields_more level hothers hkeys.2 hother hlength rest
  have hseen : Complete fields ((members.map Prod.fst).reverse ++ [member.1]) := by
    intro field hmem hrequired
    have hkey := hcomplete field hmem hrequired
    rw [List.map_cons, List.mem_cons] at hkey
    rw [List.mem_append, List.mem_reverse, List.mem_singleton]
    exact hkey.symm
  rw [record]
  simp only [skipSpace_cons (show isSpace '{' = false by decide), hread, andThen, hseen.find?_eq_none]
  rfl

/-- What is read from a whole pretty text is decoded from it. -/
theorem ofText_pretty {decoder : Decoder α} {value : Json} {a : α}
    (h : decoder.read (prettyChars 0 value) = .ok (a, [])) : decoder.ofText value.pretty = .ok a := by
  rw [ofText, pretty, String.toList_ofList]
  simp only [h]
  rfl

end TableScript.Json.Decoder
