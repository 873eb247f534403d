import TableScript.Proofs.Script.Delimiters
import TableScript.Proofs.Script.Generation
import TableScript.Proofs.Script.Steps

/-!
# The libraries that scripts use

An import line binds a name (`Line.imported?`), and other lines mention names outside literals and comments
(`Line.identifiers`).  Each stage mentions just the library names that its import lines bind (`StageId.needs_blocks`),
whatever its holes are filled with.  So a script mentions a library name only behind a line that binds it, or reports
the line as missing, and reports no line whose name it does not mention (`generated_imports_match`).
-/

namespace TableScript

namespace Line

/-- The names of a line outside literals and comments. -/
def identifiers (line : List Char) : List (List Char) :=
  names (codeFrom .code line)

/-- The name that an import line binds, when it imports a module under a name or a name from a module.  Other lines
are no import lines. -/
def imported? (line : List Char) : Option (List Char) :=
  match Text.splitOn ' ' line with
  | [first, _, third, name] =>
    if first = "import".toList ∧ third = "as".toList ∨ first = "from".toList ∧ third = "import".toList then some name
    else none
  | _ => none

/-- The names that lines other than import lines mention. -/
def mentioned (lines : List (List Char)) : List (List Char) :=
  (lines.filter fun line => imported? line = none).flatMap identifiers

/-- The names that some import lines bind. -/
def boundNames (lines : List String) : List (List Char) :=
  lines.filterMap fun line => imported? line.toList

end Line

open Line

/-- The names that the import lines of fragments bind, and that of pandas. -/
def libraryNames : List (List Char) :=
  "pd".toList :: boundNames Fragments.importLines

namespace Line

variable {name : List Char} {known more : List (List Char)} {lines others : List (List Char)}

theorem mem_mentioned : name ∈ mentioned lines ↔ ∃ line ∈ lines, imported? line = none ∧ name ∈ identifiers line := by
  simp [mentioned, and_assoc]

theorem mem_boundNames {lines : List String} : name ∈ boundNames lines ↔ ∃ line ∈ lines, imported? line.toList = some name := by
  simp [boundNames]

/-! ### Lines that bind what they mention -/

/-- Library names are known, or bound by an earlier line, where they are mentioned. -/
def BoundFrom (known : List (List Char)) : List (List Char) → Prop
  | [] => True
  | line :: lines => (imported? line = none → ∀ name ∈ identifiers line, name ∈ libraryNames → name ∈ known) ∧
      BoundFrom (known ++ (imported? line).toList) lines

instance decidableBoundFrom : (known lines : List (List Char)) → Decidable (BoundFrom known lines)
  | _, [] => inferInstanceAs (Decidable True)
  | known, line :: lines =>
    have := decidableBoundFrom (known ++ (imported? line).toList) lines
    inferInstanceAs (Decidable (_ ∧ _))

/-- Whether library names are known or bound, with these names given. -/
def boundFrom (libraries known : List (List Char)) : List (List Char) → Bool
  | [] => true
  | line :: lines =>
    ((imported? line).isSome || (identifiers line).all fun name => !libraries.contains name || known.contains name) &&
      boundFrom libraries (known ++ (imported? line).toList) lines

/-- The library names need to be computed only once to know that some lines bind theirs. -/
theorem boundFrom_iff : BoundFrom known lines ↔ boundFrom libraryNames known lines := by
  induction lines generalizing known with
  | nil => simp [BoundFrom, boundFrom]
  | cons line lines ih =>
    rw [BoundFrom, boundFrom, Bool.and_eq_true, ← ih, Bool.or_eq_true, List.all_eq_true]
    refine and_congr_left' ?_
    cases imported? line with
    | none => simp [imp_iff_not_or]
    | some name => simp

theorem BoundFrom.mono (h : BoundFrom known lines) (hk : ∀ name ∈ known, name ∈ more) : BoundFrom more lines := by
  induction lines generalizing known more with
  | nil => trivial
  | cons line lines ih =>
    refine ⟨fun hl name hn hlib => hk name (h.1 hl name hn hlib), ih h.2 fun name hn => ?_⟩
    rcases List.mem_append.1 hn with hn | hn
    · exact List.mem_append_left _ (hk name hn)
    · exact List.mem_append_right _ hn

theorem boundFrom_append : BoundFrom known (lines ++ others) ↔
    BoundFrom known lines ∧ BoundFrom (known ++ lines.filterMap imported?) others := by
  induction lines generalizing known with
  | nil => simp [BoundFrom]
  | cons line lines ih =>
    have hbound : (imported? line).toList ++ lines.filterMap imported? = (line :: lines).filterMap imported? := by
      rw [List.filterMap_cons]
      cases imported? line <;> rfl
    rw [List.cons_append, BoundFrom, BoundFrom, ih, List.append_assoc, hbound, and_assoc]

theorem boundFrom_flatMap {α : Type} {f : α → List (List Char)} {steps : List α}
    (h : ∀ step ∈ steps, BoundFrom known (f step)) : BoundFrom known (steps.flatMap f) := by
  induction steps with
  | nil => trivial
  | cons step steps ih =>
    rw [List.forall_mem_cons] at h
    rw [List.flatMap_cons, boundFrom_append]
    exact ⟨h.1, (ih h.2).mono fun name hn => List.mem_append_left _ hn⟩

/-- Where a library name is mentioned, it is known or an earlier line binds it. -/
theorem BoundFrom.mem_or_exists (h : BoundFrom known (lines ++ line :: others)) (hl : imported? line = none)
    (hn : name ∈ identifiers line) (hlib : name ∈ libraryNames) :
    name ∈ known ∨ ∃ earlier ∈ lines, imported? earlier = some name := by
  rw [boundFrom_append, BoundFrom] at h
  have hmem := h.2.1 hl name hn hlib
  rwa [List.mem_append, List.mem_filterMap] at hmem

/-- Lines that bind the same name and mention the same library names. -/
def SameLibraries (u v : List Char) : Prop :=
  imported? u = imported? v ∧ ∀ name ∈ libraryNames, name ∈ identifiers u ↔ name ∈ identifiers v

section

variable (h : List.Forall₂ SameLibraries lines others)

include h

theorem boundFrom_congr : BoundFrom known lines ↔ BoundFrom known others := by
  induction h generalizing known with
  | nil => exact Iff.rfl
  | cons hl _ ih =>
    rw [BoundFrom, BoundFrom, hl.1, ih]
    refine and_congr_left' (imp_congr_right fun _ => forall_congr' fun name => ?_)
    have hlib := hl.2 name
    tauto

theorem mem_mentioned_congr (hn : name ∈ libraryNames) : name ∈ mentioned lines ↔ name ∈ mentioned others := by
  rw [mem_mentioned, mem_mentioned]
  induction h with
  | nil => exact Iff.rfl
  | cons hl _ ih => rw [List.exists_mem_cons_iff, List.exists_mem_cons_iff, hl.1, hl.2 name hn, ih]

end

end Line

/-- Some lines mention the library names that some import lines bind and no others, but for those that they bind
themselves before. -/
structure Needs (imports : List String) (lines : List (List Char)) : Prop where
  bound : BoundFrom (boundNames imports) lines
  used : ∀ line ∈ imports, ∃ name ∈ libraryNames, imported? line.toList = some name ∧ name ∈ mentioned lines

section

variable {imports imports' : List String} {lines others : List (List Char)}

theorem needs_iff : Needs imports lines ↔ BoundFrom (boundNames imports) lines ∧
    ∀ line ∈ imports, ∃ name ∈ libraryNames, imported? line.toList = some name ∧ name ∈ mentioned lines :=
  ⟨fun h => ⟨h.bound, h.used⟩, fun h => ⟨h.1, h.2⟩⟩

instance : Decidable (Needs imports lines) :=
  decidable_of_iff _ needs_iff.symm

theorem Needs.congr (h : Needs imports others) (hs : List.Forall₂ SameLibraries lines others) :
    Needs imports lines := by
  refine ⟨(boundFrom_congr hs).2 h.bound, fun line hl => ?_⟩
  obtain ⟨name, hlib, hi, hm⟩ := h.used line hl
  exact ⟨name, hlib, hi, (mem_mentioned_congr hs hlib).2 hm⟩

theorem Needs.append (h : Needs imports lines) (h' : Needs imports' others) :
    Needs (imports ++ imports') (lines ++ others) := by
  have hnames : boundNames (imports ++ imports') = boundNames imports ++ boundNames imports' := List.filterMap_append
  have hmentioned : mentioned (lines ++ others) = mentioned lines ++ mentioned others := by
    rw [mentioned, List.filter_append, List.flatMap_append]
    rfl
  constructor
  · -- both parts know more names than their own import lines bind
    rw [hnames, boundFrom_append]
    refine ⟨h.bound.mono fun name hn => List.mem_append_left _ hn, h'.bound.mono fun name hn => ?_⟩
    exact List.mem_append_left _ (List.mem_append_right _ hn)
  · intro line hl
    rw [hmentioned]
    rcases List.mem_append.1 hl with hl | hl
    · obtain ⟨name, hlib, hi, hm⟩ := h.used line hl
      exact ⟨name, hlib, hi, List.mem_append_left _ hm⟩
    · obtain ⟨name, hlib, hi, hm⟩ := h'.used line hl
      exact ⟨name, hlib, hi, List.mem_append_right _ hm⟩

theorem needs_nil (h : ∀ line ∈ lines, imported? line = none → identifiers line = []) : Needs [] lines := by
  refine ⟨?_, by simp⟩
  generalize boundNames [] = known
  induction lines generalizing known with
  | nil => trivial
  | cons line lines ih =>
    rw [List.forall_mem_cons] at h
    exact ⟨fun hl => by simp [h.1 hl], ih h.2 _⟩

theorem identifiers_comment {line : List Char} (h : CommentLine line) : identifiers line = [] := by
  obtain ⟨text, rfl⟩ := List.head?_eq_some_iff.1 h.2
  rw [identifiers, codeFrom_comment]
  decide

end

/-! ### Values between delimiters -/

namespace Line

/-- Plain characters, at least one, with no library name among their names. -/
def Neutral (word : List Char) : Prop :=
  word ≠ [] ∧ (∀ c ∈ word, isPlain c) ∧ ∀ name ∈ names word, name ∉ libraryNames

instance : DecidablePred Neutral := fun word =>
  inferInstanceAs (Decidable (word ≠ [] ∧ (∀ c ∈ word, isPlain c) ∧ ∀ name ∈ names word, name ∉ libraryNames))

theorem Neutral.not_mem {word name : List Char} (h : Neutral word) (hn : name ∈ libraryNames) : name ∉ names word :=
  fun hm => h.2.2 name hm hn

theorem neutral_digits {digits : List Char} (hne : digits ≠ []) (h : ∀ c ∈ digits, c.isDigit) : Neutral digits := by
  refine ⟨hne, fun c hc => isPlain_of_isNameChar ?_, ?_⟩
  · simp [isNameChar, Char.isAlphanum, h c hc]
  · rw [names_digits h]
    simp

/-- A sign may stand in front. -/
theorem Neutral.signed {word : List Char} (h : Neutral word) : Neutral ('+' :: word) := by
  have hnames : names ('+' :: word) = names word := names_append_cons (by decide) [] word
  refine ⟨by simp, ?_, ?_⟩
  · rw [List.forall_mem_cons]
    exact ⟨by decide, h.2.1⟩
  · rw [hnames]
    exact h.2.2

/-- Within a literal, the code so far ends in its opening quote. -/
private theorem codeFrom_quoted (cs : List Char) (h : Place.code.after cs ≠ .code) (hc : Place.code.after cs ≠ .comment) :
    ∃ code quote, codeFrom .code cs = code ++ [quote] ∧ isNameChar quote = false := by
  induction cs using List.reverseRecOn with
  | nil => exact absurd rfl h
  | append_singleton cs d ih =>
    rw [Place.after_append] at h hc
    rw [codeFrom_append]
    cases hp : Place.code.after cs with
    | code =>
      -- the literal begins here
      refine ⟨codeFrom .code cs, d, rfl, ?_⟩
      by_contra hd
      have hplain := Place.next_of_isPlain (isPlain_of_isNameChar (by simpa using hd)) .code
      rw [hp] at h
      exact h hplain
    | comment =>
      rw [hp] at hc
      exact absurd rfl hc
    | literal double | escaped double =>
      obtain ⟨code, quote, hcode, hquote⟩ := ih (by simp [hp]) (by simp [hp])
      exact ⟨code, quote, by rw [hcode]; exact List.append_nil _, hquote⟩

/-- Behind a delimiter, the code so far ends in a delimiter. -/
private theorem codeFrom_delimited {d : Char} (hd : isNameChar d = false) (cs : List Char)
    (h : Place.code.after (cs ++ [d]) = .code) :
    ∃ code last, codeFrom .code (cs ++ [d]) = code ++ [last] ∧ isNameChar last = false := by
  rw [Place.after_append] at h
  rw [codeFrom_append]
  cases hp : Place.code.after cs with
  | code => exact ⟨codeFrom .code cs, d, rfl, hd⟩
  | comment =>
    rw [hp] at h
    cases h
  | literal double | escaped double =>
    -- the delimiter ends the literal, whose opening quote is still there
    obtain ⟨code, quote, hcode, hquote⟩ := codeFrom_quoted cs (by simp [hp]) (by simp [hp])
    exact ⟨code, quote, by rw [hcode]; exact List.append_nil _, hquote⟩

/-- The names of plain characters between delimiters are among those of the line, or none of them is, and the others
do not depend on the characters. -/
private theorem identifiers_frame {d e : Char} (hd : isNameChar d = false) (he : isNameChar e = false)
    (before after : List Char) :
    (∃ left right, ∀ word, word ≠ [] → (∀ c ∈ word, isPlain c) →
      identifiers (before ++ [d] ++ word ++ e :: after) = left ++ names word ++ right) ∨
    ∃ all, ∀ word, word ≠ [] → (∀ c ∈ word, isPlain c) → identifiers (before ++ [d] ++ word ++ e :: after) = all := by
  have hcode : ∀ word, word ≠ [] → (∀ c ∈ word, isPlain c) → codeFrom .code (before ++ [d] ++ word ++ e :: after) =
      codeFrom .code (before ++ [d]) ++ (if Place.code.after (before ++ [d]) = .code then word else []) ++
        codeFrom (Place.code.after (before ++ [d])).settled (e :: after) := by
    intro word hne hplain
    rw [codeFrom_append, Place.after_append, Place.after_plain hne hplain, codeFrom_append, codeFrom_plain hplain]
  by_cases hp : Place.code.after (before ++ [d]) = .code
  · -- code stands here: the delimiters cut the names of the line in three
    obtain ⟨code, last, hlast, hname⟩ := codeFrom_delimited hd before hp
    refine Or.inl ⟨names code, names (codeFrom (Place.code.next e) after), fun word hne hplain => ?_⟩
    have hrest : codeFrom (Place.settled .code) (e :: after) = e :: codeFrom (Place.code.next e) after := rfl
    rw [identifiers, hcode word hne hplain, hp, if_pos rfl, hlast, hrest, List.append_assoc, List.append_assoc,
      List.singleton_append, names_append_cons hname, names_append_cons he, List.append_assoc]
  · refine Or.inr ⟨names (codeFrom .code (before ++ [d]) ++ [] ++
      codeFrom (Place.code.after (before ++ [d])).settled (e :: after)), fun word hne hplain => ?_⟩
    rw [identifiers, hcode word hne hplain, if_neg hp]

/-- Neutral words between delimiters may be exchanged. -/
theorem mem_identifiers_exchange {d e : Char} (hd : isNameChar d = false) (he : isNameChar e = false)
    {u v : List Char} (hu : Neutral u) (hv : Neutral v) {name : List Char} (hn : name ∈ libraryNames)
    (before after : List Char) : name ∈ identifiers (before ++ [d] ++ u ++ e :: after) ↔
      name ∈ identifiers (before ++ [d] ++ v ++ e :: after) := by
  rcases identifiers_frame hd he before after with ⟨left, right, h⟩ | ⟨all, h⟩
  · rw [h u hu.1 hu.2.1, h v hv.1 hv.2.1]
    simp only [List.mem_append, hu.not_mem hn, hv.not_mem hn]
  · rw [h u hu.1 hu.2.1, h v hv.1 hv.2.1]

end Line

namespace Render

theorem neutral_words : ∀ word ∈ words, Neutral word.toList := by
  simp only [Neutral, libraryNames, boundNames, Text.toList_eq_charsOf]
  decide

theorem neutral_value {options : Options} (h : options.HasRandomState) (dataset : Dataset) (scope : Scope)
    {parameter : Parameter} (hp : parameter ≠ .fileLiteral) : Neutral (value options dataset scope parameter).toList := by
  have hshape : value options dataset scope parameter ∈ words ∨ _ := value_shape h hp
  rcases hshape with hw | ⟨digits, ⟨hne, hd⟩, he | he⟩
  · exact neutral_words _ hw
  · rw [he]
    exact neutral_digits hne hd
  · rw [he]
    exact (neutral_digits hne hd).signed

/-- Values that stand for those of any options and any dataset. -/
def blank : Parameter → String
  | .fileLiteral => Literal.write ""
  | _ => "0"

theorem neutral_blank {parameter : Parameter} (hp : parameter ≠ .fileLiteral) : Neutral (blank parameter).toList := by
  cases parameter with
  | fileLiteral => exact absurd rfl hp
  | _ => exact neutral_digits (by decide) (by decide)

end Render

/-- A line that begins as no import line does binds nothing. -/
theorem Line.imported?_eq_none {c : Char} (hc : c ≠ 'i' ∧ c ≠ 'f') (cs : List Char) : imported? (c :: cs) = none := by
  -- the first word of the line begins as the line does
  obtain ⟨first, more, hsplit, hfirst⟩ :
      ∃ first more, Text.splitOn ' ' (c :: cs) = first :: more ∧ first <+: c :: cs := by
    by_cases hblank : ' ' ∈ c :: cs
    · obtain ⟨first, rest, he, hnot⟩ := List.eq_append_cons_of_mem hblank
      rw [he, Text.splitOn_append_cons hnot]
      exact ⟨first, _, rfl, List.prefix_append ..⟩
    · exact ⟨_, [], Text.splitOn_of_not_mem hblank, List.prefix_rfl⟩
  have hne : ∀ d word, first = d :: word → c = d := by
    rintro d word rfl
    exact (List.cons_prefix_cons.1 hfirst).1.symm
  unfold imported?
  rw [hsplit]
  split
  · rename_i second third name he
    obtain ⟨rfl, -⟩ := List.cons.inj he
    rw [if_neg]
    rintro (⟨himport, -⟩ | ⟨hfrom, -⟩)
    · exact hc.1 (hne _ _ himport)
    · exact hc.2 (hne _ _ hfrom)
  · rfl

namespace Fragment

/-- What a line with delimited holes mentions does not depend on neutral values in it. -/
private theorem mem_identifiers_filled {value value' : Parameter → String} {ended : Bool} {pieces : List Piece}
    (hd : delimitedFrom ended pieces) (hv : ∀ parameter, .hole parameter ∈ pieces → Neutral (value parameter).toList)
    (hv' : ∀ parameter, .hole parameter ∈ pieces → Neutral (value' parameter).toList) {name : List Char}
    (hn : name ∈ libraryNames) (before : List Char)
    (hb : ended → ∃ start d, before = start ++ [d] ∧ isDelimiter d) :
    name ∈ identifiers (before ++ pieces.flatMap (Piece.filled value)) ↔
      name ∈ identifiers (before ++ pieces.flatMap (Piece.filled value')) := by
  have hdelim : ∀ {d}, isDelimiter d → isNameChar d = false := by
    intro d h
    simp only [isDelimiter, Bool.and_eq_true, Bool.not_eq_true'] at h
    exact h.1
  -- the induction carries what stands before the rest of the line, and whether a delimiter ends it
  induction pieces generalizing ended before with
  | nil => exact Iff.rfl
  | cons piece pieces ih =>
    have hrest : ∀ ended, delimitedFrom ended pieces → ∀ before,
        (ended → ∃ start d, before = start ++ [d] ∧ isDelimiter d) →
        (name ∈ identifiers (before ++ pieces.flatMap (Piece.filled value)) ↔
          name ∈ identifiers (before ++ pieces.flatMap (Piece.filled value'))) := fun _ hd =>
      ih hd (fun parameter hp => hv parameter (List.mem_cons_of_mem _ hp))
        (fun parameter hp => hv' parameter (List.mem_cons_of_mem _ hp))
    rw [List.flatMap_cons, List.flatMap_cons, ← List.append_assoc, ← List.append_assoc]
    cases piece with
    | text s =>
      refine hrest _ hd (before ++ s.toList) fun hended => ?_
      cases hs : s.toList.getLast? with
      | none =>
        rw [hs] at hended
        obtain ⟨start, d, rfl, hd⟩ := hb hended
        rw [List.getLast?_eq_none_iff.1 hs, List.append_nil]
        exact ⟨start, d, rfl, hd⟩
      | some d =>
        rw [hs] at hended
        obtain ⟨start, hstart⟩ := List.getLast?_eq_some_iff.1 hs
        exact ⟨before ++ start, d, by rw [hstart, List.append_assoc], hended⟩
    | hole parameter =>
      simp only [delimitedFrom, Bool.and_eq_true] at hd
      obtain ⟨start, d, rfl, hd'⟩ := hb hd.1.1
      obtain ⟨e, he, hfollow⟩ := exists_cons_of_first? hd.1.2
      obtain ⟨rest, hr⟩ := hfollow value
      have hexchange := mem_identifiers_exchange (hdelim hd') (hdelim he) (hv parameter (List.mem_cons_self ..))
        (hv' parameter (List.mem_cons_self ..)) hn start rest
      rw [← hr] at hexchange
      exact hexchange.trans (hrest false hd.2 _ (by simp))

/-- A line that is copied as it is, or that begins as no import line does. -/
def copiedImport (line : List Piece) : Bool :=
  line.all (· matches .text _) || (first? line).any fun c => c ≠ 'i' && c ≠ 'f'

theorem imported?_filled {value value' : Parameter → String} {line : List Piece} (h : copiedImport line) :
    imported? (line.flatMap (Piece.filled value)) = imported? (line.flatMap (Piece.filled value')) := by
  rw [copiedImport, Bool.or_eq_true, List.all_eq_true] at h
  rcases h with h | h
  · have hcopied : line.flatMap (Piece.filled value) = line.flatMap (Piece.filled value') :=
      flatMap_filled_congr fun parameter hp => absurd (h _ hp) (by simp)
    rw [hcopied]
  · obtain ⟨c, hc, hfollow⟩ := exists_cons_of_first? h
    have hc : c ≠ 'i' ∧ c ≠ 'f' := by simpa using hc
    obtain ⟨rest, hrest⟩ := hfollow value
    obtain ⟨rest', hrest'⟩ := hfollow value'
    rw [hrest, hrest', imported?_eq_none hc, imported?_eq_none hc]

/-- What a fragment binds and mentions does not depend on neutral values in it. -/
theorem sameLibraries_filledLines {fragment : Fragment} (hd : fragment.Delimited)
    (hc : ∀ line ∈ fragment.lines, copiedImport line) {value value' : Parameter → String}
    (hv : ∀ parameter, fragment.uses parameter → Neutral (value parameter).toList)
    (hv' : ∀ parameter, fragment.uses parameter → Neutral (value' parameter).toList) :
    List.Forall₂ SameLibraries (fragment.filledLines value) (fragment.filledLines value') := by
  rw [filledLines, filledLines, List.forall₂_map_left_iff, List.forall₂_map_right_iff, List.forall₂_same]
  intro line hl
  have huses : ∀ parameter, .hole parameter ∈ line → fragment.uses parameter :=
    fun parameter hp => uses_iff.2 ⟨line, hl, hp⟩
  refine ⟨imported?_filled (hc line hl), fun name hn => ?_⟩
  exact mem_identifiers_filled (hd line hl) (fun p hp => hv p (huses p hp)) (fun p hp => hv' p (huses p hp)) hn []
    (by simp)

end Fragment

/-! ### The libraries of a stage -/

theorem Fragments.copiedImport : ∀ fragment ∈ all, ∀ line ∈ fragment.lines, Fragment.copiedImport line := by
  decide

theorem Fragments.needs_blank :
    ∀ fragment ∈ all, Needs fragment.imports (fragment.filledLines Render.blank) := by
  simp only [needs_iff, boundFrom_iff, libraryNames, boundNames, Fragment.filledLines, Piece.filled_eq_filledChars,
    Text.toList_eq_charsOf]
  decide +kernel

theorem Fragments.imported?_importLines : ∀ line ∈ importLines, (imported? line.toList).isSome := by
  simp only [Text.toList_eq_charsOf]
  decide +kernel

/-- The import lines of a fragment are those that its text needs, whatever neutral values are filled in. -/
theorem Fragment.needs_filledLines {fragment : Fragment} (hf : fragment ∈ Fragments.all)
    (hlit : ¬fragment.uses .fileLiteral) {value : Parameter → String}
    (hv : ∀ parameter ≠ .fileLiteral, Neutral (value parameter).toList) :
    Needs fragment.imports (fragment.filledLines value) := by
  have hne : ∀ parameter, fragment.uses parameter → parameter ≠ .fileLiteral := by
    rintro parameter hu rfl
    exact hlit hu
  refine (Fragments.needs_blank fragment hf).congr ?_
  exact sameLibraries_filledLines (Fragments.delimited fragment hf) (Fragments.copiedImport fragment hf)
    (fun parameter hu => hv parameter (hne parameter hu)) (fun parameter hu => Render.neutral_blank (hne parameter hu))

namespace StageId

variable {options : Options} (h : options.HasRandomState) (dataset : Dataset) (plan : Plan) (scope : Scope)

theorem importLines_of_fragment {id : StageId} {scope : Scope} {fragment : Fragment}
    (hf : id.fragment? scope = some fragment) (options : Options) : id.importLines options = fragment.imports := by
  cases id with
  | imports | model => cases hf
  | scale =>
    obtain rfl := Option.some.inj hf
    split <;> rfl
  | _ =>
    obtain rfl := Option.some.inj hf
    rfl

private theorem sameLibraries_load (dataset : Dataset) (scope : Scope) : List.Forall₂ SameLibraries
    (Fragments.load.filledLines (Render.value options dataset scope))
    (Fragments.load.filledLines Render.blank) := by
  rw [Fragment.filledLines, Fragment.filledLines, List.forall₂_map_left_iff, List.forall₂_map_right_iff,
    List.forall₂_same]
  intro line hl
  have hload : Fragments.load ∈ Fragments.all := fragment_mem_all (rfl : StageId.load.fragment? [] = _)
  have hcode : codeFrom .code (line.flatMap (Piece.filled (Render.value options dataset scope))) =
      codeFrom .code (line.flatMap (Piece.filled Render.blank)) := Fragments.codeFrom_load rfl rfl line hl
  refine ⟨Fragment.imported?_filled (Fragments.copiedImport _ hload line hl), fun name _ => ?_⟩
  rw [identifiers, identifiers, hcode]

include h

private theorem needs_model {family : Family} {algorithm : Algorithm}
    (hs : options.selection = some (family, algorithm)) (ho : family.offers algorithm) :
    Needs (importLines options .model) (blocks options dataset plan scope .model).flatten := by
  have hv : ∀ parameter ≠ .fileLiteral, Neutral (Render.value options dataset scope parameter).toList :=
    fun parameter hp => Render.neutral_value h dataset scope hp
  have hfit := Fragment.needs_filledLines algorithm.estimator_mem_all
    (fun hu => absurd (algorithm.takes_estimator.1.mem_of_uses hu) (by decide)) hv
  have hscore := Fragment.needs_filledLines family.metric_mem_all
    (fun hu => absurd (family.takes_metric.1.mem_of_uses hu) (by decide)) hv
  have hlabel : Needs [] [("# " ++ algorithm.label).toList] := by
    refine needs_nil fun line hl _ => ?_
    rw [List.mem_singleton.1 hl]
    exact identifiers_comment algorithm.commentLine_label
  have himports : importLines options .model = [] ++ (algorithm.estimator.imports ++ family.metric.imports) := by
    simp [importLines, hs, Family.estimator?_eq, ho]
  simp only [himports, blocks, hs, List.flatten_cons, List.flatten_nil, List.append_nil]
  exact hlabel.append (hfit.append hscore)

/-- The import lines of a stage are those that its text needs. -/
theorem needs_blocks (id : StageId) (hm : id = .model → options.selection.isSome ∧ Plan.unknownSelection? options = none) :
    Needs (id.importLines options) (id.blocks options dataset plan scope).flatten := by
  cases hf : id.fragment? scope with
  | some fragment =>
    rw [blocks_of_fragment hf, List.flatten_singleton, importLines_of_fragment hf]
    by_cases hload : id = .load
    · subst hload
      have hneeds := Fragments.needs_blank fragment (fragment_mem_all hf)
      obtain rfl := Option.some.inj hf
      exact hneeds.congr (sameLibraries_load dataset scope)
    · refine Fragment.needs_filledLines (fragment_mem_all hf) (fun hu => ?_)
        fun parameter hp => Render.neutral_value h dataset scope hp
      have hmem := (takes_fragment hf).1.mem_of_uses hu
      cases id with
      | load => exact hload rfl
      | _ => exact absurd hmem (by decide)
  | none =>
    cases id with
    | imports =>
      refine needs_nil fun line hl himport => ?_
      rw [blocks, List.flatten_singleton, List.map_cons, List.mem_cons] at hl
      rcases hl with rfl | hl
      · exact identifiers_comment (commentLine_heading .imports)
      · obtain ⟨text, ht, rfl⟩ := List.mem_map.1 hl
        have hsome := Fragments.imported?_importLines text (plan.importLines_subset options text ht)
        rw [himport] at hsome
        cases hsome
    | model =>
      obtain ⟨hsome, hunknown⟩ := hm rfl
      obtain ⟨⟨family, algorithm⟩, hs⟩ := Option.isSome_iff_exists.1 hsome
      have ho : family.offers algorithm := by
        by_contra ho
        rw [Plan.unknownSelection?_eq_some_iff.2 ⟨hs, by simpa using ho⟩] at hunknown
        cases hunknown
      exact needs_model h dataset plan scope hs ho
    | _ => cases hf

end StageId

/-! ### The libraries of a script -/

namespace Plan

variable {options : Options} {policy : AlgorithmPolicy} {plan : Plan}

theorem stages_with_imports (hon : options.importLibraries) (hb : (build options policy).outcome = .ok plan) :
    ∃ ids, plan.stages = .load :: .imports :: ids := by
  obtain ⟨keep, hstages, -, hkeep, -⟩ := stages_of_build hb
  have hload := hkeep .load (by decide) rfl
  have himports := hkeep .imports (by decide) hon
  refine ⟨(StageId.all.drop 2).filter keep, ?_⟩
  rw [hstages]
  exact (List.filter_cons_of_pos hload).trans (congrArg _ (List.filter_cons_of_pos himports))

theorem needs_of_mem_steps (h : options.HasRandomState) (dataset : Dataset)
    (hb : (build options policy).outcome = .ok plan) {step : StageId × Scope} (hs : step ∈ plan.steps options) :
    Needs (step.1.importLines options) (step.1.blocks options dataset plan step.2).flatten := by
  refine StageId.needs_blocks h dataset plan step.2 step.1 fun hm => ?_
  exact selection_of_mem_stages hb (hm ▸ mem_stages_of_mem_steps hs)

theorem mem_boundNames_importLines {step : StageId × Scope} (hs : step ∈ plan.steps options) {name : List Char}
    (hn : name ∈ boundNames (step.1.importLines options)) (first : List String) :
    name ∈ boundNames (plan.importLines options first) := by
  obtain ⟨line, hl, hi⟩ := mem_boundNames.1 hn
  exact mem_boundNames.2 ⟨line, mem_importLines.2 (Or.inr ⟨step.1, mem_stages_of_mem_steps hs, hl⟩), hi⟩

/-- The lines of a plan bind the library names that they mention, when those of the missing lines are known. -/
theorem boundFrom_blocks (h : options.HasRandomState) (dataset : Dataset)
    (hb : (build options policy).outcome = .ok plan) :
    BoundFrom (boundNames (if options.importLibraries then [] else plan.importLines options []))
      (plan.blocks options dataset).flatten := by
  have hneeds : ∀ step ∈ plan.steps options,
      Needs (step.1.importLines options) (step.1.blocks options dataset plan step.2).flatten :=
    fun _ => needs_of_mem_steps h dataset hb
  rw [flatten_blocks]
  by_cases hon : options.importLibraries
  · -- the stage of imports binds the names of all import lines, and only loading comes before it
    obtain ⟨ids, hstages⟩ := stages_with_imports hon hb
    obtain ⟨scope, rest, hsteps⟩ : ∃ scope rest, plan.steps options = (.load, []) :: (.imports, scope) :: rest :=
      ⟨[.dataset], stepsFrom options [.dataset] ids, by rw [steps, hstages]; rfl⟩
    have hload := (hneeds (.load, []) (by simp [hsteps])).bound
    have himports := (hneeds (.imports, scope) (by simp [hsteps])).bound
    rw [if_pos hon, hsteps, List.flatMap_cons, List.flatMap_cons, boundFrom_append, boundFrom_append]
    refine ⟨hload, himports.mono (by simp [StageId.importLines, boundNames]), boundFrom_flatMap fun step hs => ?_⟩
    have hs : step ∈ plan.steps options := by simp [hsteps, hs]
    refine (hneeds step hs).bound.mono fun name hn => ?_
    obtain ⟨line, hl, hi⟩ := mem_boundNames.1 (mem_boundNames_importLines hs hn [Fragments.numpyImport])
    refine List.mem_append_right _ (List.mem_filterMap.2 ⟨line.toList, ?_, hi⟩)
    rw [StageId.blocks, List.flatten_singleton]
    exact List.mem_map_of_mem (List.mem_cons_of_mem _ hl)
  · rw [if_neg hon]
    exact boundFrom_flatMap fun step hs =>
      (hneeds step hs).bound.mono fun name hn => mem_boundNames_importLines hs hn []

/-- The lines of a plan mention the names of all import lines that its stages need. -/
theorem mem_mentioned_blocks (h : options.HasRandomState) (dataset : Dataset)
    (hb : (build options policy).outcome = .ok plan) {line : String} (hl : line ∈ plan.importLines options []) :
    ∃ name ∈ libraryNames, imported? line.toList = some name ∧ name ∈ mentioned (plan.blocks options dataset).flatten := by
  obtain ⟨id, hid, hl⟩ := (mem_importLines.1 hl).resolve_left (by simp)
  have hid : id ∈ (plan.steps options).map Prod.fst := by rwa [map_fst_steps]
  obtain ⟨step, hs, rfl⟩ := List.mem_map.1 hid
  obtain ⟨name, hlib, hi, hm⟩ := (needs_of_mem_steps h dataset hb hs).used line hl
  obtain ⟨source, hsource, hline⟩ := mem_mentioned.1 hm
  refine ⟨name, hlib, hi, mem_mentioned.2 ⟨source, ?_, hline⟩⟩
  rw [flatten_blocks]
  exact List.mem_flatMap.2 ⟨step, hs, hsource⟩

end Plan

/-- The imports are exactly what is referenced: where the text of a script mentions a library name, outside literals,
comments and import lines, an earlier line imports it or a missing line would; and each missing line would import a
name that the text mentions. -/
theorem generated_imports_match {settings : Settings} {options : Options} {dataset? : Option Dataset} {script : Script}
    (h : (generate settings options dataset?).outcome = .ok script) :
    (∀ before line after, Text.splitOn '\n' script.text.toList = before ++ line :: after → imported? line = none →
      ∀ name ∈ libraryNames, name ∈ identifiers line →
        (∃ earlier ∈ before, imported? earlier = some name) ∨
          ∃ missing ∈ script.missingImports, imported? missing.toList = some name) ∧
    ∀ missing ∈ script.missingImports, ∃ name ∈ libraryNames, imported? missing.toList = some name ∧
      ∃ line ∈ Text.splitOn '\n' script.text.toList, imported? line = none ∧ name ∈ identifiers line := by
  have hempty : identifiers [] = [] := by decide
  cases dataset? with
  | none =>
    obtain rfl := eq_empty_of_generate_none h
    refine ⟨fun before line after hlines _ name _ hn => ?_, by simp⟩
    have hlines : [[]] = before ++ line :: after := hlines
    obtain rfl : line = [] := by simpa using (hlines ▸ (by simp) : line ∈ [[]])
    simp [hempty] at hn
  | some dataset =>
    obtain ⟨plan, hb, hg, hmissing⟩ := exists_built h
    constructor
    · intro before line after hlines hl name hlib hn
      have hne : line ≠ [] := by
        rintro rfl
        simp [hempty] at hn
      have hfilled : (plan.blocks options dataset).flatten = filled before ++ line :: filled after := by
        rw [← hg.filled_lines, hlines, filled_append_cons hne]
      have hbound := Plan.boundFrom_blocks hg.hasRandomState dataset hb
      rw [← hmissing, hfilled] at hbound
      rcases hbound.mem_or_exists hl hn hlib with hknown | ⟨earlier, he, hi⟩
      · exact Or.inr (mem_boundNames.1 hknown)
      · exact Or.inl ⟨earlier, List.mem_of_mem_filter he, hi⟩
    · intro missing hm
      have hm : missing ∈ plan.importLines options [] := by
        rw [hmissing] at hm
        split at hm
        · cases hm
        · exact hm
      obtain ⟨name, hlib, hi, hmentioned⟩ := Plan.mem_mentioned_blocks hg.hasRandomState dataset hb hm
      obtain ⟨line, hl, hline⟩ := mem_mentioned.1 hmentioned
      rw [← hg.filled_lines] at hl
      exact ⟨name, hlib, hi, line, List.mem_of_mem_filter hl, hline⟩

/-- A classifier whose file is named after other libraries: the two names that are missing are mentioned, and pandas
is imported before it is. -/
theorem generated_imports_match_of_quoted_names :
    let options : Options := { family := some .classification, algorithm := some .kernelSvm }
    let dataset : Dataset := ⟨"SVR(np.nan).csv", 0, ["a", "b"], []⟩
    ∃ script, (generate {} options (some dataset)).outcome = .ok script ∧
      script.missingImports = ["from sklearn.svm import SVC", "from sklearn.metrics import accuracy_score"] ∧
      "SVC".toList ∈ mentioned (Text.splitOn '\n' script.text.toList) ∧
      "accuracy_score".toList ∈ mentioned (Text.splitOn '\n' script.text.toList) ∧
      ∀ before line after, Text.splitOn '\n' script.text.toList = before ++ line :: after → imported? line = none →
        "pd".toList ∈ identifiers line → ∃ earlier ∈ before, imported? earlier = some "pd".toList := by
  intro options dataset
  obtain ⟨script, h, hmissing⟩ : ∃ script, (generate {} options (some dataset)).outcome = .ok script ∧
      script.missingImports = ["from sklearn.svm import SVC", "from sklearn.metrics import accuracy_score"] :=
    ⟨_, rfl, rfl⟩
  obtain ⟨hbound, hused⟩ := generated_imports_match h
  rw [hmissing] at hused hbound
  have hfit : imported? "from sklearn.svm import SVC".toList = some "SVC".toList := by decide
  have hscore : imported? "from sklearn.metrics import accuracy_score".toList = some "accuracy_score".toList := by
    decide
  refine ⟨script, h, hmissing, ?_, ?_, ?_⟩
  · obtain ⟨name, -, hi, hm⟩ := hused "from sklearn.svm import SVC" (by simp)
    rw [Option.some.inj (hfit.symm.trans hi)]
    exact mem_mentioned.2 hm
  · obtain ⟨name, -, hi, hm⟩ := hused "from sklearn.metrics import accuracy_score" (by simp)
    rw [Option.some.inj (hscore.symm.trans hi)]
    exact mem_mentioned.2 hm
  · intro before line after hlines hl hpd
    rcases hbound before line after hlines hl _ (List.mem_cons_self ..) hpd with hearlier | ⟨missing, hm, hi⟩
    · exact hearlier
    · -- no missing line imports pandas
      have hnot : ∀ missing ∈ ["from sklearn.svm import SVC", "from sklearn.metrics import accuracy_score"],
          imported? missing.toList ≠ some "pd".toList := by decide
      exact absurd hi (hnot missing hm)

end TableScript
