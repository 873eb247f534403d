import TableScript.Proofs.Script.Values

/-!
# Reading lines of scripts

Which names a line of a script assigns and which it reads.  A line assigns the comma-separated names left of its first
` = ` outside parentheses, and it reads the names elsewhere, but not those in literals and comments.

Values that are no variables may be exchanged for one another without changing which variables a line assigns or
reads: numerals and words anywhere (`alike_marks`), and literals where code stands (`codeFrom_append_literal`).
-/

namespace TableScript.Line

/-- Where a character of a line stands. -/
inductive Place where
  | code
  /-- Inside a literal, with single or double quotes. -/
  | literal (double : Bool)
  /-- Behind a backslash in a literal. -/
  | escaped (double : Bool)
  | comment
  deriving DecidableEq

namespace Place

/-- The place behind a character. -/
def next : Place → Char → Place
  | code, c =>
    if c = '\'' then literal false
    else if c = '"' then literal true
    else if c = '#' then comment
    else code
  | literal double, c =>
    if c = '\\' then escaped double
    else if c = (if double then '"' else '\'') then code
    else literal double
  | escaped double, _ => literal double
  | comment, _ => comment

/-- The place behind some characters. -/
def after (place : Place) (cs : List Char) : Place :=
  cs.foldl next place

end Place

/-- The characters outside literals and comments.  A literal leaves its opening quote, a comment its sign. -/
def codeFrom (place : Place) : List Char → List Char
  | [] => []
  | c :: cs => if place = .code then c :: codeFrom (place.next c) cs else codeFrom (place.next c) cs

/-- A character of names: a letter, a digit, an underscore or anything beyond ASCII. -/
def isNameChar (c : Char) : Bool :=
  c.isAlphanum || c = '_' || 128 ≤ c.toNat

/-- A name does not begin with a digit. -/
def isName (word : List Char) : Bool :=
  word.all isNameChar && word.head?.any (!·.isDigit)

/-- The longest stretches of characters that satisfy `p`, of which the first goes on from `run`. -/
def runsFrom (p : Char → Bool) (run : List Char) : List Char → List (List Char)
  | [] => [run]
  | c :: cs => if p c then runsFrom p (run ++ [c]) cs else run :: runsFrom p [] cs

/-- The names in some code. -/
def names (cs : List Char) : List (List Char) :=
  (runsFrom isNameChar [] cs).filter isName

/-- The number of open parentheses behind a character. -/
def nesting (depth : Nat) (c : Char) : Nat :=
  if c = '(' then depth + 1 else if c = ')' then depth - 1 else depth

/-- What stands before and after the first ` = ` outside parentheses, of which `depth` are open. -/
def splitAssignment (depth : Nat) : List Char → Option (List Char × List Char)
  | [] => none
  | c :: cs =>
    if depth = 0 ∧ [' ', '=', ' '].isPrefixOf (c :: cs) then some ([], cs.drop 2)
    else (splitAssignment (nesting depth c) cs).map fun (before, after) => (c :: before, after)

/-- The code on both sides of an assignment; other code is a right side. -/
def sides (line : List Char) : List Char × List Char :=
  (splitAssignment 0 (codeFrom .code line)).getD ([], codeFrom .code line)

/-- What stands between the commas of a left side, without the blanks in front. -/
def targets (left : List Char) : List (List Char) :=
  (runsFrom (· ≠ ',') [] left).map (·.dropWhile (· = ' '))

/-- The names that a line assigns. -/
def assigned (line : List Char) : List (List Char) :=
  (targets (sides line).1).filter isName

/-- The names that a line reads. -/
def read (line : List Char) : List (List Char) :=
  ((targets (sides line).1).filter (!isName ·)).flatMap names ++ names (sides line).2

/-! ### Frames -/

theorem codeFrom_append (place : Place) (before after : List Char) :
    codeFrom place (before ++ after) = codeFrom place before ++ codeFrom (place.after before) after := by
  induction before generalizing place with
  | nil => rfl
  | cons c before ih =>
    rw [List.cons_append, codeFrom, codeFrom, ih]
    split <;> rfl

/-- A character that neither opens, closes nor escapes anything. -/
def isPlain (c : Char) : Bool :=
  c ≠ '\'' && c ≠ '"' && c ≠ '#' && c ≠ '\\'

theorem isPlain_of_isNameChar {c : Char} (h : isNameChar c) : isPlain c := by
  have hne : ∀ d : Char, isNameChar d = false → c ≠ d := by
    rintro d hd rfl
    simp [hd] at h
  simp [isPlain, hne '\'' (by decide), hne '"' (by decide), hne '#' (by decide), hne '\\' (by decide)]

/-- Characters of names, at least one. -/
structure IsWord (word : List Char) : Prop where
  ne_nil : word ≠ []
  nameChars : ∀ c ∈ word, isNameChar c

theorem IsWord.not_mem {word : List Char} (h : IsWord word) {c : Char} (hc : isNameChar c = false) : c ∉ word :=
  fun hm => by simp [h.nameChars c hm] at hc

theorem IsWord.plain {word : List Char} (h : IsWord word) : ∀ c ∈ word, isPlain c :=
  fun c hc => isPlain_of_isNameChar (h.nameChars c hc)

namespace Place

/-- The place behind plain characters. -/
def settled : Place → Place
  | escaped double => literal double
  | place => place

theorem settled_settled (place : Place) : place.settled.settled = place.settled := by
  cases place <;> rfl

theorem settled_eq_code {place : Place} : place.settled = code ↔ place = code := by
  cases place <;> simp [settled]

theorem next_of_isPlain {c : Char} (h : isPlain c) (place : Place) : place.next c = place.settled := by
  simp only [isPlain, Bool.and_eq_true, decide_eq_true_eq] at h
  obtain ⟨⟨⟨hsingle, hdouble⟩, hsign⟩, hslash⟩ := h
  cases place with
  | code => simp [next, settled, hsingle, hdouble, hsign]
  | literal double => cases double <;> simp [next, settled, hslash, hsingle, hdouble]
  | escaped double => rfl
  | comment => rfl

theorem after_append (place : Place) (before after : List Char) :
    place.after (before ++ after) = (place.after before).after after :=
  List.foldl_append

theorem after_plain {cs : List Char} (hne : cs ≠ []) (h : ∀ c ∈ cs, isPlain c) (place : Place) :
    place.after cs = place.settled := by
  induction cs generalizing place with
  | nil => exact absurd rfl hne
  | cons c cs ih =>
    rw [List.forall_mem_cons] at h
    rw [after, List.foldl_cons, next_of_isPlain h.1]
    cases cs with
    | nil => rfl
    | cons d cs => exact (ih (by simp) h.2 place.settled).trans place.settled_settled

end Place

/-- Plain characters are code where code stands, and leave no code elsewhere. -/
theorem codeFrom_plain {cs : List Char} (h : ∀ c ∈ cs, isPlain c) (place : Place) :
    codeFrom place cs = if place = .code then cs else [] := by
  induction cs generalizing place with
  | nil => simp [codeFrom]
  | cons c cs ih =>
    rw [List.forall_mem_cons] at h
    rw [codeFrom, Place.next_of_isPlain h.1, ih h.2]
    simp only [Place.settled_eq_code]
    split <;> rfl

/-- Whether a text begins with some characters that no word has does not depend on the words in it. -/
private theorem isPrefixOf_frame {sign : List Char} (hs : ∀ c ∈ sign, isNameChar c = false) (before after : List Char)
    {word : List Char} (hw : IsWord word) : sign.isPrefixOf (before ++ word ++ after) = sign.isPrefixOf before := by
  induction sign generalizing before with
  | nil => simp
  | cons d sign ih =>
    rw [List.forall_mem_cons] at hs
    cases before with
    | nil =>
      obtain ⟨c, word, rfl⟩ := List.exists_cons_of_ne_nil hw.ne_nil
      have hne : d ≠ c := by
        rintro rfl
        exact hw.not_mem hs.1 (by simp)
      simp [List.isPrefixOf, hne]
    | cons c before =>
      rw [List.cons_append, List.cons_append, List.isPrefixOf_cons_cons, List.isPrefixOf_cons_cons, ih hs.2]

private theorem splitAssignment_word {word : List Char} (h : ∀ c ∈ word, isNameChar c) (depth : Nat) (cs : List Char) :
    splitAssignment depth (word ++ cs) =
      (splitAssignment depth cs).map fun (before, after) => (word ++ before, after) := by
  induction word with
  | nil => simp
  | cons c word ih =>
    rw [List.forall_mem_cons] at h
    have hne : ∀ d : Char, isNameChar d = false → c ≠ d := by
      rintro d hd rfl
      simp [hd] at h
    have hsign : ¬(depth = 0 ∧ [' ', '=', ' '].isPrefixOf (c :: (word ++ cs)) = true) := by
      rintro ⟨-, hp⟩
      simp [(hne ' ' (by decide)).symm] at hp
    have hnest : nesting depth c = depth := by
      rw [nesting, if_neg (hne '(' (by decide)), if_neg (hne ')' (by decide))]
    rw [List.cons_append, splitAssignment, if_neg hsign, hnest, ih h.2, Option.map_map]
    rfl

/-- A word stands right of an assignment or left of it, or there is none, whatever the word is. -/
private theorem splitAssignment_frame (depth : Nat) (before after : List Char) :
    (∃ left right, ∀ word, IsWord word →
      splitAssignment depth (before ++ word ++ after) = some (left, right ++ word ++ after)) ∨
    (∃ left right, ∀ word, IsWord word →
      splitAssignment depth (before ++ word ++ after) = some (before ++ word ++ left, right)) ∨
    ∀ word, IsWord word → splitAssignment depth (before ++ word ++ after) = none := by
  induction before generalizing depth with
  | nil =>
    cases hs : splitAssignment depth after with
    | none =>
      refine Or.inr (Or.inr fun word hw => ?_)
      rw [List.nil_append, splitAssignment_word hw.nameChars, hs, Option.map_none]
    | some found =>
      refine Or.inr (Or.inl ⟨found.1, found.2, fun word hw => ?_⟩)
      rw [List.nil_append, splitAssignment_word hw.nameChars, hs, Option.map_some]
  | cons c before ih =>
    have hsign : ∀ word, IsWord word →
        [' ', '=', ' '].isPrefixOf (c :: (before ++ word ++ after)) = [' ', '=', ' '].isPrefixOf (c :: before) :=
      fun word hw => isPrefixOf_frame (by decide) (c :: before) after hw
    -- no word has a character of the sign, so a sign that begins here ends before the word
    by_cases hfound : depth = 0 ∧ [' ', '=', ' '].isPrefixOf (c :: before)
    · obtain ⟨rest, hrest⟩ := List.isPrefixOf_iff_prefix.1 hfound.2
      obtain ⟨rfl, rfl⟩ := List.cons.inj hrest
      refine Or.inl ⟨[], rest, fun word hw => ?_⟩
      rw [List.cons_append, List.cons_append, splitAssignment, if_pos ⟨hfound.1, by rw [hsign word hw]; exact hfound.2⟩]
      simp
    · have hstep : ∀ word, IsWord word → splitAssignment depth (c :: before ++ word ++ after) =
          (splitAssignment (nesting depth c) (before ++ word ++ after)).map
            fun (before, after) => (c :: before, after) := by
        intro word hw
        rw [List.cons_append, List.cons_append, splitAssignment, if_neg (by rw [hsign word hw]; exact hfound)]
      rcases ih (nesting depth c) with ⟨left, right, h⟩ | ⟨left, right, h⟩ | h
      · exact Or.inl ⟨c :: left, right, fun word hw => by rw [hstep word hw, h word hw]; rfl⟩
      · exact Or.inr (Or.inl ⟨left, right, fun word hw => by rw [hstep word hw, h word hw]; rfl⟩)
      · exact Or.inr (Or.inr fun word hw => by rw [hstep word hw, h word hw]; rfl)

/-- A word stands on one side of a line, or on none, whatever the word is. -/
private theorem sides_frame (before after : List Char) :
    (∃ left x y, ∀ word, IsWord word → sides (before ++ word ++ after) = (left, x ++ word ++ y)) ∨
    (∃ x y right, ∀ word, IsWord word → sides (before ++ word ++ after) = (x ++ word ++ y, right)) ∨
    ∃ both, ∀ word, IsWord word → sides (before ++ word ++ after) = both := by
  have hcode : ∀ word, IsWord word → codeFrom .code (before ++ word ++ after) =
      codeFrom .code before ++ (if Place.code.after before = .code then word else []) ++
        codeFrom (Place.code.after before).settled after := by
    intro word hw
    rw [codeFrom_append, Place.after_append, Place.after_plain hw.ne_nil hw.plain, codeFrom_append,
      codeFrom_plain hw.plain]
  by_cases hp : Place.code.after before = .code
  · simp only [hp, ↓reduceIte] at hcode
    rcases splitAssignment_frame 0 (codeFrom .code before) (codeFrom (Place.settled .code) after) with
      ⟨left, right, h⟩ | ⟨left, right, h⟩ | h
    · exact Or.inl ⟨left, right, _, fun word hw => by rw [sides, hcode word hw, h word hw]; rfl⟩
    · exact Or.inr (Or.inl ⟨_, left, right, fun word hw => by rw [sides, hcode word hw, h word hw]; rfl⟩)
    · exact Or.inl ⟨[], _, _, fun word hw => by rw [sides, hcode word hw, h word hw]; rfl⟩
  · simp only [hp, ↓reduceIte, List.append_nil] at hcode
    exact Or.inr (Or.inr ⟨_, fun word hw => by rw [sides, hcode word hw]⟩)

/-- Characters of the stretch go to the end of it. -/
private theorem runsFrom_append {p : Char → Bool} {word : List Char} (h : ∀ c ∈ word, p c) (run cs : List Char) :
    runsFrom p run (word ++ cs) = runsFrom p (run ++ word) cs := by
  induction word generalizing run with
  | nil => simp
  | cons c word ih =>
    rw [List.forall_mem_cons] at h
    rw [List.cons_append, runsFrom, if_pos h.1, ih h.2, List.append_assoc, List.singleton_append]

/-- What was read of a stretch only stands at the beginning of the first one. -/
private theorem exists_runsFrom_eq_cons (p : Char → Bool) (cs : List Char) :
    ∃ y last, ∀ run, runsFrom p run cs = (run ++ y) :: last := by
  induction cs with
  | nil => exact ⟨[], [], fun run => by simp [runsFrom]⟩
  | cons c cs ih =>
    by_cases hc : p c
    · obtain ⟨y, last, h⟩ := ih
      exact ⟨c :: y, last, fun run => by rw [runsFrom, if_pos hc, h]; simp⟩
    · exact ⟨[], runsFrom p [] cs, fun run => by rw [runsFrom, if_neg hc, List.append_nil]⟩

/-- A stretch that holds a word is one of the stretches of a text, and the others do not depend on the word. -/
private theorem runsFrom_frame (p : Char → Bool) (run before after : List Char) :
    ∃ first x y last, ∀ word : List Char, (∀ c ∈ word, p c) →
      runsFrom p run (before ++ word ++ after) = first ++ (x ++ word ++ y) :: last := by
  induction before generalizing run with
  | nil =>
    obtain ⟨y, last, h⟩ := exists_runsFrom_eq_cons p after
    exact ⟨[], run, y, last, fun word hw => by rw [List.nil_append, runsFrom_append hw, h, List.nil_append]⟩
  | cons c before ih =>
    by_cases hc : p c
    · obtain ⟨first, x, y, last, h⟩ := ih (run ++ [c])
      exact ⟨first, x, y, last, fun word hw => by
        rw [List.cons_append, List.cons_append, runsFrom, if_pos hc, h word hw]⟩
    · -- the stretch before ends here, whatever the word is
      obtain ⟨first, x, y, last, h⟩ := ih []
      exact ⟨run :: first, x, y, last, fun word hw => by
        rw [List.cons_append, List.cons_append, runsFrom, if_neg hc, h word hw, List.cons_append]⟩

/-- Another character ends a stretch, and the next one begins behind it. -/
private theorem runsFrom_append_cons {p : Char → Bool} {d : Char} (h : ¬p d) (run before after : List Char) :
    runsFrom p run (before ++ d :: after) = runsFrom p run before ++ runsFrom p [] after := by
  induction before generalizing run with
  | nil => simp [runsFrom, h]
  | cons c before ih =>
    rw [List.cons_append, runsFrom, runsFrom]
    split
    · exact ih _
    · rw [ih, List.cons_append]

/-- No name goes across a character that names do not have. -/
theorem names_append_cons {d : Char} (h : isNameChar d = false) (before after : List Char) :
    names (before ++ d :: after) = names before ++ names after := by
  have hd : ¬isNameChar d = true := by simp [h]
  rw [names, runsFrom_append_cons hd, List.filter_append]
  rfl

/-- A word is its only name, if it is one. -/
theorem names_word {word : List Char} (h : ∀ c ∈ word, isNameChar c) : names word = [word].filter isName := by
  have hrun := runsFrom_append h [] []
  rw [List.append_nil] at hrun
  rw [names, hrun, runsFrom, List.nil_append]

theorem names_of_isName {word : List Char} (h : isName word) : names word = [word] := by
  have hchars : ∀ c ∈ word, isNameChar c := by
    rw [isName, Bool.and_eq_true, List.all_eq_true] at h
    exact h.1
  rw [names_word hchars, List.filter_cons_of_pos h, List.filter_nil]

/-- Digits are no names. -/
theorem names_digits {digits : List Char} (h : ∀ c ∈ digits, c.isDigit) : names digits = [] := by
  have hchars : ∀ c ∈ digits, isNameChar c := fun c hc => by simp [isNameChar, Char.isAlphanum, h c hc]
  have hname : ¬isName digits := by
    cases digits with
    | nil => decide
    | cons c digits => simp [isName, h c (List.mem_cons_self ..)]
  rw [names_word hchars, List.filter_cons_of_neg hname, List.filter_nil]

/-! ### Exchanging values -/

/-- A word with a character that no variable has. -/
structure IsMark (word : List Char) : Prop where
  isWord : IsWord word
  foreign : ∃ c ∈ word, ∀ symbol : Symbol, c ∉ symbol.name.toList

/-- Texts that may be exchanged without a change to the variables that a line assigns or reads. -/
def Alike (u v : List Char) : Prop :=
  ∀ (before after : List Char) (symbol : Symbol),
    (symbol.name.toList ∈ assigned (before ++ u ++ after) ↔ symbol.name.toList ∈ assigned (before ++ v ++ after)) ∧
    (symbol.name.toList ∈ read (before ++ u ++ after) ↔ symbol.name.toList ∈ read (before ++ v ++ after))

/-- A name with a mark in it is no variable. -/
theorem IsMark.symbol_ne {mark : List Char} (h : IsMark mark) (symbol : Symbol) (x y : List Char) :
    symbol.name.toList ≠ x ++ mark ++ y := by
  intro he
  obtain ⟨c, hc, hforeign⟩ := h.foreign
  exact hforeign symbol (by simp [he, hc])

/-- A mark stays in the target that it stands in. -/
private theorem IsMark.comma_ne {mark : List Char} (h : IsMark mark) : ∀ c ∈ mark, decide (c ≠ ',') = true := by
  intro c hc
  have hnot := h.isWord.not_mem (by decide : isNameChar ',' = false)
  rw [decide_eq_true_eq]
  rintro rfl
  exact hnot hc

/-- Blanks are dropped before a mark, but no character of it. -/
private theorem IsMark.dropWhile_append {mark : List Char} (h : IsMark mark) (a b : List Char) :
    (a ++ mark ++ b).dropWhile (· = ' ') = a.dropWhile (· = ' ') ++ mark ++ b := by
  induction a with
  | nil =>
    obtain ⟨c, rest, rfl⟩ := List.exists_cons_of_ne_nil h.isWord.ne_nil
    have hc : ¬decide (c = ' ') = true := by
      have := h.isWord.not_mem (by decide : isNameChar ' ' = false)
      simp only [List.mem_cons, not_or] at this
      simpa using Ne.symm this.1
    rw [List.nil_append, List.cons_append, List.dropWhile_cons, if_neg hc]
    rfl
  | cons c a ih =>
    by_cases hc : decide (c = ' ') = true
    · rw [List.cons_append, List.cons_append, List.dropWhile_cons, List.dropWhile_cons, if_pos hc, if_pos hc, ih]
    · rw [List.cons_append, List.cons_append, List.dropWhile_cons, List.dropWhile_cons, if_neg hc, if_neg hc]
      rfl

section

variable {u v : List Char} (hu : IsMark u) (hv : IsMark v)

include hu hv

private theorem mem_names_mark (symbol : Symbol) (x y : List Char) :
    symbol.name.toList ∈ names (x ++ u ++ y) ↔ symbol.name.toList ∈ names (x ++ v ++ y) := by
  obtain ⟨first, a, b, last, h⟩ := runsFrom_frame isNameChar [] x y
  simp only [names, h u hu.isWord.nameChars, h v hv.isWord.nameChars, List.mem_filter, List.mem_append, List.mem_cons,
    hu.symbol_ne symbol a b, hv.symbol_ne symbol a b]

/-- The targets of two left sides differ at most in one, which has a mark in it. -/
private theorem targets_mark (x y : List Char) : ∃ first a b last,
    targets (x ++ u ++ y) = first ++ (a ++ u ++ b) :: last ∧ targets (x ++ v ++ y) = first ++ (a ++ v ++ b) :: last := by
  obtain ⟨first, a, b, last, h⟩ := runsFrom_frame (· ≠ ',') [] x y
  refine ⟨first.map (·.dropWhile (· = ' ')), a.dropWhile (· = ' '), b, last.map (·.dropWhile (· = ' ')), ?_, ?_⟩
  · rw [targets, h u hu.comma_ne, List.map_append, List.map_cons, hu.dropWhile_append]
  · rw [targets, h v hv.comma_ne, List.map_append, List.map_cons, hv.dropWhile_append]

/-- The variables that are read on the left side do not depend on a mark in it. -/
private theorem mem_targets_mark (symbol : Symbol) (x y : List Char) :
    (symbol.name.toList ∈ (targets (x ++ u ++ y)).filter isName ↔
      symbol.name.toList ∈ (targets (x ++ v ++ y)).filter isName) ∧
    (symbol.name.toList ∈ ((targets (x ++ u ++ y)).filter (!isName ·)).flatMap names ↔
      symbol.name.toList ∈ ((targets (x ++ v ++ y)).filter (!isName ·)).flatMap names) := by
  obtain ⟨first, a, b, last, htu, htv⟩ := targets_mark hu hv x y
  -- a target with a mark in it is no variable, so it does not matter whether it is a name
  have htarget : ∀ {mark : List Char}, IsMark mark →
      (symbol.name.toList ∈ ([a ++ mark ++ b].filter (!isName ·)).flatMap names ↔
        symbol.name.toList ∈ names (a ++ mark ++ b)) := by
    intro mark hm
    cases hn : isName (a ++ mark ++ b) with
    | false => rw [List.filter_cons_of_pos (by rw [hn]; decide), List.filter_nil, List.flatMap_singleton]
    | true =>
      rw [List.filter_cons_of_neg (by rw [hn]; decide), List.filter_nil, names_of_isName hn, List.flatMap_nil,
        List.mem_singleton]
      simp [-List.append_assoc, hm.symbol_ne symbol a b]
  rw [htu, htv]
  constructor
  · simp only [List.mem_filter, List.mem_append, List.mem_cons, hu.symbol_ne symbol a b, hv.symbol_ne symbol a b]
  · rw [List.append_cons, List.append_cons first (a ++ v ++ b)]
    simp only [List.filter_append, List.flatMap_append, List.mem_append, htarget hu, htarget hv,
      mem_names_mark hu hv]

/-- Marks may be exchanged. -/
theorem alike_marks : Alike u v := by
  intro before after symbol
  rcases sides_frame before after with ⟨left, x, y, h⟩ | ⟨x, y, right, h⟩ | ⟨both, h⟩
  · simp only [assigned, read, h u hu.isWord, h v hv.isWord, List.mem_append, mem_names_mark hu hv]
    exact ⟨trivial, trivial⟩
  · have hm := mem_targets_mark hu hv symbol x y
    simp only [assigned, read, h u hu.isWord, h v hv.isWord, List.mem_append, hm]
    exact ⟨trivial, trivial⟩
  · simp only [assigned, read, h u hu.isWord, h v hv.isWord]
    exact ⟨trivial, trivial⟩

end

namespace Alike

theorem refl (u : List Char) : Alike u u := fun _ _ _ => ⟨Iff.rfl, Iff.rfl⟩

theorem append {u v u' v' : List Char} (h : Alike u v) (h' : Alike u' v') : Alike (u ++ u') (v ++ v') := by
  intro before after symbol
  have hl := h before (u' ++ after) symbol
  have hr := h' (before ++ v) after symbol
  simp only [List.append_assoc] at hl hr ⊢
  exact ⟨hl.1.trans hr.1, hl.2.trans hr.2⟩

/-- Lines that are filled with values alike are alike. -/
theorem flatMap {α : Type} {f g : α → List Char} {pieces : List α} (h : ∀ piece ∈ pieces, Alike (f piece) (g piece)) :
    Alike (pieces.flatMap f) (pieces.flatMap g) := by
  induction pieces with
  | nil => exact refl []
  | cons piece pieces ih =>
    rw [List.forall_mem_cons] at h
    rw [List.flatMap_cons, List.flatMap_cons]
    exact h.1.append (ih h.2)

end Alike

/-! ### Literals and comments -/

/-- An escaped character has no code and does not end its literal. -/
private theorem codeFrom_escapeChar (c : Char) :
    codeFrom (.literal false) (Literal.escapeChar c) = [] ∧
      (Place.literal false).after (Literal.escapeChar c) = .literal false := by
  rcases Literal.escapeChar_cases c with ⟨d, -, hc⟩ | ⟨hlt, hc⟩ | ⟨hslash, hquote, -, hc⟩
  · rw [hc]
    exact ⟨rfl, rfl⟩
  · have hdigit : ∀ n < 16, isNameChar (Text.hexDigit n) := by decide
    have hword : IsWord (Text.hexByte c.toNat) := by
      refine ⟨by simp [Text.hexByte], fun d hd => ?_⟩
      simp only [Text.hexByte, List.mem_cons, List.not_mem_nil, or_false] at hd
      rcases hd with rfl | rfl
      · exact hdigit _ (by omega)
      · exact hdigit _ (by omega)
    rw [hc]
    exact ⟨by rw [codeFrom_append, codeFrom_plain hword.plain]; rfl,
      (Place.after_append ..).trans (Place.after_plain hword.ne_nil hword.plain _)⟩
  · rw [hc]
    simp [codeFrom, Place.after, Place.next, hslash, hquote]

/-- A literal in code leaves its opening quote, whatever it holds. -/
theorem codeFrom_literal (text : List Char) :
    codeFrom .code (Literal.chars text) = ['\''] ∧ Place.code.after (Literal.chars text) = .code := by
  have hbody : codeFrom (.literal false) (text.flatMap Literal.escapeChar ++ ['\'']) = [] ∧
      (Place.literal false).after (text.flatMap Literal.escapeChar ++ ['\'']) = .code := by
    induction text with
    | nil => exact ⟨rfl, rfl⟩
    | cons c text ih =>
      obtain ⟨hcode, hafter⟩ := codeFrom_escapeChar c
      rw [List.flatMap_cons, List.append_assoc, codeFrom_append, hcode, hafter]
      refine ⟨ih.1, ?_⟩
      rw [Place.after_append, hafter]
      exact ih.2
  exact ⟨congrArg ('\'' :: ·) hbody.1, hbody.2⟩

/-- Of a literal in code, the code of a line shows the opening quote only. -/
theorem codeFrom_append_literal {before : List Char} (h : Place.code.after before = .code) (text after : List Char) :
    codeFrom .code (before ++ Literal.chars text ++ after) = codeFrom .code before ++ ['\''] ++ codeFrom .code after := by
  obtain ⟨hcode, hplace⟩ := codeFrom_literal text
  rw [codeFrom_append, Place.after_append, codeFrom_append, h, hcode, hplace]

/-- A comment has no code but its sign. -/
theorem codeFrom_comment (text : List Char) : codeFrom .code ('#' :: text) = ['#'] := by
  have h : ∀ text : List Char, codeFrom .comment text = [] := by
    intro text
    induction text with
    | nil => rfl
    | cons c text ih => exact ih
  exact congrArg ('#' :: ·) (h text)

end TableScript.Line
