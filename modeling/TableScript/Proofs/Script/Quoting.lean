import TableScript.Proofs.Script.Braces

/-!
# Quoted file names

A literal is read as the text that it was written for, whatever stands behind it (`Literal.read_write_append`), and
nothing shorter than the literal is read as one (`Literal.read_eq_none_of_prefix`).  The name of a file is written into
its script as such a literal, so that the name neither ends it early nor gets lost (`fileLiteral_read_back`).
-/

namespace TableScript

namespace Literal

/-! ### Reading what was written -/

/-- Two hexadecimal digits behind `\x` are read as the character with their number. -/
private theorem readBody_hexByte {n : Nat} (h : n < 256) {rest value after : List Char}
    (hr : readBody rest = some (value, after)) :
    readBody ('\\' :: 'x' :: (Text.hexByte n ++ rest)) = some (Char.ofNat n :: value, after) := by
  have hhigh := Text.hexValue?_hexDigit (n / 16) (by omega)
  have hlow := Text.hexValue?_hexDigit (n % 16) (by omega)
  have hn : 16 * (n / 16) + n % 16 = n := Nat.div_add_mod n 16
  simp only [Text.hexByte, List.cons_append, List.nil_append, readBody, hhigh, hlow, hr, hn]

/-- An escaped character is read as the character. -/
private theorem readBody_escapeChar (c : Char) {rest value after : List Char}
    (hr : readBody rest = some (value, after)) : readBody (escapeChar c ++ rest) = some (c :: value, after) := by
  unfold escapeChar
  split_ifs with hslash hquote hfeed hreturn htab hcontrol
  · subst hslash; simp [readBody, hr]
  · subst hquote; simp [readBody, hr]
  · subst hfeed; simp [readBody, hr]
  · subst hreturn; simp [readBody, hr]
  · subst htab; simp [readBody, hr]
  · -- control characters have numbers below 160, which two digits can write
    have hlt : c.toNat < 256 := by
      simp only [Text.isControl, Bool.or_eq_true, Bool.and_eq_true, decide_eq_true_eq] at hcontrol
      omega
    have hread := readBody_hexByte hlt hr
    rw [Char.ofNat_toNat] at hread
    exact hread
  · simp [readBody, hslash, hr]

private theorem readBody_escaped (text rest : List Char) :
    readBody (text.flatMap escapeChar ++ '\'' :: rest) = some (text, rest) := by
  induction text with
  | nil => rfl
  | cons c text ih =>
    rw [List.flatMap_cons, List.append_assoc]
    exact readBody_escapeChar c ih

theorem toList_write (text : String) : (write text).toList = chars text.toList :=
  String.toList_ofList

/-- A literal is read as its text, and what stands behind it is left. -/
theorem read_write_append (text : String) (rest : List Char) :
    read ((write text).toList ++ rest) = some (text.toList, rest) := by
  rw [toList_write, chars, List.cons_append, List.append_assoc, List.singleton_append]
  exact readBody_escaped text.toList rest

/-- Two texts that begin with literals are equal only if the literals are, and what stands behind them. -/
theorem write_append_inj {first second : String} {rest rest' : List Char}
    (h : (write first).toList ++ rest = (write second).toList ++ rest') : first = second ∧ rest = rest' := by
  have hread := read_write_append first rest
  rw [h, read_write_append] at hread
  obtain ⟨hname, hrest⟩ := Prod.mk.inj (Option.some.inj hread)
  exact ⟨(String.toList_inj.1 hname).symm, hrest.symm⟩

/-! ### Where a literal ends -/

/-- What has been read does not depend on what comes behind it. -/
private theorem readBody_append {cs value rest : List Char} (h : readBody cs = some (value, rest))
    (more : List Char) : readBody (cs ++ more) = some (value, rest ++ more) := by
  fun_induction readBody cs generalizing value rest with
  | case1 => cases h
  | case2 after =>
    cases h
    rfl
  | case3 a b cs high low found after hfound hlow hhigh ih =>
    cases h
    simp only [List.cons_append, readBody, hhigh, hlow, ih hfound]
  | case4 => cases h
  | case5 d cs hx value? c found after hfound hvalue =>
    rename_i ih
    -- behind the backslash stands one of the five characters that mean one
    cases h
    simp only [value?] at hvalue
    split at hvalue <;> cases hvalue <;> simp [readBody, ih hfound]
  | case6 => cases h
  | case7 c cs hquote hx hslash found after hfound ih =>
    cases h
    have hc : c ≠ '\\' := by
      rintro rfl
      cases cs with
      | nil => cases hfound
      | cons d cs => exact hslash d cs rfl rfl
    simp [readBody, hc, ih hfound]
  | case8 => cases h

theorem read_append {cs value rest : List Char} (h : read cs = some (value, rest)) (more : List Char) :
    read (cs ++ more) = some (value, rest ++ more) := by
  unfold read at h
  split at h
  · exact readBody_append h more
  · cases h

/-- Nothing shorter than a literal is read as one. -/
theorem read_eq_none_of_prefix {text : String} {before after : List Char} (h : (write text).toList = before ++ after)
    (hne : after ≠ []) : read before = none := by
  cases hread : read before with
  | none => rfl
  | some found =>
    obtain ⟨value, rest⟩ := found
    have hall := read_append hread after
    have hwrite := read_write_append text []
    rw [List.append_nil, h, hall] at hwrite
    obtain ⟨-, hrest⟩ := Prod.mk.inj (Option.some.inj hwrite)
    exact absurd (List.append_eq_nil_iff.1 hrest).2 hne

end Literal

/-! ### The line that reads the file -/

/-- The line of a script that reads the file with a name. -/
def loadLine (fileName : String) : List Char :=
  "dataset = pd.read_csv(".toList ++ (Literal.write fileName).toList ++ ")".toList

theorem loadLine_injective : Function.Injective loadLine := by
  intro first second h
  unfold loadLine at h
  rw [List.append_assoc, List.append_assoc] at h
  have hliterals := List.append_cancel_left h
  exact (Literal.write_append_inj hliterals).1

/-- The stage that loads the dataset writes this line, after a comment and an import. -/
theorem lines_load (dataset : Dataset) : Text.splitOn '\n' (Render.load dataset).toList =
    "# Load dataset".toList :: "import pandas as pd".toList :: loadLine dataset.fileName ::
      ["print('Dataset shape:', dataset.shape)".toList, "print('Dataset info:')".toList,
        "dataset.info()".toList] := by
  have hf : StageId.load.fragment? [] = some Fragments.load := rfl
  have hstate : Options.HasRandomState {} := by
    intro family hfamily
    cases hfamily
  have hfill : (Render.load dataset).toList =
      ['\n'].intercalate (Fragments.load.filledLines (Render.value {} dataset [])) := by
    have hrender := StageId.render_toList hstate
      (rfl : (StageId.load.render {} dataset ⟨[]⟩ []).outcome = .ok (Render.load dataset))
    rwa [StageId.blocks_of_fragment hf, Text.joinBlocks, List.map_singleton, List.intercalate_singleton] at hrender
  have hcopied : ∀ line ∈ ["# Load dataset".toList, "import pandas as pd".toList,
      "print('Dataset shape:', dataset.shape)".toList, "print('Dataset info:')".toList, "dataset.info()".toList],
      '\n' ∉ line := by decide
  have hline : '\n' ∉ loadLine dataset.fileName := by
    intro hmem
    rcases List.mem_append.1 hmem with hmem | hmem
    · rcases List.mem_append.1 hmem with hmem | hmem
      · exact absurd hmem (by decide)
      · rw [Literal.toList_write] at hmem
        exact absurd (Literal.isControl_of_mem_chars hmem) (by decide)
    · exact absurd hmem (by decide)
  rw [hfill, Fragments.filledLines_load, Text.splitOn_intercalate _ (by simp)]
  · rfl
  · simp only [List.forall_mem_cons] at hcopied ⊢
    exact ⟨hcopied.1, hcopied.2.1, hline, hcopied.2.2⟩

/-- Whatever a file is called, the literal of its name is read as the name and leaves what stands behind it, no shorter
text is read as a literal, and it has no control characters.  The stage that loads the dataset writes it into its third
line, which is a different one for every name. -/
theorem fileLiteral_read_back (name : String) :
    (∀ rest, Literal.read ((Literal.write name).toList ++ rest) = some (name.toList, rest)) ∧
    (∀ before after, (Literal.write name).toList = before ++ after → after ≠ [] → Literal.read before = none) ∧
    (∀ c ∈ (Literal.write name).toList, Text.isControl c = false) ∧
    (∀ options plan scope rowCount columns previewRows, ∃ text,
      (StageId.load.render options ⟨name, rowCount, columns, previewRows⟩ plan scope).outcome = .ok text ∧
        (Text.splitOn '\n' text.toList)[2]? = some (loadLine name)) ∧
    ∀ other, name ≠ other → loadLine name ≠ loadLine other := by
  refine ⟨Literal.read_write_append name, fun before after h hne => Literal.read_eq_none_of_prefix h hne, ?_, ?_, ?_⟩
  · intro c hc
    rw [Literal.toList_write] at hc
    exact Literal.isControl_of_mem_chars hc
  · intro options plan scope rowCount columns previewRows
    refine ⟨Render.load ⟨name, rowCount, columns, previewRows⟩, rfl, ?_⟩
    rw [lines_load]
    rfl
  · intro other hne hline
    exact hne (loadLine_injective hline)

/-- A name with a quote, a backslash and a control character before a letter that could be a digit of its number. -/
theorem fileLiteral_of_hostile_name :
    Literal.read ("'a\\'\\\\\\x85b'".toList ++ ") #".toList) = some ("a'\\\u0085b".toList, ") #".toList) ∧
    Literal.read "'a\\'".toList = none ∧ Text.isControl '\\' = false ∧ loadLine "a'\\\u0085b" ≠ loadLine "a'" := by
  have hwrite : (Literal.write "a'\\\u0085b").toList = "'a\\'\\\\\\x85b'".toList := by decide
  obtain ⟨hread, hshort, hcontrol, -, hline⟩ := fileLiteral_read_back "a'\\\u0085b"
  rw [hwrite] at hread hshort hcontrol
  exact ⟨hread ") #".toList, hshort "'a\\'".toList "\\\\\\x85b'".toList (by decide) (by decide),
    hcontrol '\\' (by decide), hline "a'" (by decide)⟩

end TableScript
