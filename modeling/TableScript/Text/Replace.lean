/-!
# Finding and replacing every occurrence

The occurrences of a pattern that are replaced are found from left to right and do not overlap.
-/

namespace TableScript.Text

/-- Whether a pattern occurs in a text. -/
def contains (pattern : List Char) : List Char → Bool
  | [] => pattern.isEmpty
  | c :: cs => pattern.isPrefixOf (c :: cs) || contains pattern cs

theorem contains_iff {pattern cs : List Char} : contains pattern cs ↔ pattern <:+: cs := by
  induction cs with
  | nil => simp [contains]
  | cons c cs ih => rw [contains, Bool.or_eq_true, List.isPrefixOf_iff_prefix, ih, List.infix_cons_iff]

/-- Replaces the occurrences of `pattern` after passing over the next `skipped` characters, which belong to an
occurrence already replaced. -/
def replaceAfter (pattern replacement : List Char) : Nat → List Char → List Char
  | _, [] => []
  | skipped + 1, _ :: cs => replaceAfter pattern replacement skipped cs
  | 0, c :: cs =>
    if pattern.isPrefixOf (c :: cs) then
      replacement ++ replaceAfter pattern replacement (pattern.length - 1) cs
    else c :: replaceAfter pattern replacement 0 cs

/-- Replaces every occurrence of `pattern`, which is not empty. -/
def replaceAll (pattern replacement cs : List Char) : List Char :=
  replaceAfter pattern replacement 0 cs

end TableScript.Text
