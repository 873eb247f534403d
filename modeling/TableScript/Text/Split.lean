/-!
# Splitting and joining

Cutting a text at a character, into lines, or at the first occurrence of a character, and joining texts with a
separator.  Cutting at a character undoes joining with it (`splitOn_append_cons`).
-/

namespace TableScript.Text

/-- Puts a character in front of the first piece, or starts a new piece at the separator. -/
private def extendPieces (sep c : Char) (pieces : List (List Char)) : List (List Char) :=
  if c = sep then [] :: pieces
  else match pieces with
    | [] => [[c]]
    | piece :: more => (c :: piece) :: more

/-- The pieces between the occurrences of `sep`; there is always at least one. -/
def splitOn (sep : Char) (cs : List Char) : List (List Char) :=
  cs.foldr (extendPieces sep) [[]]

theorem splitOn_of_not_mem {sep : Char} {cs : List Char} (h : sep ∉ cs) : splitOn sep cs = [cs] := by
  induction cs with
  | nil => rfl
  | cons c cs ih =>
    simp only [List.mem_cons, not_or] at h
    have : splitOn sep (c :: cs) = extendPieces sep c (splitOn sep cs) := rfl
    simp [this, extendPieces, Ne.symm h.1, ih h.2]

theorem splitOn_append_cons {sep : Char} {cs : List Char} (h : sep ∉ cs) (rest : List Char) :
    splitOn sep (cs ++ sep :: rest) = cs :: splitOn sep rest := by
  induction cs with
  | nil => simp [splitOn, extendPieces]
  | cons c cs ih =>
    simp only [List.mem_cons, not_or] at h
    have : splitOn sep (c :: cs ++ sep :: rest) = extendPieces sep c (splitOn sep (cs ++ sep :: rest)) := rfl
    rw [this, ih h.2]
    simp [extendPieces, Ne.symm h.1]

/-- What stands before and after the first `sep`, if there is one. -/
def splitOnce (sep : Char) : List Char → Option (List Char × List Char)
  | [] => none
  | c :: cs =>
    if c = sep then some ([], cs)
    else (splitOnce sep cs).map fun (before, after) => (c :: before, after)

theorem splitOnce_append_cons {sep : Char} {before : List Char} (h : sep ∉ before) (after : List Char) :
    splitOnce sep (before ++ sep :: after) = some (before, after) := by
  induction before with
  | nil => simp [splitOnce]
  | cons c before ih =>
    simp only [List.mem_cons, not_or] at h
    simp [splitOnce, Ne.symm h.1, ih h.2]

/-- Removes one carriage return from the end. -/
def dropCarriageReturn (line : List Char) : List Char :=
  if line.getLast? = some '\r' then line.dropLast else line

/-- The lines of a text.  A line ends at a line feed, or at a carriage return directly before one; what stands
after the last line feed is a line unless it is empty. -/
def lines (cs : List Char) : List (List Char) :=
  let pieces := splitOn '\n' cs
  pieces.dropLast.map dropCarriageReturn ++ pieces.getLast?.toList.filter (!·.isEmpty)

/-- The texts with `sep` between them. -/
def join (sep : String) (pieces : List String) : String :=
  String.ofList (sep.toList.intercalate (pieces.map String.toList))

end TableScript.Text
