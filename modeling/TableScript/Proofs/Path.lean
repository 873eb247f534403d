import Mathlib.Tactic.SplitIfs
import TableScript.Path
import TableScript.Proofs.Text.Lines

/-!
# Names of paths

What a path that ends in `.toml` has for an extension: none, if nothing stands before it in its last part, since a name
that only begins with a dot has no extension (`extension?_append_toml`).
-/

namespace TableScript

namespace Path

/-- No name stands at the end of a path: it is empty, or ends in a slash. -/
def Nameless (path : String) : Prop :=
  ∀ c ∈ path.toList.getLast?, c = '/'

instance (path : String) : Decidable (Nameless path) :=
  Option.decidableForallMem path.toList.getLast?

theorem join_ne_empty (directory : String) {path : String} (h : path ≠ "") : join directory path ≠ "" := by
  unfold join
  split_ifs
  · exact h
  · simp [h]
  · simp

theorem nameless_join {directory path : String} : Nameless (join directory path) ↔ Nameless path := by
  have hafter : ∀ front : String, front.toList.getLast? = some '/' → (Nameless (front ++ path) ↔ Nameless path) := by
    intro front hfront
    simp only [Nameless, String.toList_append, List.getLast?_append, hfront]
    cases path.toList.getLast? <;> simp
  unfold join
  split_ifs with hwhole hslash
  · rfl
  · exact hafter directory hslash
  · exact hafter (directory ++ "/") (by simp)

theorem join_append_toml (directory path : String) :
    join directory (path ++ ".toml") = join directory path ++ ".toml" := by
  have habsolute : isAbsolute (path ++ ".toml") = isAbsolute path := by
    unfold isAbsolute
    rw [String.toList_append]
    cases path.toList <;> rfl
  unfold join
  rw [habsolute]
  split_ifs
  · rfl
  · rw [String.append_assoc]
  · rw [String.append_assoc, String.append_assoc, String.append_assoc]

theorem extension?_append_toml (path : String) :
    extension? (path ++ ".toml") = if Nameless path then none else some "toml" := by
  have hslash : '/' ∉ ".toml".toList := by decide
  obtain ⟨pieces, last, hbefore, hafter⟩ := Text.exists_splitOn_append hslash path.toList
  have hlast : Nameless path ↔ last = [] := by
    rw [Nameless, ← Text.getLast?_splitOn_eq_nil_iff, hbefore, List.getLast?_concat, Option.some_inj]
  have hname : fileName? (path ++ ".toml") = some (String.ofList last ++ ".toml") := by
    have hne : ∀ other : String, other.length < 5 → String.ofList last ++ ".toml" ≠ other := by
      rintro other hother rfl
      rw [String.length_append] at hother
      exact absurd hother (Nat.not_lt.2 (Nat.le_add_left 5 _))
    rw [fileName?, parts, String.toList_append, hafter, List.map_append, List.filter_append]
    simp [hne "." (by decide), hne ".." (by decide)]
  have hreverse : (String.ofList last ++ ".toml").toList.reverse = "lmot".toList ++ '.' :: last.reverse := by
    simp
  rw [extension?, hname, Option.bind_some, splitExtension, hreverse, Text.splitOnce_append_cons (by decide)]
  by_cases hempty : last = []
  · rw [if_pos (hlast.2 hempty)]
    simp [hempty]
  · rw [if_neg (hempty ∘ hlast.1)]
    simp [hempty]

end Path

end TableScript
