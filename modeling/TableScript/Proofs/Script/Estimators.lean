import TableScript.Script.Fragment

/-!
# Estimators

The table of estimators follows the catalogue: it has one row for each algorithm, under the family that offers it
(`Fragments.models_keys`).  So looking up a family and an algorithm finds an estimator if the family offers the
algorithm, and it is that of the algorithm (`Family.estimator?_eq`).
-/

namespace TableScript

theorem Fragments.models_keys : (models.map fun model => (model.family, model.algorithm)) =
    Algorithm.all.map fun algorithm => (algorithm.family, algorithm) :=
  rfl

theorem Family.isSome_estimator? (family : Family) (algorithm : Algorithm) :
    (family.estimator? algorithm).isSome = family.offers algorithm := by
  have hkey : (family, algorithm) ∈ Fragments.models.map (fun model => (model.family, model.algorithm)) ↔
      family.offers algorithm := by
    simp [Fragments.models_keys, Family.offers, Algorithm.mem_all]
  rw [Bool.eq_iff_iff, ← hkey, estimator?, Option.isSome_map, List.find?_isSome, List.mem_map]
  simp

/-- The estimator of an algorithm. -/
def Algorithm.estimator (algorithm : Algorithm) : Fragment :=
  (algorithm.family.estimator? algorithm).get (by simp [Family.isSome_estimator?, Family.offers])

/-- A family has the estimators of the algorithms that it offers, and no others. -/
theorem Family.estimator?_eq (family : Family) (algorithm : Algorithm) :
    family.estimator? algorithm = if family.offers algorithm then some algorithm.estimator else none := by
  cases h : family.offers algorithm with
  | true =>
    obtain rfl : algorithm.family = family := of_decide_eq_true h
    exact (Option.some_get _).symm
  | false =>
    rw [← isSome_estimator?, Option.isSome_eq_false_iff, Option.isNone_iff_eq_none] at h
    simpa using h

end TableScript
