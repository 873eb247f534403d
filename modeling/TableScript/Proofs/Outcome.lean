import TableScript.Event

/-!
# Outcomes

How an outcome that goes on with the value of another one comes to succeed or to fail.
-/

namespace TableScript

theorem bind_eq_ok_iff {ε α β : Type} {x : Except ε α} {f : α → Except ε β} {b : β} :
    x >>= f = .ok b ↔ ∃ a, x = .ok a ∧ f a = .ok b := by
  cases x with
  | error e => simp [bind, Except.bind]
  | ok a => simp [bind, Except.bind]

theorem bind_eq_error_iff {ε α β : Type} {x : Except ε α} {f : α → Except ε β} {e : ε} :
    x >>= f = .error e ↔ x = .error e ∨ ∃ a, x = .ok a ∧ f a = .error e := by
  cases x with
  | error e => simp [bind, Except.bind]
  | ok a => simp [bind, Except.bind]

theorem ok_bind {ε α β : Type} (a : α) (f : α → Except ε β) : (Except.ok a >>= f) = f a := rfl

theorem error_bind {ε α β : Type} (e : ε) (f : α → Except ε β) : (Except.error e >>= f) = .error e := rfl

theorem mapError_eq_ok_iff {ε δ α : Type} {f : ε → δ} {x : Except ε α} {a : α} : x.mapError f = .ok a ↔ x = .ok a := by
  cases x with
  | error e => exact ⟨fun h => (by cases h), fun h => (by cases h)⟩
  | ok b => exact ⟨fun h => congrArg _ (Except.ok.inj h), fun h => congrArg _ (Except.ok.inj h)⟩

theorem any_toOption_iff {ε α : Type} {x : Except ε α} {p : α → Bool} : x.toOption.any p ↔ ∃ a, x = .ok a ∧ p a := by
  cases x <;> simp [Except.toOption]

/-- What holds of every value of a traversal holds of all of them. -/
theorem map_eq_of_mapM {ε α β γ : Type} {f : α → Except ε β} {g : β → γ} {k : α → γ} {xs : List α} {ys : List β}
    (hvalue : ∀ x ∈ xs, ∀ y, f x = .ok y → g y = k x) (h : xs.mapM f = .ok ys) : ys.map g = xs.map k := by
  induction xs generalizing ys with
  | nil =>
    cases h
    rfl
  | cons x xs ih =>
    rw [List.forall_mem_cons] at hvalue
    rw [List.mapM_cons] at h
    obtain ⟨y, hy, h⟩ := bind_eq_ok_iff.1 h
    obtain ⟨rest, hrest, h⟩ := bind_eq_ok_iff.1 h
    cases h
    rw [List.map_cons, List.map_cons, hvalue.1 y hy, ih hvalue.2 hrest]

/-- A traversal whose steps follow those of another one. -/
theorem mapM_eq_ok_map {ε α β γ : Type} {f : α → Except ε β} {f' : α → Except ε γ} {g : β → γ} {xs : List α}
    {ys : List β} (hvalue : ∀ x ∈ xs, ∀ y, f x = .ok y → f' x = .ok (g y)) (h : xs.mapM f = .ok ys) :
    xs.mapM f' = .ok (ys.map g) := by
  induction xs generalizing ys with
  | nil =>
    cases h
    rfl
  | cons x xs ih =>
    rw [List.forall_mem_cons] at hvalue
    rw [List.mapM_cons] at h ⊢
    obtain ⟨y, hy, h⟩ := bind_eq_ok_iff.1 h
    obtain ⟨rest, hrest, h⟩ := bind_eq_ok_iff.1 h
    cases h
    rw [hvalue.1 y hy, ih hvalue.2 hrest]
    rfl

@[simp] theorem Traced.outcome_throw {ε α : Type} (e : ε) : (Traced.throw e : Traced ε α).outcome = .error e := rfl

/-- The events of what goes on after an outcome come behind those up to it. -/
theorem Traced.events_bind_of_ok {ε α β : Type} {x : Traced ε α} {a : α} (h : x.outcome = .ok a)
    (f : α → Traced ε β) : (x >>= f).events = x.events ++ (f a).events := by
  show (Traced.bind x f).events = _
  simp [Traced.bind, h]

end TableScript
