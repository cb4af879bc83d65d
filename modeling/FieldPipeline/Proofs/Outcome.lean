import FieldPipeline.Workspace

namespace FieldPipeline.Outcome

variable {ε σ α β : Type}

@[simp] theorem state_bind_run (x : StateM σ α) (f : α → StateM σ β) (s : σ) :
    (x >>= f) s = f (x s).1 (x s).2 := rfl

@[simp] theorem bind_run (x : ExceptT ε (StateM σ) α)
    (f : α → ExceptT ε (StateM σ) β) (s : σ) :
    (x >>= f) s =
      match x s with
      | (.ok a, s') => f a s'
      | (.error e, s') => (.error e, s') := by
  change (match x s with | (r, s') => (match r with | .ok a => f a | .error e => pure (.error e) :
    StateM σ (Except ε β)) s') = _
  rcases x s with ⟨_ | a, s'⟩ <;> rfl

theorem bind_eq_ok {x : ExceptT ε (StateM σ) α} {f : α → ExceptT ε (StateM σ) β} {s s'' : σ}
    {b : β} : (x >>= f) s = (.ok b, s'') ↔ ∃ a s', x s = (.ok a, s') ∧ f a s' = (.ok b, s'') := by
  rw [bind_run]
  rcases x s with ⟨e | a, s'⟩
  · constructor
    · intro h
      cases h
    · rintro ⟨a, t, h, -⟩
      cases h
  · constructor
    · intro h
      exact ⟨a, s', rfl, h⟩
    · rintro ⟨a', t, h, hf⟩
      cases h
      exact hf

theorem bind_of_ok {x : ExceptT ε (StateM σ) α} {s s' : σ} {a : α} (h : x s = (.ok a, s'))
    (f : α → ExceptT ε (StateM σ) β) : (x >>= f) s = f a s' := by
  simp [h]

/-- What follows a step matters only where the step succeeds. -/
theorem bind_congr_of_ok {x : ExceptT ε (StateM σ) α} {f g : α → ExceptT ε (StateM σ) β}
    (h : ∀ s a s', x s = (.ok a, s') → f a = g a) : x >>= f = x >>= g := by
  funext s
  rw [bind_run, bind_run]
  rcases ran : x s with ⟨e | a, s'⟩
  · rfl
  · dsimp only
    rw [h s a s' ran]

theorem bind_eq_ok_of_except {x : Except ε α} {f : α → Except ε β} {b : β} :
    (x >>= f) = .ok b ↔ ∃ a, x = .ok a ∧ f a = .ok b := by
  cases x with
  | error e => simp [bind, Except.bind]
  | ok a => simp [bind, Except.bind]

end FieldPipeline.Outcome
