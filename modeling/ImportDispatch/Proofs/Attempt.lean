import ImportDispatch.Attempt
/-!
# Attempts, run on a state

What each way of putting attempts together does to the state.  Everything about the steps of the service is read off
these equations.
-/
namespace ImportDispatch
namespace Attempt

variable {ε δ σ τ α β : Type}

@[simp] theorem runOn_pure (a : α) (s : σ) : runOn (pure a : Attempt ε σ α) s = (.ok a, s) := rfl

@[simp] theorem runOn_throw (e : ε) (s : σ) : runOn (throw e : Attempt ε σ α) s = (.error e, s) := rfl

@[simp] theorem runOn_get (s : σ) : runOn (get : Attempt ε σ σ) s = (.ok s, s) := rfl

@[simp] theorem runOn_set (s s' : σ) : runOn (set s' : Attempt ε σ PUnit) s = (.ok ⟨⟩, s') := rfl

@[simp] theorem runOn_modify (f : σ → σ) (s : σ) : runOn (modify f : Attempt ε σ PUnit) s = (.ok ⟨⟩, f s) := rfl

theorem runOn_bind (x : Attempt ε σ α) (f : α → Attempt ε σ β) (s : σ) :
    runOn (x >>= f) s = match runOn x s with
      | (.ok a, s') => runOn (f a) s'
      | (.error e, s') => (.error e, s') := by
  simp only [runOn, ExceptT.run_bind, StateT.run_bind]
  rcases h : StateT.run (ExceptT.run x) s with ⟨_ | a, s'⟩ <;> rfl

/-- A step before another one that goes well. -/
theorem runOn_bind_ok {x : Attempt ε σ α} {f : α → Attempt ε σ β} {s s' : σ} {a : α} (h : runOn x s = (.ok a, s')) :
    runOn (x >>= f) s = runOn (f a) s' := by
  rw [runOn_bind, h]

/-- A step that fails ends what it begins. -/
theorem runOn_bind_error {x : Attempt ε σ α} {f : α → Attempt ε σ β} {s s' : σ} {e : ε}
    (h : runOn x s = (.error e, s')) : runOn (x >>= f) s = (.error e, s') := by
  rw [runOn_bind, h]

/-- What fails in two parts fails in the first of them, or in the second one behind it. -/
theorem bind_failed {x : Attempt ε σ α} {f : α → Attempt ε σ β} {s s' : σ} {e : ε}
    (h : runOn (x >>= f) s = (.error e, s')) :
    runOn x s = (.error e, s') ∨ ∃ a s₁, runOn x s = (.ok a, s₁) ∧ runOn (f a) s₁ = (.error e, s') := by
  rw [runOn_bind] at h
  rcases hrun : runOn x s with ⟨cause | a, s₁⟩
  · rw [hrun] at h
    cases h
    exact .inl rfl
  · rw [hrun] at h
    exact .inr ⟨a, s₁, rfl, h⟩

/-- What each of two parts leaves as it is, both leave as it is. -/
theorem bind_keeps {ι : Type} (look : σ → ι) {x : Attempt ε σ α} {f : α → Attempt ε σ β}
    (hx : ∀ s, look (runOn x s).2 = look s) (hf : ∀ a s, look (runOn (f a) s).2 = look s) (s : σ) :
    look (runOn (x >>= f) s).2 = look s := by
  have hfirst := hx s
  rw [runOn_bind]
  rcases hrun : runOn x s with ⟨cause | a, s₁⟩
  · rw [hrun] at hfirst
    exact hfirst
  · rw [hrun] at hfirst
    exact (hf a s₁).trans hfirst

theorem runOn_map (f : α → β) (x : Attempt ε σ α) (s : σ) : runOn (f <$> x) s = ((runOn x s).1.map f, (runOn x s).2) := by
  rw [map_eq_pure_bind, runOn_bind]
  rcases runOn x s with ⟨_ | a, s'⟩ <;> rfl

@[simp] theorem runOn_adapt (f : ε → δ) (x : Attempt ε σ α) (s : σ) :
    runOn (ExceptT.adapt f x : Attempt δ σ α) s = ((runOn x s).1.mapError f, (runOn x s).2) := rfl

@[simp] theorem runOn_within (look : σ → τ) (put : τ → σ → σ) (wrap : ε → δ) (x : Attempt ε τ α) (s : σ) :
    runOn (within look put wrap x) s = ((runOn x (look s)).1.mapError wrap, put (runOn x (look s)).2 s) := rfl

/-- A step on a part fails as it does there, and what it has done there is put back. -/
theorem within_failed {look : σ → τ} {put : τ → σ → σ} {wrap : ε → δ} {x : Attempt ε τ α} {s s' : σ} {d : δ}
    (h : runOn (within look put wrap x) s = (.error d, s')) :
    ∃ cause part, runOn x (look s) = (.error cause, part) ∧ d = wrap cause ∧ s' = put part s := by
  rw [runOn_within] at h
  rcases hrun : runOn x (look s) with ⟨cause | a, part⟩
  · rw [hrun] at h
    cases h
    exact ⟨cause, part, rfl, rfl, rfl⟩
  · rw [hrun] at h
    cases h

@[simp] theorem runOn_ofExcept (wrap : ε → δ) (result : Except ε α) (s : σ) :
    runOn (ofExcept wrap result : Attempt δ σ α) s = (result.mapError wrap, s) := rfl

@[simp] theorem runOn_lift (result : Except ε α) (s : σ) :
    runOn (liftM result : Attempt ε σ α) s = (result, s) := rfl

/-! ## Results -/

/-- What goes well in two parts goes well in both. -/
theorem bind_eq_ok {x : Except ε α} {f : α → Except ε β} {b : β} (h : x >>= f = .ok b) :
    ∃ a, x = .ok a ∧ f a = .ok b := by
  cases x with
  | error e => cases h
  | ok a => exact ⟨a, rfl, h⟩

theorem bind_eq_error {x : Except ε α} {f : α → Except ε β} {e : ε} :
    x >>= f = .error e ↔ x = .error e ∨ ∃ a, x = .ok a ∧ f a = .error e := by
  cases x <;> simp [bind, Except.bind]

theorem mapError_eq_ok {f : ε → δ} {x : Except ε α} {a : α} (h : x.mapError f = .ok a) : x = .ok a := by
  cases x with
  | error e => cases h
  | ok b => cases h; rfl

theorem mapError_eq_error {f : ε → δ} {x : Except ε α} {d : δ} :
    x.mapError f = .error d ↔ ∃ e, x = .error e ∧ d = f e := by
  constructor
  · intro h
    cases x with
    | error e => cases h; exact ⟨e, rfl, rfl⟩
    | ok b => cases h
  · rintro ⟨e, rfl, rfl⟩
    rfl

end Attempt
end ImportDispatch
