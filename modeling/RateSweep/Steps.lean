namespace RateSweep

theorem ok_bind {ε α β : Type} {a : α} {f : α → Except ε β} :
    (Except.ok a >>= f : Except ε β) = f a := rfl

theorem bind_eq_ok_iff {ε α β : Type} {x : Except ε α} {f : α → Except ε β} {b : β} :
    (x >>= f) = .ok b ↔ ∃ a, x = .ok a ∧ f a = .ok b := by
  cases x with
  | error e =>
    constructor
    · intro h
      cases h
    · rintro ⟨a, ha, -⟩
      cases ha
  | ok a =>
    constructor
    · intro h
      exact ⟨a, rfl, h⟩
    · rintro ⟨a', ha, h⟩
      obtain rfl := Except.ok.inj ha
      exact h

theorem exists_of_map_eq_ok {ε α β : Type} {x : Except ε α} {f : α → β} {b : β}
    (h : x.map f = .ok b) : ∃ a, x = .ok a ∧ f a = b := by
  cases x with
  | error e => cases h
  | ok a => exact ⟨a, rfl, Except.ok.inj h⟩

theorem bind_eq_error_iff {ε α β : Type} {x : Except ε α} {f : α → Except ε β} {e : ε} :
    (x >>= f) = .error e ↔ x = .error e ∨ ∃ a, x = .ok a ∧ f a = .error e := by
  cases x with
  | error e' =>
    constructor
    · intro h
      obtain rfl := Except.error.inj h
      exact .inl rfl
    · rintro (h | ⟨a, ha, -⟩)
      · obtain rfl := Except.error.inj h
        rfl
      · cases ha
  | ok a =>
    constructor
    · intro h
      exact .inr ⟨a, rfl, h⟩
    · rintro (h | ⟨a', ha, h⟩)
      · cases h
      · obtain rfl := Except.ok.inj ha
        exact h

abbrev Steps (σ ε : Type) := ExceptT ε (StateM σ)

namespace Steps

variable {σ ε α β : Type}

def runOn (x : Steps σ ε α) (s : σ) : Except ε α × σ := Id.run (StateT.run (ExceptT.run x) s)

@[simp]
theorem runOn_pure (a : α) (s : σ) : runOn (pure a : Steps σ ε α) s = (.ok a, s) := rfl

theorem runOn_bind (x : Steps σ ε α) (f : α → Steps σ ε β) (s : σ) :
    runOn (x >>= f) s =
      match runOn x s with
      | (.ok a, s) => runOn (f a) s
      | (.error e, s) => (.error e, s) := by
  unfold runOn ExceptT.run StateT.run Id.run
  simp only [bind, ExceptT.bind, ExceptT.mk, StateT.bind, ExceptT.bindCont]
  rcases x s with ⟨_ | _, t⟩ <;> rfl

theorem runOn_bind_of_ok {x : Steps σ ε α} {f : α → Steps σ ε β} {s t : σ} {a : α}
    (h : runOn x s = (.ok a, t)) : runOn (x >>= f) s = runOn (f a) t := by
  rw [runOn_bind, h]

theorem runOn_bind_of_error {x : Steps σ ε α} {f : α → Steps σ ε β} {s t : σ} {e : ε}
    (h : runOn x s = (.error e, t)) : runOn (x >>= f) s = (.error e, t) := by
  rw [runOn_bind, h]

@[simp]
theorem runOn_get (s : σ) : runOn (get : Steps σ ε σ) s = (.ok s, s) := rfl

@[simp]
theorem runOn_modify (f : σ → σ) (s : σ) : runOn (modify f : Steps σ ε PUnit) s = (.ok ⟨⟩, f s) := rfl

@[simp]
theorem runOn_lift (x : Except ε α) (s : σ) : runOn (liftM x : Steps σ ε α) s = (x, s) := rfl

end Steps

end RateSweep
