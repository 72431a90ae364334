import RouterLab.Op

/-!
Operations that never touch the state, and operations that undo nothing because a failure leaves
the state as it was.
-/

namespace RouterLab.Op

variable {σ ε α β : Type} {x : Op σ ε α} {f : α → Op σ ε β}

def Reads (x : Op σ ε α) : Prop :=
  ∀ s, (x.apply s).2 = s

def Atomic (x : Op σ ε α) : Prop :=
  ∀ s e t, x.apply s = (.error e, t) → t = s

theorem reads_pure (a : α) : Reads (pure a : Op σ ε α) := fun _ => rfl

theorem reads_fail (e : ε) : Reads (fail e : Op σ ε α) := fun _ => rfl

theorem reads_get : Reads (get : Op σ ε σ) := fun _ => rfl

theorem reads_lift (r : Except ε α) : Reads (liftM r : Op σ ε α) := fun _ => rfl

theorem Reads.bind (hx : Reads x) (hf : ∀ a, Reads (f a)) : Reads (x >>= f) := by
  intro s
  have hs := hx s
  rcases h : x.apply s with ⟨r, t⟩
  rw [h] at hs
  cases r with
  | ok a =>
    rw [apply_bind_ok h]
    exact (hf a t).trans hs
  | error e =>
    rw [apply_bind_error h]
    exact hs

theorem Reads.atomic (hx : Reads x) : Atomic x := by
  intro s e t h
  have hs := hx s
  rw [h] at hs
  exact hs

theorem atomic_modify (f : σ → σ) : Atomic (modify f : Op σ ε Unit) := by
  intro s e t h
  rw [apply_modify] at h
  cases h

theorem Reads.atomic_bind (hx : Reads x) (hf : ∀ a, Atomic (f a)) : Atomic (x >>= f) := by
  intro s e t h
  have hs := hx s
  rcases hr : x.apply s with ⟨r, u⟩
  rw [hr] at hs
  cases r with
  | ok a =>
    rw [apply_bind_ok hr] at h
    exact (hf a u e t h).trans hs
  | error e' =>
    rw [apply_bind_error hr] at h
    cases h
    exact hs

theorem Atomic.bind (hx : Atomic x)
    (hf : ∀ s a t, x.apply s = (.ok a, t) → ∃ b, ((f a).apply t).1 = .ok b) :
    Atomic (x >>= f) := by
  intro s e t h
  rcases hr : x.apply s with ⟨r, u⟩
  cases r with
  | ok a =>
    obtain ⟨b, hb⟩ := hf s a u hr
    rw [apply_bind_ok hr] at h
    rw [h] at hb
    cases hb
  | error e' =>
    rw [apply_bind_error hr] at h
    cases h
    exact hx s e t hr

end RouterLab.Op
