/-!
Operations that may fail.  Unlike a function that gives a new state or an error, an operation
leaves a state behind in either case, so that what a failure does to the state can be asked.
-/

namespace RouterLab

structure Op (σ ε α : Type) where
  apply : σ → Except ε α × σ

namespace Op

variable {σ ε α β : Type}

def andThen (x : Op σ ε α) (f : α → Op σ ε β) : Op σ ε β :=
  ⟨fun s =>
    match x.apply s with
    | (.ok a, s) => (f a).apply s
    | (.error e, s) => (.error e, s)⟩

instance : Monad (Op σ ε) where
  pure a := ⟨fun s => (.ok a, s)⟩
  bind := andThen

instance : MonadStateOf σ (Op σ ε) where
  get := ⟨fun s => (.ok s, s)⟩
  set s := ⟨fun _ => (.ok (), s)⟩
  modifyGet f := ⟨fun s => (.ok (f s).1, (f s).2)⟩

instance : MonadLift (Except ε) (Op σ ε) where
  monadLift r := ⟨fun s => (r, s)⟩

def fail (e : ε) : Op σ ε α :=
  ⟨fun s => (.error e, s)⟩

@[simp] theorem apply_pure (a : α) (s : σ) : (pure a : Op σ ε α).apply s = (.ok a, s) := rfl

@[simp] theorem apply_fail (e : ε) (s : σ) : (fail e : Op σ ε α).apply s = (.error e, s) := rfl

@[simp] theorem apply_get (s : σ) : (get : Op σ ε σ).apply s = (.ok s, s) := rfl

@[simp] theorem apply_set (s t : σ) : (set t : Op σ ε Unit).apply s = (.ok (), t) := rfl

@[simp] theorem apply_modify (f : σ → σ) (s : σ) :
    (modify f : Op σ ε Unit).apply s = (.ok (), f s) := rfl

@[simp] theorem apply_lift (r : Except ε α) (s : σ) :
    (liftM r : Op σ ε α).apply s = (r, s) := rfl

theorem apply_bind (x : Op σ ε α) (f : α → Op σ ε β) (s : σ) :
    (x >>= f).apply s =
      match x.apply s with
      | (.ok a, s) => (f a).apply s
      | (.error e, s) => (.error e, s) := rfl

theorem apply_bind_ok {x : Op σ ε α} {s t : σ} {a : α} (h : x.apply s = (.ok a, t))
    (f : α → Op σ ε β) : (x >>= f).apply s = (f a).apply t := by
  rw [apply_bind, h]

theorem apply_bind_error {x : Op σ ε α} {s t : σ} {e : ε} (h : x.apply s = (.error e, t))
    (f : α → Op σ ε β) : (x >>= f).apply s = (.error e, t) := by
  rw [apply_bind, h]

end Op

end RouterLab
