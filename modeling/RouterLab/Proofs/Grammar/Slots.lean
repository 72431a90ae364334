import RouterLab.Proofs.Grammar.Completion

namespace RouterLab.Path

def arity (p : Path) : Nat :=
  p.tokens.countP (·.keyword?.isNone)

def SlotAt (ts : List Token) (i : Nat) : Prop :=
  ∃ name, ts[i]? = some (Token.argument name)

def Lacks (p : Path) (ws : List String) : Prop :=
  ∃ i, SlotAt p.tokens i ∧ ws.length ≤ i

def Fills (p : Path) (ws : List String) (w : String) : Prop :=
  ∃ i, SlotAt p.tokens i ∧ ws[i]? = some w

@[simp] theorem not_slotAt_nil (i : Nat) : ¬SlotAt [] i := by
  simp [SlotAt]

@[simp] theorem slotAt_keyword_zero (text : String) (ts : List Token) :
    ¬SlotAt (.keyword text :: ts) 0 := by
  simp [SlotAt]

@[simp] theorem slotAt_argument_zero (name : String) (ts : List Token) :
    SlotAt (.argument name :: ts) 0 :=
  ⟨name, rfl⟩

theorem exists_slotAt_cons (t : Token) (ts : List Token) (P : Nat → Prop) :
    (∃ i, SlotAt (t :: ts) i ∧ P i) ↔
      (SlotAt (t :: ts) 0 ∧ P 0) ∨ ∃ i, SlotAt ts i ∧ P (i + 1) := by
  rw [← Nat.or_exists_add_one]
  simp only [SlotAt, List.getElem?_cons_succ]

theorem slots_error_iff (ts : List Token) (ws : List String) :
    (∃ e, slots ts ws = .error e) ↔ ∃ i, SlotAt ts i ∧ ws.length ≤ i := by
  fun_induction slots ts ws with
  | case1 ws => simp
  | case2 text ts ws ih =>
    rw [ih, exists_slotAt_cons]
    simp
  | case3 name ts => exact iff_of_true ⟨_, rfl⟩ ⟨0, slotAt_argument_zero name ts, Nat.le_refl 0⟩
  | case4 name ts w ws ih =>
    have hmap : (∃ e, (slots ts ws).map (w :: ·) = .error e) ↔ ∃ e, slots ts ws = .error e := by
      cases slots ts ws <;> simp [Except.map]
    rw [hmap, ih, exists_slotAt_cons]
    simp

theorem slots_cons_ok {ts : List Token} {v : String} {ws args : List String}
    (h : (slots ts ws).map (v :: ·) = .ok args) :
    ∃ rest, slots ts ws = .ok rest ∧ args = v :: rest := by
  cases hs : slots ts ws with
  | ok rest =>
    rw [hs] at h
    exact ⟨rest, rfl, (Except.ok.inj h).symm⟩
  | error e =>
    rw [hs] at h
    cases h

theorem mem_of_slots {ts : List Token} {ws args : List String} (h : slots ts ws = .ok args)
    (w : String) : w ∈ args ↔ ∃ i, SlotAt ts i ∧ ws[i]? = some w := by
  fun_induction slots ts ws generalizing args with
  | case1 ws =>
    cases h
    simp
  | case2 text ts ws ih =>
    rw [ih h, exists_slotAt_cons]
    simp
  | case3 name ts => cases h
  | case4 name ts v ws ih =>
    obtain ⟨rest, hrest, rfl⟩ := slots_cons_ok h
    rw [exists_slotAt_cons, List.mem_cons, ih hrest]
    simp [eq_comm]

theorem length_of_slots {ts : List Token} {ws args : List String} (h : slots ts ws = .ok args) :
    args.length = ts.countP (·.keyword?.isNone) := by
  fun_induction slots ts ws generalizing args with
  | case1 ws =>
    cases h
    rfl
  | case2 text ts ws ih => simp [ih h, Token.keyword?]
  | case3 name ts => cases h
  | case4 name ts v ws ih =>
    obtain ⟨rest, hrest, rfl⟩ := slots_cons_ok h
    simp [ih hrest, Token.keyword?]

theorem lacks_iff {p : Path} {ws : List String} :
    p.Lacks ws ↔ ∃ e, p.arguments ws = .error e :=
  (slots_error_iff p.tokens ws).symm

end RouterLab.Path
