import RouterLab.Grammar.Standard

namespace RouterLab

inductive Shortens : List String → List String → Prop
  | nil (vs : List String) : Shortens [] vs
  | cons {w v : String} {ws vs : List String} :
    w ≠ "" → w.toList <+: v.toList → Shortens ws vs → Shortens (w :: ws) (v :: vs)

theorem shortens_of_zip {ws vs : List String} (hlength : ws.length ≤ vs.length)
    (hcut : ∀ p ∈ ws.zip vs, p.1 ≠ "" ∧ p.1.toList <+: p.2.toList) : Shortens ws vs := by
  induction ws generalizing vs with
  | nil => exact .nil vs
  | cons w ws ih =>
    cases vs with
    | nil => cases hlength
    | cons v vs =>
      rw [List.zip_cons_cons, List.forall_mem_cons] at hcut
      exact .cons hcut.1.1 hcut.1.2 (ih (Nat.le_of_succ_le_succ hlength) hcut.2)

theorem Token.accepts_of_prefix {t : Token} {w v : String} (hne : w ≠ "")
    (hpre : w.toList <+: v.toList) (h : t.accepts v = true) : t.accepts w = true := by
  cases t with
  | argument name => rfl
  | keyword text =>
    simp only [accepts, Bool.and_eq_true, bne_iff_ne, List.isPrefixOf_iff_prefix] at h ⊢
    exact ⟨hne, hpre.trans h.2⟩

theorem Path.accepts_of_shortens {ws vs : List String} (hs : Shortens ws vs) {ts : List Token}
    (h : accepts ts vs = true) : accepts ts ws = true := by
  induction hs generalizing ts with
  | nil vs => cases ts <;> rfl
  | cons hne hpre _ ih =>
    cases ts with
    | nil => exact absurd h (by simp [accepts])
    | cons t ts =>
      simp only [accepts, Bool.and_eq_true] at h ⊢
      exact ⟨Token.accepts_of_prefix hne hpre h.1, ih h.2⟩

namespace Grammar

theorem candidates_of_shortens (g : Grammar) (m : Mode) {ws vs : List String}
    (hs : Shortens ws vs) :
    g.candidates m vs = (g.candidates m ws).filter (·.fits vs) := by
  rw [candidates, candidates, List.filter_filter]
  apply List.filter_congr
  intro p _
  cases hv : p.fits vs with
  | false => rfl
  | true =>
    have hw : p.fits ws = true := Path.accepts_of_shortens hs hv
    simp [hw]

theorem resolve_eq_unique_iff {g : Grammar} {m : Mode} {ws : List String} {p : Path} :
    g.resolve m ws = .unique p ↔ g.candidates m ws = [p] := by
  rcases h : g.candidates m ws with _ | ⟨q, _ | ⟨r, ps⟩⟩ <;> simp [resolve, h]

theorem resolve_eq_none_iff {g : Grammar} {m : Mode} {ws : List String} :
    g.resolve m ws = .none ↔ g.candidates m ws = [] := by
  rcases h : g.candidates m ws with _ | ⟨q, _ | ⟨r, ps⟩⟩ <;> simp [resolve, h]

theorem resolve_eq_ambiguous_iff {g : Grammar} {m : Mode} {ws : List String} :
    g.resolve m ws = .ambiguous ↔ 2 ≤ (g.candidates m ws).length := by
  rcases h : g.candidates m ws with _ | ⟨q, _ | ⟨r, ps⟩⟩ <;> simp [resolve, h]

theorem mem_paths_of_resolve {g : Grammar} {m : Mode} {ws : List String} {p : Path}
    (h : g.resolve m ws = .unique p) : p ∈ g.paths m ∧ p.fits ws = true := by
  have hp : p ∈ g.candidates m ws := by simp [resolve_eq_unique_iff.mp h]
  exact List.mem_filter.mp hp

theorem resolve_of_shortens {g : Grammar} {m : Mode} {ws vs : List String} {p : Path}
    (hs : Shortens ws vs) (h : g.resolve m ws = .unique p) (hfits : p.fits vs = true) :
    g.resolve m vs = .unique p := by
  rw [resolve_eq_unique_iff] at h ⊢
  rw [g.candidates_of_shortens m hs, h]
  simp [hfits]

theorem resolve_of_shortens_of_not_fits {g : Grammar} {m : Mode} {ws vs : List String} {p : Path}
    (hs : Shortens ws vs) (h : g.resolve m ws = .unique p) (hfits : p.fits vs = false) :
    g.resolve m vs = .none := by
  rw [resolve_eq_unique_iff] at h
  rw [resolve_eq_none_iff, g.candidates_of_shortens m hs, h]
  simp [hfits]

theorem typing_more_narrows (g : Grammar) (m : Mode) {ws vs : List String}
    (hlength : ws.length ≤ vs.length)
    (hcut : ∀ p ∈ ws.zip vs, p.1 ≠ "" ∧ p.1.toList <+: p.2.toList) :
    (∀ p ∈ g.paths m, p.fits vs = true → p.fits ws = true) ∧
    (g.candidates m vs).Sublist (g.candidates m ws) ∧
    (g.resolve m ws = .none → g.resolve m vs = .none) ∧
    ∀ p, g.resolve m ws = .unique p →
      g.resolve m vs = .unique p ∧ p.fits vs = true ∨
      g.resolve m vs = .none ∧ p.fits vs = false := by
  have hs := shortens_of_zip hlength hcut
  refine ⟨fun p _ hfits => Path.accepts_of_shortens hs hfits, ?_, fun hnone => ?_, fun p hp => ?_⟩
  · rw [g.candidates_of_shortens m hs]
    exact List.filter_sublist
  · rw [resolve_eq_none_iff] at hnone ⊢
    rw [g.candidates_of_shortens m hs, hnone, List.filter_nil]
  · cases hfits : p.fits vs with
    | true => exact .inl ⟨resolve_of_shortens hs hp hfits, rfl⟩
    | false => exact .inr ⟨resolve_of_shortens_of_not_fits hs hp hfits, rfl⟩

theorem typing_more_narrows_ping :
    let p : Path := ⟨[.keyword "ping", .argument "ip"], .ping⟩
    let ws := ["pi", "10."]
    let vs := ["pin", "10.0.0.2"]
    let us := ["ping", "10.0.0.2", "now"]
    ws.length ≤ vs.length ∧ (∀ q ∈ ws.zip vs, q.1 ≠ "" ∧ q.1.toList <+: q.2.toList) ∧
      standard.resolve .privileged ws = .unique p ∧
      standard.resolve .privileged vs = .unique p ∧
      (standard.candidates .privileged vs).Sublist (standard.candidates .privileged ws) ∧
      standard.resolve .privileged us = .none ∧
      standard.resolve .privileged (us ++ ["please"]) = .none := by
  intro p ws vs us
  have hlength : ws.length ≤ vs.length := by decide
  have hcut : ∀ q ∈ ws.zip vs, q.1 ≠ "" ∧ q.1.toList <+: q.2.toList := by decide
  have hp : standard.resolve .privileged ws = .unique p := by decide
  obtain ⟨-, hsublist, -, hunique⟩ := typing_more_narrows standard .privileged hlength hcut
  have hlonger : vs.length ≤ us.length := by decide
  obtain ⟨-, -, -, hlost⟩ := typing_more_narrows standard .privileged hlonger (by decide)
  have hlongest : us.length ≤ (us ++ ["please"]).length := by decide
  obtain ⟨-, -, hnone, -⟩ := typing_more_narrows standard .privileged hlongest (by decide)
  have hv : standard.resolve .privileged vs = .unique p :=
    ((hunique p hp).resolve_right (by decide)).1
  have hu : standard.resolve .privileged us = .none :=
    ((hlost p hv).resolve_left (by decide)).1
  exact ⟨hlength, hcut, hp, hv, hsublist, hu, hnone hu⟩

end Grammar

end RouterLab
