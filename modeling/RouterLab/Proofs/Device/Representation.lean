import RouterLab.Proofs.Device.Seeding

namespace RouterLab.Device

open Interface (foldName)

def DistinctNames (is : List Interface) : Prop :=
  is.Pairwise fun i j => foldName i.name ≠ foldName j.name

structure Sound (d : Device) : Prop where
  distinct : DistinctNames d.interfaces
  in_table : ∀ p, d.level.position? = some p → p < d.interfaces.length

/-- A device as a constructor gives it, with the names of the interfaces asked for beyond those
of its kind. -/
inductive Built (name : String) : List String → Device → Prop
  | new (kind : Kind) : Built name [] (.new name kind)
  | withInterfaces (kind : Kind) (extra : List String) :
    Built name extra (.withInterfaces name kind extra)

inductive Reachable : Device → Prop
  | built {name : String} {extra : List String} {d : Device} :
    Built name extra d → Reachable d
  | call {d : Device} (c : Call) : Reachable d → Reachable (d.call c)

theorem distinctNames_concat {is : List Interface} {name : String} (h : DistinctNames is)
    (hnew : ∀ i ∈ is, foldName i.name ≠ foldName name) :
    DistinctNames (is ++ [{ name := name }]) := by
  rw [DistinctNames, List.pairwise_append]
  refine ⟨h, List.pairwise_singleton _ _, ?_⟩
  intro i hi j hj
  rw [List.mem_singleton.mp hj]
  exact hnew i hi

theorem distinctNames_of_map {is js : List Interface} (h : DistinctNames is)
    (hnames : js.map (·.name) = is.map (·.name)) : DistinctNames js := by
  have hmap (ks : List Interface) :
      DistinctNames ks ↔ (ks.map (·.name)).Pairwise fun s t => foldName s ≠ foldName t := by
    rw [DistinctNames, List.pairwise_map]
  rw [hmap, hnames, ← hmap]
  exact h

theorem map_name_modify {f : Interface → Interface} (hf : ∀ i, (f i).name = i.name)
    (is : List Interface) (p : Nat) : (is.modify p f).map (·.name) = is.map (·.name) := by
  apply List.ext_getElem?
  intro q
  rw [List.getElem?_map, List.getElem?_map, List.getElem?_modify]
  by_cases hq : p = q
  · cases h : is[q]? <;> simp [hq, hf]
  · simp [hq]

theorem Sound.of_level {d : Device} (h : Sound d) {l : Level} (hl : l.position? = none) :
    Sound { d with level := l } :=
  ⟨h.distinct, fun p hp => by rw [hl] at hp; cases hp⟩

theorem sound_withInterfaces (name : String) (kind : Kind) (extra : List String) :
    Sound (.withInterfaces name kind extra) := by
  refine ⟨List.pairwise_map.mp (nodup_withInterfaces name kind extra), fun p hp => ?_⟩
  rw [level_withInterfaces] at hp
  cases hp

theorem Built.eq_withInterfaces {name : String} {extra : List String} {d : Device}
    (h : Built name extra d) : ∃ kind, d = .withInterfaces name kind extra := by
  cases h with
  | new kind => exact ⟨kind, rfl⟩
  | withInterfaces kind => exact ⟨kind, rfl⟩

theorem Built.sound {name : String} {extra : List String} {d : Device}
    (h : Built name extra d) : Sound d := by
  obtain ⟨kind, rfl⟩ := h.eq_withInterfaces
  exact sound_withInterfaces name kind extra

theorem Sound.configure {d : Device} (h : Sound d) (name : String) :
    Sound (d.configure name) := by
  cases hp : d.position? name with
  | some i =>
    rw [configure_of_some hp]
    refine ⟨h.distinct, ?_⟩
    intro p hl
    cases hl
    exact position?_lt hp
  | none =>
    rw [configure_of_none hp]
    refine ⟨distinctNames_concat h.distinct (position?_eq_none_iff.mp hp), ?_⟩
    intro p hl
    cases hl
    simp

theorem Sound.select {d : Device} (h : Sound d) (name : String) : Sound (d.select name) := by
  cases hp : d.position? name with
  | some i =>
    simp only [Device.select, hp]
    refine ⟨h.distinct, ?_⟩
    intro p hl
    cases hl
    exact position?_lt hp
  | none => simpa only [Device.select, hp] using h

theorem Sound.onActive {d : Device} (h : Sound d) {f : Interface → Interface}
    (hf : ∀ i, (f i).name = i.name) : Sound (d.onActive f) := by
  cases hp : d.level.position? with
  | none => simpa only [Device.onActive, hp] using h
  | some p =>
    simp only [Device.onActive, hp]
    refine ⟨distinctNames_of_map h.distinct (map_name_modify hf _ p), ?_⟩
    intro q hq
    rw [List.length_modify]
    exact h.in_table q hq

theorem Sound.call {d : Device} (h : Sound d) (c : Call) : Sound (d.call c) := by
  cases c with
  | toUser => exact h.of_level rfl
  | toPrivileged => exact h.of_level rfl
  | toGlobalConfig => exact h.of_level rfl
  | leave =>
    refine h.of_level ?_
    cases d.level <;> rfl
  | configure name => exact h.configure name
  | configureExisting name =>
    rw [call_configureExisting]
    exact h.select name
  | rename hostname => exact ⟨h.distinct, h.in_table⟩
  | assign | unassign | setUp =>
    rw [call_of_edits (by trivial)]
    exact h.onActive (Call.name_edit _)

theorem Reachable.sound {d : Device} (h : Reachable d) : Sound d := by
  induction h with
  | built hb => exact hb.sound
  | call c _ ih => exact ih.call c

theorem mode_eq_interfaceConfig_iff {d : Device} :
    d.mode = .interfaceConfig ↔ ∃ p, d.level.position? = some p := by
  cases h : d.level <;> simp [mode, Level.mode, Level.position?, h]

theorem level_of_interfaceConfig {d : Device} (h : d.mode = .interfaceConfig) :
    ∃ p, d.level = .interfaceConfig p := by
  cases hl : d.level with
  | interfaceConfig p => exact ⟨p, rfl⟩
  | _ => simp [mode, hl, Level.mode] at h

theorem Sound.isSome_active?_iff {d : Device} (h : Sound d) :
    d.active?.isSome = true ↔ d.mode = .interfaceConfig := by
  rw [mode_eq_interfaceConfig_iff]
  constructor
  · intro ha
    obtain ⟨i, hi⟩ := Option.isSome_iff_exists.mp ha
    obtain ⟨p, hp, _⟩ := Option.bind_eq_some_iff.mp hi
    exact ⟨p, hp⟩
  · rintro ⟨p, hp⟩
    simp [active?, hp, h.in_table p hp]

theorem Sound.outcome_modifyActive {d : Device} (h : Sound d) (f : Interface → Interface) :
    ((modifyActive f).apply d).1 =
      if d.mode = .interfaceConfig then .ok () else .error .noActiveInterface := by
  simp only [apply_modifyActive, h.isSome_active?_iff]

/-- What a step leaves alone: who the device is, the names it has, and every interface that is
not under configuration. -/
structure Extends (d e : Device) : Prop where
  name : e.name = d.name
  kind : e.kind = d.kind
  names : d.interfaces.map (·.name) <+: e.interfaces.map (·.name)
  others : ∀ p i, d.interfaces[p]? = some i → d.level.position? ≠ some p →
    e.interfaces[p]? = some i

theorem extends_of_interfaces {d e : Device} (hname : e.name = d.name) (hkind : e.kind = d.kind)
    {is : List Interface} (h : e.interfaces = d.interfaces ++ is) : Extends d e := by
  refine ⟨hname, hkind, ?_, ?_⟩
  · rw [h, List.map_append]
    exact List.prefix_append _ _
  · intro p i hp _
    obtain ⟨hlt, _⟩ := List.getElem?_eq_some_iff.mp hp
    rw [h, List.getElem?_append_left hlt, hp]

theorem extends_refl (d : Device) : Extends d d :=
  extends_of_interfaces rfl rfl (List.append_nil _).symm

theorem extends_configure (d : Device) (name : String) : Extends d (d.configure name) := by
  cases hp : d.position? name with
  | some i =>
    rw [configure_of_some hp]
    exact extends_of_interfaces rfl rfl (List.append_nil _).symm
  | none =>
    rw [configure_of_none hp]
    exact extends_of_interfaces rfl rfl rfl

theorem extends_select (d : Device) (name : String) : Extends d (d.select name) := by
  cases hp : d.position? name with
  | some i =>
    simp only [select, hp]
    exact extends_of_interfaces rfl rfl (List.append_nil _).symm
  | none =>
    simp only [select, hp]
    exact extends_refl d

theorem extends_onActive (d : Device) {f : Interface → Interface}
    (hf : ∀ i, (f i).name = i.name) : Extends d (d.onActive f) := by
  cases hl : d.level.position? with
  | none =>
    simp only [onActive, hl]
    exact extends_refl d
  | some q =>
    simp only [onActive, hl]
    refine ⟨rfl, rfl, ?_, ?_⟩
    · simp only [map_name_modify hf, List.prefix_rfl]
    · intro p i hp hne
      have hqp : q ≠ p := fun hqp => hne (hqp ▸ hl)
      simp [hqp, hp]

theorem extends_call (d : Device) (c : Call) : Extends d (d.call c) := by
  cases c with
  | configure name => exact extends_configure d name
  | configureExisting name =>
    rw [call_configureExisting]
    exact extends_select d name
  | assign | unassign | setUp =>
    rw [call_of_edits (by trivial)]
    exact extends_onActive d (Call.name_edit _)
  | _ => exact extends_of_interfaces rfl rfl (List.append_nil _).symm

theorem reachable_consistent {d : Device} (h : Reachable d) :
    (d.interfaces.Pairwise fun i j => foldName i.name ≠ foldName j.name) ∧
    (d.active?.isSome = true ↔ d.mode = .interfaceConfig) ∧
    (∀ address, ((assign address).apply d).1 =
      if d.mode = .interfaceConfig then .ok () else .error .noActiveInterface) ∧
    ((unassign.apply d).1 =
      if d.mode = .interfaceConfig then .ok () else .error .noActiveInterface) ∧
    (∀ up, ((setUp up).apply d).1 =
      if d.mode = .interfaceConfig then .ok () else .error .noActiveInterface) ∧
    ∀ c : Call,
      (d.call c).name = d.name ∧ (d.call c).kind = d.kind ∧
      d.interfaces.map (·.name) <+: (d.call c).interfaces.map (·.name) ∧
      ∀ p i, d.interfaces[p]? = some i → d.level.position? ≠ some p →
        (d.call c).interfaces[p]? = some i := by
  have hs := h.sound
  refine ⟨hs.distinct, hs.isSome_active?_iff, fun _ => hs.outcome_modifyActive _,
    hs.outcome_modifyActive _, fun _ => hs.outcome_modifyActive _, ?_⟩
  intro c
  have he := extends_call d c
  exact ⟨he.name, he.kind, he.names, he.others⟩

theorem reachable_consistent_second_interface :
    let d := (withInterfaces "R1" .router ["Gig0/1", "GIG0/0"]).call (.configure "GIG0/1")
    Reachable d ∧ d.interfaces[0]? = some { name := "Gig0/0" } ∧
    d.level.position? ≠ some 0 ∧ ((assign "10.0.0.1").apply d).1 = .ok () ∧
    (d.call (.assign "10.0.0.1")).interfaces[0]? = some { name := "Gig0/0" } := by
  have h : Reachable
      ((withInterfaces "R1" .router ["Gig0/1", "GIG0/0"]).call (.configure "GIG0/1")) :=
    .call _ (.built (.withInterfaces .router _))
  obtain ⟨_, _, hassign, _, _, hstep⟩ := reachable_consistent h
  exact ⟨h, by decide, by decide, hassign "10.0.0.1",
    (hstep (.assign "10.0.0.1")).2.2.2 0 _ (by decide) (by decide)⟩

end RouterLab.Device
