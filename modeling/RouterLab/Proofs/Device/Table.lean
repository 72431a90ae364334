import RouterLab.Proofs.Device.Seeding

namespace RouterLab.Device

def Call.newHostname : Call → String → String
  | .rename hostname, _ => hostname
  | _, hostname => hostname

theorem hostname_onActive (d : Device) (f : Interface → Interface) :
    (d.onActive f).hostname = d.hostname := by
  unfold onActive
  split <;> rfl

theorem hostname_call (d : Device) (c : Call) : (d.call c).hostname = c.newHostname d.hostname := by
  cases c with
  | toUser | toPrivileged | toGlobalConfig | leave | rename => rfl
  | configure name =>
    change (d.configure name).hostname = d.hostname
    cases hp : d.position? name with
    | some p => rw [configure_of_some hp]
    | none => rw [configure_of_none hp]
  | configureExisting name =>
    rw [call_configureExisting, select]
    split <;> rfl
  | assign | unassign | setUp =>
    rw [call_of_edits (by trivial)]
    exact hostname_onActive d _

variable {P : Interface → Prop} {d : Device}

theorem forall_concat (h : ∀ i ∈ d.interfaces, P i) {i : Interface} (hi : P i) :
    ∀ j ∈ d.interfaces ++ [i], P j := by
  intro j hj
  rcases List.mem_append.mp hj with hold | hnew
  · exact h j hold
  · exact List.mem_singleton.mp hnew ▸ hi

theorem forall_withInterfaces {kind : Kind} (hkind : ∀ n ∈ kind.interfaceNames, P { name := n })
    {extra : List String} (hextra : ∀ n ∈ extra, P { name := n }) (name : String) :
    ∀ i ∈ (withInterfaces name kind extra).interfaces, P i := by
  intro i hi
  obtain ⟨n, hn, rfl⟩ := mem_withInterfaces hi
  rcases List.mem_append.mp hn with hdefault | hasked
  · exact hkind n hdefault
  · exact hextra n hasked

theorem forall_onActive (h : ∀ i ∈ d.interfaces, P i) {f : Interface → Interface}
    (hf : ∀ i, P i → P (f i)) : ∀ i ∈ (d.onActive f).interfaces, P i := by
  cases hp : d.level.position? with
  | none => simpa only [onActive, hp] using h
  | some p =>
    simp only [onActive, hp]
    intro i hi
    obtain ⟨q, hq⟩ := List.getElem?_of_mem hi
    rw [List.getElem?_modify] at hq
    obtain ⟨j, hj, rfl⟩ := Option.map_eq_some_iff.mp hq
    have hold : P j := h j (List.mem_of_getElem? hj)
    by_cases hpq : p = q
    · simpa [hpq] using hf j hold
    · simpa [hpq] using hold

theorem forall_call (h : ∀ i ∈ d.interfaces, P i) {c : Call}
    (hnew : ∀ name, c = .configure name → P { name := name }) (hedit : ∀ i, P i → P (c.edit i)) :
    ∀ i ∈ (d.call c).interfaces, P i := by
  cases c with
  | toUser | toPrivileged | toGlobalConfig | leave | rename => exact h
  | configure name =>
    cases hp : d.position? name with
    | some p =>
      rw [call, Call.op, Op.apply_modify, configure_of_some hp]
      exact h
    | none =>
      rw [call, Call.op, Op.apply_modify, configure_of_none hp]
      exact forall_concat h (hnew name rfl)
  | configureExisting name =>
    rw [call_configureExisting]
    cases hp : d.position? name with
    | some p => simpa only [select, hp] using h
    | none => simpa only [select, hp] using h
  | assign | unassign | setUp =>
    rw [call_of_edits (by trivial)]
    exact forall_onActive h hedit

end RouterLab.Device
