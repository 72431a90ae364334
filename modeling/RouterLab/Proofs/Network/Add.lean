import RouterLab.Proofs.Network.Lookup

namespace RouterLab.Network

variable {net : Network} {d : Device}

theorem add_of_none (h : net.device? d.name = none) :
    net.add d = (none, { net with devices := net.devices ++ [d] }) := by
  simp [add, h]

theorem add_of_some {old : Device} (h : net.device? d.name = some old) :
    net.add d = (some old, net.put d) := by
  simp [add, h]

theorem fst_add (net : Network) (d : Device) : (net.add d).1 = net.device? d.name := by
  cases h : net.device? d.name with
  | none => rw [add_of_none h]
  | some old => rw [add_of_some h]

@[simp] theorem links_add (net : Network) (d : Device) : (net.add d).2.links = net.links := by
  cases h : net.device? d.name with
  | none => rw [add_of_none h]
  | some old => rw [add_of_some h, put]

theorem device?_add (net : Network) (d : Device) (name : String) :
    (net.add d).2.device? name = if name = d.name then some d else net.device? name := by
  cases h : net.device? d.name with
  | none =>
    rw [add_of_none h, device?, List.find?_append, ← device?]
    by_cases hn : name = d.name
    · simp [hn, h]
    · have hd : (d.name == name) = false := by simpa using Ne.symm hn
      simp [hn, hd]
  | some old =>
    rw [add_of_some h, device?_put]
    by_cases hn : name = d.name
    · simp [hn, h]
    · simp [hn]

theorem names_add (net : Network) (d : Device) :
    (net.add d).2.names =
      if d.name ∈ net.names then net.names else net.names ++ [d.name] := by
  cases h : net.device? d.name with
  | none =>
    have hnew : d.name ∉ net.names := by
      rw [← has_iff, has_of_none h]
      exact Bool.false_ne_true
    rw [add_of_none h, if_neg hnew, names, List.map_append, List.map_singleton, ← names]
  | some old => rw [add_of_some h, names_put, if_pos (has_iff.mp (has_of_some h))]

theorem nodup_names_add (h : net.names.Nodup) (d : Device) : (net.add d).2.names.Nodup := by
  rw [names_add]
  split
  · exact h
  · next hd =>
    rw [← List.concat_eq_append]
    exact h.concat hd

theorem mem_devices_add {e : Device} (h : e ∈ (net.add d).2.devices) : e = d ∨ e ∈ net.devices := by
  unfold add at h
  split at h
  · exact mem_place h
  · rcases List.mem_append.mp h with hold | hnew
    · exact .inr hold
    · exact .inl (List.mem_singleton.mp hnew)

theorem devices_add_of_not_mem (h : d.name ∉ net.names) :
    (net.add d).2.devices = net.devices ++ [d] := by
  cases hd : net.device? d.name with
  | none => rw [add_of_none hd]
  | some old => exact absurd (has_iff.mp (has_of_some hd)) h

@[simp] theorem devices_connect (net : Network) (a b : String) :
    (net.connect a b).devices = net.devices := by
  unfold connect
  split <;> rfl

end RouterLab.Network
