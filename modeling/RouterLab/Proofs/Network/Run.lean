import Mathlib.Data.Finset.Card
import RouterLab.Proofs.Network.Add
import RouterLab.Proofs.Shell.Run

namespace RouterLab.Network

inductive Call where
  | add (d : Device)
  | connect (a b : String)
  | run (sh : Shell) (name line : String)
  | on (name : String) (c : Device.Call)

def call (net : Network) : Call → Network
  | .add d => (net.add d).2
  | .connect a b => net.connect a b
  | .run sh name line => ((sh.run name line).apply net).2
  | .on name c => ((on name c.op).apply net).2

def after (net : Network) (ks : List Call) : Network :=
  ks.foldl call net

def Call.added? : Call → Option String
  | .add d => some d.name
  | _ => none

def added (ks : List Call) : List String :=
  ks.filterMap Call.added?

def Call.change : Call → Device → Device
  | .run sh name line, d => if name = d.name then d.obey sh line else d
  | .on name c, d => if name = d.name then d.call c else d
  | _, d => d

def changed (ks : List Call) (d : Device) : Device :=
  ks.foldl (fun d k => k.change d) d

variable {net : Network} {k : Call} {ks : List Call} {name : String}

theorem after_append (net : Network) (ks ks' : List Call) :
    net.after (ks ++ ks') = (net.after ks).after ks' :=
  List.foldl_append

theorem after_concat (net : Network) (ks : List Call) (k : Call) :
    net.after (ks ++ [k]) = (net.after ks).call k :=
  List.foldl_concat call net k ks

theorem after_cons (net : Network) (k : Call) (ks : List Call) :
    net.after (k :: ks) = (net.call k).after ks := rfl

theorem added_append (ks ks' : List Call) : added (ks ++ ks') = added ks ++ added ks' :=
  List.filterMap_append

theorem not_mem_added_cons : name ∉ added (k :: ks) ↔ k.added? ≠ some name ∧ name ∉ added ks := by
  cases h : k.added? <;> simp [added, h, eq_comm]

theorem call_run (net : Network) (sh : Shell) (name line : String) :
    net.call (.run sh name line) = net.update name (Device.obey sh line) :=
  sh.state_run name line net

theorem call_on (net : Network) (name : String) (c : Device.Call) :
    net.call (.on name c) = net.update name (·.call c) :=
  Shell.state_on name c.op net

theorem names_call (net : Network) (k : Call) :
    (net.call k).names =
      match k.added? with
      | some name => if name ∈ net.names then net.names else net.names ++ [name]
      | none => net.names := by
  cases k with
  | add d => exact names_add net d
  | connect a b => exact congrArg (·.map (·.name)) (devices_connect net a b)
  | run sh name line =>
    rw [call_run, names_update]
    rfl
  | on name c =>
    rw [call_on, names_update]
    rfl

theorem names_after (ks : List Call) : (({} : Network).after ks).names = (added ks).eraseDups := by
  induction ks using List.reverseRecOn with
  | nil => rfl
  | append_singleton ks k ih =>
    rw [after_concat, names_call, added_append, ih]
    cases hk : k.added? with
    | none => simp [added, hk]
    | some name =>
      have hone : added [k] = [name] := by simp [added, hk]
      rw [hone, Keyed.eraseDups_concat]
      simp only [List.mem_eraseDups]

theorem nodup_names_after (ks : List Call) : (({} : Network).after ks).names.Nodup := by
  rw [names_after]
  exact Keyed.nodup_eraseDups _

theorem device?_update_change {f : Device → Device} (hf : ∀ d, (f d).name = d.name)
    (net : Network) (name other : String) :
    (net.update name f).device? other =
      (net.device? other).map fun d => if name = d.name then f d else d := by
  rw [device?_update hf]
  cases hd : net.device? other with
  | none => simp
  | some d =>
    have hname : d.name = other := name_of_device? hd
    by_cases ho : other = name
    · simp [ho, hname]
    · simp [ho, hname, Ne.symm ho]

theorem device?_call (h : k.added? ≠ some name) :
    (net.call k).device? name = (net.device? name).map k.change := by
  cases k with
  | add d =>
    have hne : name ≠ d.name := fun hn => h (congrArg some hn.symm)
    rw [call, device?_add, if_neg hne]
    exact Option.map_id'.symm
  | connect a b =>
    rw [call, device?, devices_connect, ← device?]
    exact Option.map_id'.symm
  | run sh other line =>
    rw [call_run]
    exact device?_update_change (Device.name_obey sh line) net other name
  | on other c =>
    rw [call_on]
    exact device?_update_change (fun d => (Device.extends_call d c).name) net other name

theorem device?_after (h : name ∉ added ks) :
    (net.after ks).device? name = (net.device? name).map (changed ks) := by
  induction ks generalizing net with
  | nil => exact Option.map_id'.symm
  | cons k ks ih =>
    rw [not_mem_added_cons] at h
    rw [after_cons, ih h.2, device?_call h.1, Option.map_map]
    rfl

theorem exists_last_added (h : name ∈ added ks) :
    ∃ earlier d later, ks = earlier ++ .add d :: later ∧ d.name = name ∧ name ∉ added later := by
  induction ks with
  | nil => cases h
  | cons k ks ih =>
    by_cases hlater : name ∈ added ks
    · obtain ⟨earlier, d, later, rfl, hd, hlast⟩ := ih hlater
      exact ⟨k :: earlier, d, later, rfl, hd, hlast⟩
    · have hk : k.added? = some name := by
        by_contra hne
        exact not_mem_added_cons.mpr ⟨hne, hlater⟩ h
      cases k with
      | add d => exact ⟨[], d, ks, rfl, Option.some.inj hk, hlater⟩
      | _ => cases hk

theorem insertion_ordered (ks : List Call) :
    let net := ({} : Network).after ks
    net.names.Nodup ∧
    net.devices.length = (added ks).toFinset.card ∧
    net.names = (added ks).eraseDups ∧
    (∀ d : Device,
      (net.add d).1 = net.device? d.name ∧
      (net.add d).2.links = net.links ∧
      (net.device? d.name = none ∧ (net.add d).2.devices = net.devices ++ [d] ∨
        ∃ before old later, net.device? d.name = some old ∧
          net.devices = before ++ old :: later ∧
          (net.add d).2.devices = before ++ d :: later)) ∧
    ∀ name,
      name ∉ added ks ∧ net.device? name = none ∨
      ∃ earlier d later, ks = earlier ++ .add d :: later ∧ d.name = name ∧ name ∉ added later ∧
        net.device? name = some (changed later d) := by
  intro net
  have hnames : net.names = (added ks).eraseDups := names_after ks
  have hnodup : net.names.Nodup := nodup_names_after ks
  refine ⟨hnodup, ?_, hnames, fun d => ⟨fst_add net d, links_add net d, ?_⟩, fun name => ?_⟩
  · have hcard : (added ks).toFinset = net.names.toFinset := by
      ext name
      rw [hnames, List.mem_toFinset, List.mem_toFinset, List.mem_eraseDups]
    rw [hcard, List.toFinset_card_of_nodup hnodup, names, List.length_map]
  · cases hd : net.device? d.name with
    | none => exact .inl ⟨rfl, by rw [add_of_none hd]⟩
    | some old =>
      obtain ⟨before, later, hdevices, -, hput⟩ := put_eq hd
      exact .inr ⟨before, old, later, rfl, hdevices, by rw [add_of_some hd, hput d rfl]⟩
  · by_cases hadded : name ∈ added ks
    · obtain ⟨earlier, d, later, hks, hd, hlast⟩ := exists_last_added hadded
      have hnew : ((({} : Network).after earlier).call (.add d)).device? name = some d := by
        rw [call, device?_add, if_pos hd.symm]
      refine .inr ⟨earlier, d, later, hks, hd, hlast, ?_⟩
      change (({} : Network).after ks).device? name = _
      rw [hks, after_append, after_cons, device?_after hlast, hnew, Option.map_some]
    · exact .inl ⟨hadded, device?_after hadded⟩

example :
    let ks := [Call.add (.new "R1" .router), .add (.new "S1" .switch), .on "R1" .toPrivileged,
      .add (.new "R1" .bare), .run {} "R1" "enable", .on "R1" (.rename "Core")]
    (({} : Network).after ks).names = ["R1", "S1"] ∧
      (({} : Network).after ks).device? "R1" =
        some ⟨"R1", "Core", .bare, [], .privileged⟩ := by
  decide

end RouterLab.Network
