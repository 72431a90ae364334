import RouterLab.Lab.Basic
import RouterLab.Proofs.Network.Links

namespace RouterLab

namespace Lab

def calls (lab : Lab) : List Network.Call :=
  lab.nodes.map (.add ·.build) ++ lab.links.map fun l => .connect l.1 l.2

theorem build_eq_after (lab : Lab) : lab.build = ({} : Network).after lab.calls := by
  rw [calls, Network.after_append, Network.after, Network.after, List.foldl_map, List.foldl_map]
  rfl

theorem added_calls (lab : Lab) : Network.added lab.calls = lab.nodeNames := by
  have hname (n : Node) : n.build.name = n.name :=
    Device.name_withInterfaces n.name n.kind n.interfaces
  simp [calls, Network.added, Network.Call.added?, nodeNames, List.filterMap_map,
    Function.comp_def, hname]

theorem asked_calls (lab : Lab) : Network.asked lab.calls = lab.links.map fun l => ⟨l.1, l.2⟩ := by
  simp [calls, Network.asked, Network.Call.asked?, List.filterMap_map, Function.comp_def]

theorem names_build (lab : Lab) : lab.build.names = lab.nodeNames.eraseDups := by
  rw [build_eq_after, Network.names_after, added_calls]

theorem links_build (lab : Lab) :
    lab.build.links = Link.firsts (lab.links.map fun l => ⟨l.1, l.2⟩) := by
  rw [build_eq_after, Network.links_after, asked_calls]

theorem nodup_names_build (lab : Lab) : lab.build.names.Nodup := by
  rw [build_eq_after]
  exact Network.nodup_names_after lab.calls

theorem mem_names_build {lab : Lab} {name : String} :
    name ∈ lab.build.names ↔ name ∈ lab.nodeNames := by
  rw [names_build, List.mem_eraseDups]

theorem mem_links_build {lab : Lab} {l : Link} (h : l ∈ lab.build.links) :
    (l.a, l.b) ∈ lab.links := by
  rw [links_build, Link.firsts_eq] at h
  obtain ⟨p, hp, rfl⟩ := List.mem_map.mp (Keyed.mem_of_mem_firsts Link.ends h)
  exact hp

theorem devices_foldl_connect (links : List (String × String)) (net : Network) :
    (links.foldl (fun net l => net.connect l.1 l.2) net).devices = net.devices := by
  induction links generalizing net with
  | nil => rfl
  | cons l links ih => rw [List.foldl_cons, ih, Network.devices_connect]

theorem mem_devices_foldl_add {nodes : List Node} {net : Network} {d : Device}
    (h : d ∈ (nodes.foldl (fun net n => (net.add n.build).2) net).devices) :
    d ∈ net.devices ∨ ∃ n ∈ nodes, d = n.build := by
  induction nodes generalizing net with
  | nil => exact .inl h
  | cons n nodes ih =>
    rcases ih h with hadd | ⟨m, hm, rfl⟩
    · rcases Network.mem_devices_add hadd with rfl | hold
      · exact .inr ⟨n, List.mem_cons_self, rfl⟩
      · exact .inl hold
    · exact .inr ⟨m, List.mem_cons_of_mem n hm, rfl⟩

theorem mem_devices_build {lab : Lab} {d : Device} (h : d ∈ lab.build.devices) :
    ∃ n ∈ lab.nodes, d = n.build := by
  rw [build, devices_foldl_connect] at h
  rcases mem_devices_foldl_add h with hnone | hnode
  · cases hnone
  · exact hnode

/-- The networks that lines of the laboratory's commands make of the one that is built.  Each line
may be run strictly or not. -/
inductive Reaches (lab : Lab) : Network → Prop
  | built : lab.Reaches lab.build
  | line {net : Network} {sh : Shell} (device line : String) : sh.grammar = .standard →
    lab.Reaches net → lab.Reaches (sh.step net (device, line))

namespace Reaches

variable {lab : Lab} {net : Network}

theorem after {sh : Shell} (hsh : sh.grammar = .standard) (h : lab.Reaches net)
    (steps : List (String × String)) : lab.Reaches (sh.after steps net) := by
  induction steps generalizing net with
  | nil => exact h
  | cons s steps ih =>
    rw [Shell.after_cons]
    exact ih (.line s.1 s.2 hsh h)

theorem forall_devices {P : Device → Prop} (hbuild : ∀ n : Node, P n.build)
    (hobey : ∀ (sh : Shell) line d, sh.grammar = .standard → P d → P (d.obey sh line))
    (h : lab.Reaches net) : ∀ d ∈ net.devices, P d := by
  induction h with
  | built =>
    intro d hd
    obtain ⟨n, -, rfl⟩ := mem_devices_build hd
    exact hbuild n
  | line device line hsh _ ih =>
    rw [Shell.step, Shell.state_run]
    exact Network.forall_update ih fun d => hobey _ line d hsh

end Reaches

end Lab

end RouterLab
