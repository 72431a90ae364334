import RouterLab.Proofs.Device.Snapshot
import RouterLab.Proofs.Lab.Build

namespace RouterLab.Network

inductive Reachable : Network → Prop
  | empty : Reachable {}
  | add {net : Network} {d : Device} : d.InUse → Reachable net → Reachable (net.add d).2
  | connect {net : Network} (a b : String) : Reachable net → Reachable (net.connect a b)
  | call {net : Network} (name : String) (c : Device.Call) :
    Reachable net → Reachable (net.update name (·.call c))
  | line {net : Network} (sh : Shell) (name line : String) :
    Reachable net → Reachable (sh.step net (name, line))

namespace Reachable

variable {net : Network}

theorem nodup_names (h : Reachable net) : net.names.Nodup := by
  induction h with
  | empty => exact .nil
  | add _ _ ih => exact nodup_names_add ih _
  | connect a b _ ih => rwa [names, devices_connect]
  | call name c _ ih => rwa [names_update]
  | line sh name line _ ih => rwa [Shell.names_step]

theorem sound (h : Reachable net) : ∀ d ∈ net.devices, d.Sound := by
  induction h with
  | empty => exact nofun
  | add hd _ ih =>
    intro e he
    rcases mem_devices_add he with rfl | hold
    · exact hd.sound
    · exact ih e hold
  | connect a b _ ih => rwa [devices_connect]
  | call name c _ ih => exact forall_update ih fun d hd => hd.call c
  | line sh name line _ ih =>
    rw [Shell.step, Shell.state_run]
    exact forall_update ih fun d hd => hd.obey sh line

end Reachable

end RouterLab.Network
