import RouterLab.Proofs.Device.Call
import RouterLab.Proofs.Network.Lookup
import RouterLab.Shell

namespace RouterLab

open Op

namespace Device

theorem atomic_modifyActive (f : Interface → Interface) : Atomic (modifyActive f) := by
  intro d e d' h
  rw [apply_modifyActive] at h
  cases ha : d.active? with
  | none =>
    rw [onActive_of_none ha] at h
    exact (congrArg Prod.snd h).symm
  | some i => simp [ha] at h

theorem reads_activeName : Reads activeName := by
  intro d
  rw [apply_activeName]

theorem active?_configure (d : Device) (name : String) :
    (d.configure name).active?.isSome = true := by
  cases hp : d.position? name with
  | some i =>
    rw [configure_of_some hp]
    simp [active?, Level.position?, position?_lt hp]
  | none =>
    rw [configure_of_none hp]
    simp [active?, Level.position?]

theorem active?_select {d : Device} {name : String} (h : (d.position? name).isSome = true) :
    (d.select name).active?.isSome = true := by
  obtain ⟨i, hp⟩ := Option.isSome_iff_exists.mp h
  simp [select, hp, active?, Level.position?, position?_lt hp]

theorem activeName_ok {d : Device} (h : d.active?.isSome = true) :
    ∃ name, (activeName.apply d).1 = .ok name := by
  obtain ⟨i, hi⟩ := Option.isSome_iff_exists.mp h
  exact ⟨i.name, by rw [apply_activeName, hi]⟩

theorem atomic_then_activeName {x : Op Unit} (hx : Atomic x)
    (hactive : ∀ d d', x.apply d = (.ok (), d') → d'.active?.isSome = true)
    (answer : String → String) :
    Atomic (x >>= fun _ => activeName >>= fun name => pure (answer name)) := by
  refine hx.bind ?_
  intro d _ d' hd
  obtain ⟨name, hname⟩ := activeName_ok (hactive d d' hd)
  refine ⟨answer name, ?_⟩
  rw [apply_bind_ok (Prod.ext hname rfl), apply_pure]

theorem active?_of_modifyActive {f : Interface → Interface} {d d' : Device}
    (h : (modifyActive f).apply d = (.ok (), d')) : d'.active?.isSome = true := by
  rw [apply_modifyActive] at h
  cases ha : d.active? with
  | none => simp [ha] at h
  | some i =>
    have hd : d.onActive f = d' := congrArg Prod.snd h
    rw [← hd, active?_onActive, ha]
    rfl

end Device

namespace Shell

variable (sh : Shell) (args : List String)

theorem atomic_modify_answer (f : Device → Device) (answer : String) :
    Atomic (do modify f; return answer : Device.Op String) :=
  (atomic_modify f).bind fun _ _ _ _ => ⟨answer, rfl⟩

theorem enterInterface_of_lenient {sh : Shell} (h : sh.strict = false) (name : String) :
    sh.enterInterface name = modify (·.configure name) := by
  simp [enterInterface, h]

theorem enterInterface_of_strict {sh : Shell} (h : sh.strict = true) (name : String) :
    sh.enterInterface name = Device.configureExisting name := by
  simp [enterInterface, h]

theorem atomic_enterInterface (name : String) : Atomic (sh.enterInterface name) := by
  cases hs : sh.strict with
  | false =>
    rw [enterInterface_of_lenient hs]
    exact atomic_modify _
  | true =>
    rw [enterInterface_of_strict hs]
    intro d e d' h
    rw [Device.apply_configureExisting] at h
    cases hp : d.position? name with
    | none =>
      have hd : d.select name = d' := congrArg Prod.snd h
      rw [← hd, Device.select, hp]
    | some i => simp [hp] at h

theorem active?_enterInterface {name : String} {d d' : Device}
    (h : (sh.enterInterface name).apply d = (.ok (), d')) : d'.active?.isSome = true := by
  cases hs : sh.strict with
  | false =>
    rw [enterInterface_of_lenient hs] at h
    have hd : d.configure name = d' := congrArg Prod.snd h
    rw [← hd]
    exact Device.active?_configure d name
  | true =>
    rw [enterInterface_of_strict hs, Device.apply_configureExisting] at h
    have hd : d.select name = d' := congrArg Prod.snd h
    cases hp : d.position? name with
    | none => simp [hp] at h
    | some i =>
      rw [← hd]
      exact Device.active?_select (by simp [hp])

theorem atomic_rename : Atomic (do
    let name ← first args
    modify (·.rename name)
    return "" : Device.Op String) :=
  (reads_lift (first args)).atomic_bind fun _ => atomic_modify_answer _ _

theorem atomic_interface : Atomic (do
    sh.enterInterface (← first args)
    return "Entered interface configuration mode (" ++ (← Device.activeName) ++ ")" :
      Device.Op String) := by
  refine (reads_lift (first args)).atomic_bind fun name => ?_
  exact Device.atomic_then_activeName (sh.atomic_enterInterface name)
    (fun _ _ => sh.active?_enterInterface) _

theorem atomic_ipAddress : Atomic (do
    let address ← address (← first args)
    let name ← Device.activeName
    Device.assign address
    return "IP address " ++ address ++ " assigned to " ++ name : Device.Op String) := by
  refine (reads_lift (first args)).atomic_bind fun text => ?_
  refine (reads_lift (address text)).atomic_bind fun a => ?_
  refine Device.reads_activeName.atomic_bind fun name => ?_
  exact (Device.atomic_modifyActive _).bind fun _ _ _ _ => ⟨_, rfl⟩

theorem atomic_perform (m : Mode) (a : Action) : Atomic (sh.perform args m a) := by
  have hfail : Atomic (fail .notImplemented : Device.Op String) := (reads_fail _).atomic
  have hactive (f : Interface → Interface) (answer : String → String) :
      Atomic (Device.modifyActive f >>= fun _ =>
        Device.activeName >>= fun name => pure (answer name)) :=
    Device.atomic_then_activeName (Device.atomic_modifyActive f)
      (fun _ _ => Device.active?_of_modifyActive) answer
  cases m with
  | user =>
    cases a with
    | enable => exact atomic_modify_answer _ _
    | _ => exact hfail
  | privileged =>
    cases a with
    | disable | exit | configureTerminal => exact atomic_modify_answer _ _
    | showIpInterfaceBrief | showRunningConfig =>
      exact (reads_get.bind fun _ => reads_pure _).atomic
    | showInterface =>
      exact (reads_get.bind fun _ => (reads_lift _).bind fun _ => reads_lift _).atomic
    | hostname => exact atomic_rename args
    | _ => exact hfail
  | globalConfig =>
    cases a with
    | hostname => exact atomic_rename args
    | interface => exact sh.atomic_interface args
    | exit | endConfig => exact atomic_modify_answer _ _
    | _ => exact hfail
  | interfaceConfig =>
    cases a with
    | ipAddress => exact atomic_ipAddress args
    | noIpAddress => exact hactive _ fun name => "IP address removed from " ++ name
    | noShutdown => exact hactive _ fun name => name ++ " is now up"
    | shutdown => exact hactive _ fun name => name ++ " is now administratively down"
    | exit | endConfig => exact atomic_modify_answer _ _
    | _ => exact hfail

theorem atomic_on (name : String) {op : Device.Op String} (h : Atomic op) :
    Atomic (Network.on name op) := by
  intro net e net' hrun
  cases hd : net.device? name with
  | none =>
    rw [Network.apply_on_of_none hd] at hrun
    exact (congrArg Prod.snd hrun).symm
  | some d =>
    rw [Network.apply_on_of_some hd] at hrun
    have herr : (op.apply d).1 = .error e := congrArg Prod.fst hrun
    have hput : net.put (op.apply d).2 = net' := congrArg Prod.snd hrun
    have hsame : (op.apply d).2 = d := h d e _ (Prod.ext herr rfl)
    rw [← hput, hsame]
    exact Network.put_self hd

theorem atomic_carryOut (device : String) (m : Mode) (a : Action) :
    Atomic (sh.carryOut device m a args) := by
  unfold carryOut
  split
  · refine ((reads_lift (first args)).bind fun text => ?_).atomic
    exact (reads_lift (address text)).bind fun _ => reads_get.bind fun _ => reads_pure _
  · exact atomic_on device (sh.atomic_perform args _ _)

theorem atomic_command (device : String) (m : Mode) (ws : List String) :
    Atomic (sh.command device m ws) := by
  unfold command
  split
  · exact (reads_fail _).atomic
  · exact (reads_fail _).atomic
  · exact (reads_lift _).atomic_bind fun args => sh.atomic_carryOut args device m _

theorem reads_modeOf (device : String) : Reads (modeOf device) := by
  refine reads_get.bind fun net => ?_
  split
  · exact reads_pure _
  · exact reads_fail _

theorem atomic_run (device line : String) : Atomic (sh.run device line) := by
  unfold run
  split
  · exact (reads_pure _).atomic
  · exact ((reads_modeOf device).bind fun _ => reads_pure _).atomic
  · exact (reads_modeOf device).atomic_bind fun m => sh.atomic_command device m _

theorem run_error_keeps_network (device line : String) (net net' : Network) (e : CommandError)
    (h : (sh.run device line).apply net = (.error e, net')) : net' = net :=
  sh.atomic_run device line net e net' h

theorem run_error_keeps_network_octet :
    let net : Network := { devices := [(Device.new "R1" .router).configure "Gig0/0"] }
    ∃ net', (({} : Shell).run "R1" "ip address 10.0.0.256").apply net =
      (.error (.badAddress "10.0.0.256"), net') ∧ net' = net :=
  ⟨_, rfl, run_error_keeps_network {} "R1" "ip address 10.0.0.256" _ _ _ rfl⟩

end Shell

end RouterLab
