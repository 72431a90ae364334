import RouterLab.Proofs.Device.Call
import RouterLab.Proofs.Network.Lookup
import RouterLab.Shell

/-!
What a line does to the network: the device that it is run on carries out one operation of its own,
or none, and everything else stays.
-/

namespace RouterLab

open Op

def Network.update (net : Network) (name : String) (f : Device → Device) : Network :=
  match net.device? name with
  | some d => net.put (f d)
  | none => net

theorem Network.update_id (net : Network) (name : String) : net.update name id = net := by
  cases hd : net.device? name with
  | none => simp [update, hd]
  | some d => simp [update, hd, put_self hd]

namespace Shell

def change? (sh : Shell) (args : List String) : Mode → Action → Option Device.Call
  | .user, .enable => some .toPrivileged
  | .privileged, .disable | .privileged, .exit => some .toUser
  | .privileged, .configureTerminal => some .toGlobalConfig
  | .privileged, .hostname | .globalConfig, .hostname => args.head?.map .rename
  | .globalConfig, .interface =>
    args.head?.map (if sh.strict then .configureExisting else .configure)
  | .globalConfig, .exit | .interfaceConfig, .exit => some .leave
  | .globalConfig, .endConfig | .interfaceConfig, .endConfig => some .toPrivileged
  | .interfaceConfig, .ipAddress =>
    args.head?.bind fun text => (Address.ofString? text).map fun _ => .assign text
  | .interfaceConfig, .noIpAddress => some .unassign
  | .interfaceConfig, .noShutdown => some (.setUp true)
  | .interfaceConfig, .shutdown => some (.setUp false)
  | _, _ => none

def request? (sh : Shell) (m : Mode) (line : String) : Option Device.Call :=
  match Request.ofLine line with
  | .command ws =>
    match sh.grammar.resolve m ws with
    | .unique p =>
      match p.arguments ws with
      | .ok args => sh.change? args m p.action
      | .error _ => none
    | _ => none
  | _ => none

theorem request?_eq_some {sh : Shell} {m : Mode} {line : String} {c : Device.Call}
    (h : sh.request? m line = some c) :
    ∃ ws p args, Request.ofLine line = .command ws ∧ sh.grammar.resolve m ws = .unique p ∧
      p.arguments ws = .ok args ∧ sh.change? args m p.action = some c := by
  unfold request? at h
  split at h
  · next ws hline =>
    split at h
    · next p hres =>
      split at h
      · next args hargs => exact ⟨ws, p, args, hline, hres, hargs, h⟩
      · cases h
    · cases h
  · cases h

inductive Asks (sh : Shell) (args : List String) : Mode → Device.Call → Prop
  | enable : Asks sh args .user .toPrivileged
  | disable : Asks sh args .privileged .toUser
  | configureTerminal : Asks sh args .privileged .toGlobalConfig
  | hostname {name : String} : args.head? = some name → Asks sh args .privileged (.rename name)
  | hostnameInConfig {name : String} : args.head? = some name →
    Asks sh args .globalConfig (.rename name)
  | interface {name : String} : args.head? = some name → sh.strict = false →
    Asks sh args .globalConfig (.configure name)
  | interfaceExisting {name : String} : args.head? = some name → sh.strict = true →
    Asks sh args .globalConfig (.configureExisting name)
  | exitConfig : Asks sh args .globalConfig .leave
  | endConfig : Asks sh args .globalConfig .toPrivileged
  | ipAddress {s : String} {x : Address} : args.head? = some s → Address.ofString? s = some x →
    Asks sh args .interfaceConfig (.assign s)
  | noIpAddress : Asks sh args .interfaceConfig .unassign
  | shutdown (up : Bool) : Asks sh args .interfaceConfig (.setUp up)
  | exitInterface : Asks sh args .interfaceConfig .leave
  | endInterface : Asks sh args .interfaceConfig .toPrivileged

theorem asks_of_change? {sh : Shell} {args : List String} {m : Mode} {a : Action}
    {c : Device.Call} (h : sh.change? args m a = some c) : sh.Asks args m c := by
  unfold change? at h
  split at h
  case h_5 | h_6 =>
    obtain ⟨name, hname, rfl⟩ := Option.map_eq_some_iff.mp h
    constructor
    exact hname
  case h_7 =>
    obtain ⟨name, hname, rfl⟩ := Option.map_eq_some_iff.mp h
    cases hs : sh.strict with
    | true => exact .interfaceExisting hname hs
    | false => exact .interface hname hs
  case h_12 =>
    obtain ⟨s, hs, htyped⟩ := Option.bind_eq_some_iff.mp h
    obtain ⟨x, hx, rfl⟩ := Option.map_eq_some_iff.mp htyped
    exact .ipAddress hs hx
  all_goals cases h <;> constructor

end Shell

def Device.callIf (d : Device) : Option Device.Call → Device
  | some c => d.call c
  | none => d

def Device.obey (sh : Shell) (line : String) (d : Device) : Device :=
  d.callIf (sh.request? d.mode line)

namespace Op

variable {σ ε α β : Type}

theorem state_bind_lift (r : Except ε α) (f : α → Op σ ε β) (s : σ) :
    ((liftM r >>= f : Op σ ε β).apply s).2 =
      match r with
      | .ok a => ((f a).apply s).2
      | .error _ => s := by
  cases r with
  | ok a => rfl
  | error e => rfl

theorem outcome_bind_lift (r : Except ε α) (f : α → Op σ ε β) (s : σ) :
    ((liftM r >>= f : Op σ ε β).apply s).1 =
      match r with
      | .ok a => ((f a).apply s).1
      | .error e => .error e := by
  cases r with
  | ok a => rfl
  | error e => rfl

theorem state_bind_reads {x : Op σ ε α} {f : α → Op σ ε β} (hf : ∀ a, Reads (f a)) (s : σ) :
    ((x >>= f).apply s).2 = (x.apply s).2 := by
  rcases h : x.apply s with ⟨r, t⟩
  cases r with
  | ok a =>
    rw [apply_bind_ok h]
    exact hf a t
  | error e => rw [apply_bind_error h]

end Op

namespace Shell

variable (sh : Shell) (args : List String)

theorem reads_then_activeName (answer : String → String) :
    Reads (Device.activeName >>= fun name => pure (answer name)) := by
  refine Reads.bind ?_ fun name => reads_pure _
  intro d
  rw [Device.apply_activeName]

theorem state_rename (d : Device) :
    ((do
      let name ← first args
      modify (·.rename name)
      return "" : Device.Op String).apply d).2 = d.callIf (args.head?.map .rename) := by
  cases args with
  | nil => rfl
  | cons name args => rfl

theorem state_interface (d : Device) :
    ((do
      sh.enterInterface (← first args)
      return "Entered interface configuration mode (" ++ (← Device.activeName) ++ ")" :
        Device.Op String).apply d).2 =
      d.callIf (args.head?.map (if sh.strict then .configureExisting else .configure)) := by
  cases args with
  | nil => rfl
  | cons name args =>
    rw [state_bind_lift]
    simp only [first]
    rw [state_bind_reads fun _ => reads_then_activeName _]
    cases hs : sh.strict <;> simp [enterInterface, hs] <;> rfl

theorem state_ipAddress (d : Device) :
    ((do
      let address ← address (← first args)
      let name ← Device.activeName
      Device.assign address
      return "IP address " ++ address ++ " assigned to " ++ name :
        Device.Op String).apply d).2 =
      d.callIf
        (args.head?.bind fun text => (Address.ofString? text).map fun _ => .assign text) := by
  cases args with
  | nil => rfl
  | cons text args =>
    rw [state_bind_lift]
    simp only [first]
    rw [state_bind_lift]
    cases ha : Address.ofString? text with
    | none => simp [address, ha, Device.callIf]
    | some a =>
      simp only [address, ha, List.head?_cons, Option.bind_some, Option.map_some, Device.callIf,
        Device.call_assign]
      cases hi : d.active? with
      | none =>
        rw [apply_bind_error (e := .noActiveInterface) (t := d)
          (by rw [Device.apply_activeName, hi]), Device.onActive_of_none hi]
      | some i =>
        rw [apply_bind_ok (a := i.name) (t := d) (by rw [Device.apply_activeName, hi]),
          state_bind_reads fun _ => reads_pure _, Device.assign, Device.apply_modifyActive]

theorem state_perform (m : Mode) (a : Action) (d : Device) :
    ((sh.perform args m a).apply d).2 = d.callIf (sh.change? args m a) := by
  cases m with
  | user => cases a <;> rfl
  | privileged =>
    cases a with
    | hostname => exact state_rename args d
    | showInterface => exact (reads_get.bind fun _ => (reads_lift _).bind fun _ => reads_lift _) d
    | _ => rfl
  | globalConfig =>
    cases a with
    | hostname => exact state_rename args d
    | interface => exact state_interface sh args d
    | _ => rfl
  | interfaceConfig =>
    cases a with
    | ipAddress => exact state_ipAddress args d
    | noIpAddress | noShutdown | shutdown =>
      exact state_bind_reads (fun _ => reads_then_activeName _) d
    | _ => rfl

theorem state_on {α : Type} (name : String) (op : Device.Op α) (net : Network) :
    ((Network.on name op).apply net).2 = net.update name fun d => (op.apply d).2 := by
  cases hd : net.device? name with
  | none => simp [Network.apply_on_of_none hd, Network.update, hd]
  | some d => simp [Network.apply_on_of_some hd, Network.update, hd]

theorem update_none (net : Network) (name : String) :
    (net.update name fun d => d.callIf none) = net :=
  net.update_id name

theorem state_carryOut (device : String) (m : Mode) (a : Action) (net : Network) :
    ((sh.carryOut device m a args).apply net).2 =
      net.update device fun d => d.callIf (sh.change? args m a) := by
  unfold carryOut
  split
  · rw [show sh.change? args .privileged .ping = none from rfl, update_none]
    refine Reads.bind (reads_lift (first args)) (fun text => ?_) net
    exact (reads_lift (address text)).bind fun _ => reads_get.bind fun _ => reads_pure _
  · rw [state_on]
    simp only [state_perform]

theorem modeOf_of_some {net : Network} {device : String} {d : Device}
    (h : net.device? device = some d) : (modeOf device).apply net = (.ok d.mode, net) := by
  simp [modeOf, apply_bind, h]

theorem modeOf_of_none {net : Network} {device : String} (h : net.device? device = none) :
    (modeOf device).apply net = (.error (.noDevice device), net) := by
  simp [modeOf, apply_bind, h]

theorem run_command (sh : Shell) {net : Network} {device line : String} {d : Device}
    {ws : List String} (hd : net.device? device = some d)
    (hline : Request.ofLine line = .command ws) :
    (sh.run device line).apply net = (sh.command device d.mode ws).apply net := by
  simp only [run, hline]
  exact apply_bind_ok (modeOf_of_some hd) _

theorem run_help (sh : Shell) {net : Network} {device line : String} {d : Device}
    {ws : List String} (hd : net.device? device = some d) (hline : Request.ofLine line = .help ws) :
    (sh.run device line).apply net = (.ok (sh.help d.mode ws), net) := by
  simp only [run, hline]
  rw [apply_bind_ok (modeOf_of_some hd)]
  rfl

theorem run_of_read (sh : Shell) {net : Network} {device line : String} {d : Device}
    {ws args : List String} {p : Path} (hd : net.device? device = some d)
    (hline : Request.ofLine line = .command ws) (hres : sh.grammar.resolve d.mode ws = .unique p)
    (hargs : p.arguments ws = .ok args) :
    (sh.run device line).apply net = (sh.carryOut device d.mode p.action args).apply net := by
  rw [run_command sh hd hline, command, hres]
  simp only [hargs]
  exact apply_bind_ok (apply_lift (.ok args) net) _

theorem carryOut_of_ne_ping (sh : Shell) (device : String) (m : Mode) {a : Action}
    (h : a ≠ .ping) (args : List String) :
    sh.carryOut device m a args = Network.on device (sh.perform args m a) := by
  unfold carryOut
  split
  · exact absurd rfl h
  · rfl

theorem update_of_some {net : Network} {name : String} {d : Device} {f g : Device → Device}
    (hd : net.device? name = some d) (hfg : f d = g d) : net.update name f = net.update name g := by
  simp [Network.update, hd, hfg]

theorem state_command {device : String} {m : Mode} {line : String} {ws : List String}
    (hline : Request.ofLine line = .command ws) (net : Network) :
    ((sh.command device m ws).apply net).2 =
      net.update device fun d => d.callIf (sh.request? m line) := by
  unfold command
  split
  case h_1 hres | h_2 hres => simp [request?, hline, hres, update_none]
  case h_3 p hres =>
    rw [state_bind_lift]
    cases hargs : p.arguments ws with
    | error e => simp [request?, hline, hres, hargs, update_none]
    | ok args => simp [request?, hline, hres, hargs, state_carryOut]

theorem state_run (device line : String) (net : Network) :
    ((sh.run device line).apply net).2 = net.update device (Device.obey sh line) := by
  cases hd : net.device? device with
  | none =>
    have hnet : net.update device (Device.obey sh line) = net := by simp [Network.update, hd]
    rw [hnet]
    unfold run
    split
    · rfl
    · rw [apply_bind_error (modeOf_of_none hd)]
    · rw [apply_bind_error (modeOf_of_none hd)]
  | some d =>
    have hupd : net.update device (Device.obey sh line) =
        net.update device fun e => e.callIf (sh.request? d.mode line) :=
      update_of_some hd rfl
    rw [hupd]
    unfold run
    split
    case h_1 hline => simp [request?, hline, update_none]
    case h_2 ws hline =>
      rw [apply_bind_ok (modeOf_of_some hd)]
      simp [request?, hline, update_none]
    case h_3 ws hline =>
      rw [apply_bind_ok (modeOf_of_some hd)]
      exact sh.state_command hline net

end Shell

end RouterLab
