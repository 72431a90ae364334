import RouterLab.Lab.Progress
import RouterLab.Proofs.Console.Safety
import RouterLab.Proofs.Network.Order
import RouterLab.Proofs.Shell.Atomicity

/-!
What moves the progress on a list of tasks.  Checks pass on whatever is above a network that they
pass on, so a command that leaves a network where it is in the order leaves the progress too.
-/

namespace RouterLab

/-- A predicate that no blank interface meets, and that is kept upwards. -/
structure Interface.Rises (p : Interface → Bool) : Prop where
  blank : ∀ name, p { name } = false
  above : ∀ {i j : Interface}, i.Below j → p i = true → p j = true

namespace Check

variable {net net' : Network}

theorem interfaceMeets_eq {p : Interface → Bool} (hp : Interface.Rises p) (net : Network)
    (device interface : String) :
    interfaceMeets net device interface p =
      (net.device? device).any fun d => p (d.seen interface) := by
  cases hd : net.device? device with
  | none => simp [interfaceMeets, hd]
  | some d =>
    cases hi : d.interface? interface with
    | none => simp [interfaceMeets, hd, hi, Device.seen, hp.blank]
    | some i => simp [interfaceMeets, hd, hi, Device.seen]

theorem interfaceMeets_of_below {p : Interface → Bool} (hp : Interface.Rises p)
    (h : net.Below net') {device interface : String}
    (hmeets : interfaceMeets net device interface p = true) :
    interfaceMeets net' device interface p = true := by
  rw [interfaceMeets_eq hp, Option.any_eq_true] at hmeets ⊢
  obtain ⟨d, hd, hseen⟩ := hmeets
  obtain ⟨e, he, hbelow⟩ := h.device device d hd
  exact ⟨e, he, hp.above (hbelow.seen interface) hseen⟩

theorem passes_of_below (h : net.Below net') {check : Check} (hpasses : check.passes net = true) :
    check.passes net' = true := by
  have hup : Interface.Rises (·.up) := ⟨fun _ => rfl, fun hij => hij.up⟩
  have haddress {i j : Interface} (hij : i.Below j) (hi : i.address.isSome = true) :
      j.address.isSome = true := by
    obtain ⟨a, ha⟩ := Option.isSome_iff_exists.mp hi
    rw [hij.address a ha]
    rfl
  cases check with
  | interfaceUp device interface => exact interfaceMeets_of_below hup h hpasses
  | interfaceAddressed device interface =>
    exact interfaceMeets_of_below ⟨fun _ => rfl, haddress⟩ h hpasses
  | interfaceConfigured device interface =>
    refine interfaceMeets_of_below ⟨fun _ => rfl, fun hij hi => ?_⟩ h hpasses
    rw [Bool.and_eq_true] at hi ⊢
    exact ⟨hij.up hi.1, haddress hij hi.2⟩
  | hostname device name =>
    simp only [passes, Option.any_eq_true] at hpasses ⊢
    obtain ⟨d, hd, hname⟩ := hpasses
    obtain ⟨e, he, hbelow⟩ := h.device device d hd
    exact ⟨e, he, hbelow.hostname ▸ hname⟩
  | reachable caller address => exact h.reachable caller address hpasses

theorem passes_of_abreast (h : net.Abreast net') (check : Check) :
    check.passes net' = check.passes net := by
  rw [Bool.eq_iff_iff]
  exact ⟨passes_of_below h.2, passes_of_below h.1⟩

end Check

def Action.configuring : List Action :=
  [.hostname, .ipAddress, .noIpAddress, .shutdown, .noShutdown]

namespace Shell

def Means (sh : Shell) (d : Device) (line : String) (a : Action) : Prop :=
  ∃ ws p, Request.ofLine line = .command ws ∧ sh.grammar.resolve d.mode ws = .unique p ∧
    p.action = a

variable {sh : Shell} {net : Network} {name line : String} {d : Device}

theorem obey_of_means {P : Device → Prop} {a : Action} (h : sh.Means d line a) {c : Device.Call}
    (hc : ∀ args m c', sh.change? args m a = some c' → c' = c) (hsame : P d)
    (hcall : P (d.call c)) : P (d.obey sh line) := by
  obtain ⟨ws, p, hline, hres, rfl⟩ := h
  rw [Device.obey]
  cases hreq : sh.request? d.mode line with
  | none => exact hsame
  | some c' =>
    obtain ⟨ws', p', args, hline', hres', -, hchange⟩ := request?_eq_some hreq
    rw [hline] at hline'
    cases hline'
    rw [hres] at hres'
    cases hres'
    exact hc args d.mode c' hchange ▸ hcall

theorem still_of_change? {args : List String} {m : Mode} {a : Action} {c : Device.Call}
    (h : sh.change? args m a = some c) (ha : a ∉ Action.configuring) : c.Still := by
  cases a with
  | hostname | ipAddress | noIpAddress | shutdown | noShutdown => exact absurd (by decide) ha
  | interface =>
    cases m with
    | globalConfig =>
      obtain ⟨n, -, rfl⟩ := Option.map_eq_some_iff.mp h
      cases sh.strict with
      | true => exact ⟨id, nofun⟩
      | false => exact ⟨id, nofun⟩
    | _ => cases h
  | _ => cases m <;> cases h <;> exact ⟨id, nofun⟩

theorem abreast_run (h : ∀ d, net.device? name = some d →
      ∀ a ∈ Action.configuring, ¬sh.Means d line a) :
    net.Abreast ((sh.run name line).apply net).2 := by
  rw [state_run]
  refine Network.abreast_update (Device.name_obey sh line) fun d hd => ?_
  rw [Device.obey]
  cases hc : sh.request? d.mode line with
  | none => exact .refl d
  | some c =>
    obtain ⟨ws, p, args, hline, hres, -, hchange⟩ := request?_eq_some hc
    have hother : p.action ∉ Action.configuring := fun ha =>
      h d hd p.action ha ⟨ws, p, hline, hres, rfl⟩
    exact Device.abreast_call (still_of_change? hchange hother) d

theorem abreast_run_of_error {e : CommandError}
    (h : ((sh.run name line).apply net).1 = .error e) :
    net.Abreast ((sh.run name line).apply net).2 := by
  have hsame : ((sh.run name line).apply net).2 = net :=
    sh.atomic_run name line net e _ (Prod.ext h rfl)
  rw [hsame]
  exact .refl net

theorem below_run (hd : net.device? name = some d) (h : sh.Means d line .noShutdown) :
    net.Below ((sh.run name line).apply net).2 := by
  have hup : ∀ args m c, sh.change? args m .noShutdown = some c → c = .setUp true := by
    intro args m c hchange
    cases m <;> cases hchange
    rfl
  rw [state_run]
  refine Network.below_of_update (Device.name_obey sh line) fun e he => ?_
  obtain rfl : d = e := Option.some.inj (hd.symm.trans he)
  exact obey_of_means (P := d.Below) h hup (.refl d) d.below_call_setUp

theorem run_below (hd : net.device? name = some d)
    (h : sh.Means d line .shutdown ∨ sh.Means d line .noIpAddress) :
    (((sh.run name line).apply net).2).Below net := by
  have hdown : ∀ args m c, sh.change? args m .shutdown = some c → c = .setUp false := by
    intro args m c hchange
    cases m <;> cases hchange
    rfl
  have hclear : ∀ args m c, sh.change? args m .noIpAddress = some c → c = .unassign := by
    intro args m c hchange
    cases m <;> cases hchange
    rfl
  rw [state_run]
  refine Network.update_below (Device.name_obey sh line) fun e he => ?_
  obtain rfl : d = e := Option.some.inj (hd.symm.trans he)
  rcases h with hshut | hunassign
  · exact obey_of_means (P := (Device.Below · d)) hshut hdown (.refl d) d.call_setDown_below
  · exact obey_of_means (P := (Device.Below · d)) hunassign hclear (.refl d) d.call_unassign_below

end Shell

theorem Console.abreast_call (c : Console) {k : Console.Call} (hk : ∀ line, k ≠ .submit line) :
    c.network.Abreast (c.call k).network := by
  rw [(change_call c k).network]
  cases k with
  | attach device =>
    exact Network.abreast_update (fun _ => rfl) fun d _ => Device.abreast_of_interfaces rfl rfl
  | submit line => exact absurd rfl (hk line)
  | complete | older | newer => exact .refl c.network

namespace Progress

theorem still_of_abreast {net net' : Network} (h : net.Abreast net') (ts : List Task) :
    (∀ t ∈ ts, t.isDone net' = t.isDone net) ∧ ofTasks ts net' = ofTasks ts net := by
  have hdone (t : Task) : t.isDone net' = t.isDone net := Check.passes_of_abreast h t.check
  refine ⟨fun t _ => hdone t, ?_⟩
  simp only [ofTasks, hdone]

theorem only_configuration_moves (sh : Shell) (net : Network) (name line : String)
    (ts : List Task) :
    let next := ((sh.run name line).apply net).2
    ((∃ e, ((sh.run name line).apply net).1 = .error e) ∨
        (∀ d, net.device? name = some d → ∀ a ∈ Action.configuring, ¬sh.Means d line a) →
      (∀ t ∈ ts, t.isDone next = t.isDone net) ∧ ofTasks ts next = ofTasks ts net) ∧
    (∀ d, net.device? name = some d →
      (sh.Means d line .noShutdown →
        ∀ t ∈ ts, t.isDone net = true → t.isDone next = true) ∧
      (sh.Means d line .shutdown ∨ sh.Means d line .noIpAddress →
        ∀ t ∈ ts, t.isDone next = true → t.isDone net = true)) ∧
    ∀ (c : Console) (k : Console.Call), (∀ l, k ≠ .submit l) →
      (∀ t ∈ ts, t.isDone (c.call k).network = t.isDone c.network) ∧
      ofTasks ts (c.call k).network = ofTasks ts c.network := by
  refine ⟨?_, fun d hd => ⟨fun hmeans t _ => ?_, fun hmeans t _ => ?_⟩, fun c k hk => ?_⟩
  · rintro (⟨e, he⟩ | hother)
    · exact still_of_abreast (Shell.abreast_run_of_error he) ts
    · exact still_of_abreast (Shell.abreast_run hother) ts
  · exact Check.passes_of_below (Shell.below_run hd hmeans)
  · exact Check.passes_of_below (Shell.run_below hd hmeans)
  · exact still_of_abreast (c.abreast_call hk) ts

theorem only_configuration_moves_new_interface :
    let d : Device := (Device.new "R1" .router).toGlobalConfig
    let net : Network := { devices := [d, .new "S1" .switch] }
    let e : Device := (d.configure "Gig0/0").call (.assign "10.0.0.1")
    let net' : Network := { devices := [e] }
    let ts : List Task := [⟨"up", .interfaceUp "R1" "Gig0/7"⟩,
      ⟨"addressed", .interfaceAddressed "R1" "GIG0/0"⟩]
    let sh : Shell := {}
    ((sh.run "R1" " int Gig0/7 ").apply net).2 ≠ net ∧
    (∀ a ∈ Action.configuring, ¬sh.Means d " int Gig0/7 " a) ∧
    ofTasks ts ((sh.run "R1" " int Gig0/7 ").apply net).2 = ofTasks ts net ∧
    sh.Means e "no shut" .noShutdown ∧
    (∃ t ∈ ts, t.isDone net' = true ∧ t.isDone ((sh.run "R1" "no shut").apply net').2 = true) := by
  intro d net e net' ts sh
  have hd : net.device? "R1" = some d := by decide
  have hother : ∀ a ∈ Action.configuring, ¬sh.Means d " int Gig0/7 " a := by
    rintro a ha ⟨ws, p, hline, hres, rfl⟩
    have hread : Request.ofLine " int Gig0/7 " = .command ["int", "Gig0/7"] := by decide
    rw [hread] at hline
    cases hline
    cases hres
    exact absurd ha (by decide)
  have hup : sh.Means e "no shut" .noShutdown :=
    ⟨["no", "shut"], ⟨[.keyword "no", .keyword "shutdown"], .noShutdown⟩, by decide, by decide, rfl⟩
  have hnone : ∀ d', net.device? "R1" = some d' →
      ∀ a ∈ Action.configuring, ¬sh.Means d' " int Gig0/7 " a := by
    intro d' hd'
    obtain rfl : d = d' := Option.some.inj (hd.symm.trans hd')
    exact hother
  have hnew := (only_configuration_moves sh net "R1" " int Gig0/7 " ts).1 (.inr hnone)
  have hrises := ((only_configuration_moves sh net' "R1" "no shut" ts).2.1 e (by decide)).1 hup
  exact ⟨by decide, hother, hnew.2, hup, ts[1], by simp [ts], by decide,
    hrises ts[1] (by simp [ts]) (by decide)⟩

end Progress

end RouterLab
