import RouterLab.Lab.Task
import RouterLab.Proofs.Shell.Atomicity
import RouterLab.Proofs.Shell.Run

/-!
Strict and lenient shells part over one kind of line, which asks a device for an interface that it
does not have.  What keeps clear of it runs alike on both.
-/

namespace RouterLab

open Interface (foldName)

def Grammar.strictly (g : Grammar) : Shell where
  grammar := g
  strict := true

def Grammar.leniently (g : Grammar) : Shell where
  grammar := g

structure Grammar.AsksUnknown (g : Grammar) (d : Device) (line name : String) : Prop where
  mode : d.mode = .globalConfig
  read : ∃ ws p args, Request.ofLine line = .command ws ∧
    g.resolve .globalConfig ws = .unique p ∧ p.action = .interface ∧
    p.arguments ws = .ok (name :: args)
  unknown : ∀ i ∈ d.interfaces, foldName i.name ≠ foldName name

namespace Shell

variable {g : Grammar} {net : Network} {name line : String} {d : Device}

theorem perform_strictly_of_ne {m : Mode} {a : Action} (h : ¬(m = .globalConfig ∧ a = .interface))
    (args : List String) : g.strictly.perform args m a = g.leniently.perform args m a := by
  cases m with
  | globalConfig =>
    cases a with
    | interface => exact absurd ⟨rfl, rfl⟩ h
    | _ => rfl
  | _ => cases a <;> rfl

theorem apply_enterInterface_of_known (sh : Shell) {n : String} {p : Nat}
    (h : d.position? n = some p) :
    (sh.enterInterface n).apply d = (.ok (), { d with level := .interfaceConfig p }) := by
  cases hs : sh.strict with
  | true =>
    rw [enterInterface_of_strict hs, Device.apply_configureExisting]
    simp [h, Device.select]
  | false =>
    rw [enterInterface_of_lenient hs, Op.apply_modify, Device.configure_of_some h]

theorem perform_interface_of_known {args : List String}
    (h : ∀ n, args.head? = some n → ∃ p, d.position? n = some p) :
    (g.strictly.perform args .globalConfig .interface).apply d =
      (g.leniently.perform args .globalConfig .interface).apply d := by
  cases args with
  | nil => rfl
  | cons n args =>
    obtain ⟨p, hp⟩ := h n rfl
    have henter (sh : Shell) :
        (sh.perform (n :: args) .globalConfig .interface).apply d =
          (do
            return "Entered interface configuration mode (" ++ (← Device.activeName) ++ ")" :
              Device.Op String).apply { d with level := .interfaceConfig p } :=
      Op.apply_bind_ok (sh.apply_enterInterface_of_known hp) _
    rw [henter, henter]

theorem carryOut_strictly_of_known (hd : net.device? name = some d) {m : Mode} {a : Action}
    {args : List String}
    (h : m = .globalConfig → a = .interface → ∀ n, args.head? = some n →
      ∃ p, d.position? n = some p) :
    (g.strictly.carryOut name m a args).apply net =
      (g.leniently.carryOut name m a args).apply net := by
  have hperform : (g.strictly.perform args m a).apply d =
      (g.leniently.perform args m a).apply d := by
    by_cases hi : m = .globalConfig ∧ a = .interface
    · obtain ⟨rfl, rfl⟩ := hi
      exact perform_interface_of_known (h rfl rfl)
    · rw [perform_strictly_of_ne hi]
  unfold carryOut
  split
  · rfl
  · rw [Network.apply_on_of_some hd, Network.apply_on_of_some hd, hperform]

theorem run_strictly_of_known (h : ∀ d n, net.device? name = some d → ¬g.AsksUnknown d line n) :
    (g.strictly.run name line).apply net = (g.leniently.run name line).apply net := by
  cases hd : net.device? name with
  | none =>
    have hmode := modeOf_of_none hd
    unfold run
    split
    · rfl
    · rw [Op.apply_bind_error hmode, Op.apply_bind_error hmode]
    · rw [Op.apply_bind_error hmode, Op.apply_bind_error hmode]
  | some d =>
    cases hline : Request.ofLine line with
    | blank => simp only [run, hline]
    | help ws =>
      rw [run_help _ hd hline, run_help _ hd hline]
      rfl
    | command ws =>
      cases hres : g.resolve d.mode ws with
      | unique p =>
        cases hargs : p.arguments ws with
        | ok args =>
          rw [run_of_read _ hd hline hres hargs, run_of_read _ hd hline hres hargs]
          apply carryOut_strictly_of_known hd
          intro hm ha n hn
          obtain ⟨rest, rfl⟩ := List.head?_eq_some_iff.mp hn
          cases hp : d.position? n with
          | some p => exact ⟨p, rfl⟩
          | none =>
            exact absurd ⟨hm, ⟨ws, p, rest, hline, hm ▸ hres, ha, hargs⟩,
              Device.position?_eq_none_iff.mp hp⟩ (h d n hd)
        | error e =>
          have hgrammar (sh : Shell) (hsh : sh.grammar = g) :
              (sh.run name line).apply net = (.error e, net) := by
            rw [run_command _ hd hline, command, hsh, hres]
            simp only [hargs]
            rfl
          rw [hgrammar _ rfl, hgrammar _ rfl]
      | _ =>
        rw [run_command _ hd hline, run_command _ hd hline, command, command]
        simp [Grammar.strictly, Grammar.leniently, hres]

theorem perform_interface_of_unknown (sh : Shell) {n : String} (h : d.position? n = none)
    (args : List String) :
    (sh.perform (n :: args) .globalConfig .interface).apply d =
      if sh.strict then (.error (.noInterface n), d)
      else (.ok ("Entered interface configuration mode (" ++ n ++ ")"), d.configure n) := by
  change (sh.enterInterface n >>= fun _ => Device.activeName >>= fun name =>
    pure ("Entered interface configuration mode (" ++ name ++ ")")).apply d = _
  cases hs : sh.strict with
  | true =>
    have hrefused : (sh.enterInterface n).apply d = (.error (.noInterface n), d) := by
      rw [enterInterface_of_strict hs, Device.apply_configureExisting]
      simp [h, Device.select]
    exact Op.apply_bind_error hrefused _
  | false =>
    have hentered : (sh.enterInterface n).apply d = (.ok (), d.configure n) := by
      rw [enterInterface_of_lenient hs, Op.apply_modify]
    have hactive : (d.configure n).active? = some { name := n } := by
      rw [Device.configure_of_none h]
      simp [Device.active?, Device.Level.position?]
    rw [Op.apply_bind_ok hentered, Op.apply_bind, Device.apply_activeName, hactive]
    rfl

theorem run_of_asksUnknown (sh : Shell) (hd : net.device? name = some d) {n : String}
    (h : sh.grammar.AsksUnknown d line n) :
    (sh.run name line).apply net =
      if sh.strict then (.error (.noInterface n), net)
      else (.ok ("Entered interface configuration mode (" ++ n ++ ")"), net.put (d.configure n)) := by
  obtain ⟨hmode, ⟨ws, p, args, hline, hres, haction, hargs⟩, hunknown⟩ := h
  have hperform := perform_interface_of_unknown sh (Device.position?_eq_none_iff.mpr hunknown) args
  rw [run_of_read sh hd hline (hmode ▸ hres) hargs, haction,
    carryOut_of_ne_ping sh name _ (by decide), hmode]
  rw [Network.apply_on_of_some hd, hperform]
  split
  · rw [Network.put_self hd]
  · rfl

theorem not_configure_of_asks {sh : Shell} (hs : sh.strict = true) {args : List String} {m : Mode}
    {n : String} : ¬sh.Asks args m (.configure n) := by
  intro h
  cases h with
  | interface _ hlenient => simp [hs] at hlenient

end Shell

namespace Device

theorem names_onActive (d : Device) {f : Interface → Interface} (hf : ∀ i, (f i).name = i.name) :
    (d.onActive f).interfaces.map (·.name) = d.interfaces.map (·.name) := by
  unfold onActive
  split
  · exact map_name_modify hf _ _
  · rfl

theorem names_call {c : Call} (h : ∀ name, c ≠ .configure name) (d : Device) :
    (d.call c).interfaces.map (·.name) = d.interfaces.map (·.name) := by
  cases c with
  | configure name => exact absurd rfl (h name)
  | configureExisting name =>
    rw [call_configureExisting, interfaces_select]
  | assign | unassign | setUp =>
    rw [call_of_edits (by trivial)]
    exact names_onActive d (Call.name_edit _)
  | _ => rfl

theorem names_obey_of_strict {sh : Shell} (hs : sh.strict = true) (line : String) (d : Device) :
    (d.obey sh line).interfaces.map (·.name) = d.interfaces.map (·.name) := by
  rw [obey]
  cases hc : sh.request? d.mode line with
  | none => rfl
  | some c =>
    obtain ⟨_, _, _, _, _, _, hchange⟩ := Shell.request?_eq_some hc
    refine names_call (fun n hn => ?_) d
    exact Shell.not_configure_of_asks hs (Shell.asks_of_change? (hn ▸ hchange))

end Device

def Network.interfaceNames (net : Network) : List (String × List String) :=
  net.devices.map fun d => (d.name, d.interfaces.map (·.name))

namespace Shell

variable {g : Grammar} {sh : Shell}

theorem interfaceNames_step_of_strict (hs : sh.strict = true) (net : Network)
    (s : String × String) : (sh.step net s).interfaceNames = net.interfaceNames := by
  rw [step, state_run]
  apply Network.map_devices_update (Device.name_obey sh s.2)
  intro d
  rw [Device.name_obey, Device.names_obey_of_strict hs]

theorem interfaceNames_after_of_strict (hs : sh.strict = true) (steps : List (String × String))
    (net : Network) : (sh.after steps net).interfaceNames = net.interfaceNames := by
  induction steps generalizing net with
  | nil => rfl
  | cons s steps ih => rw [after_cons, ih, interfaceNames_step_of_strict hs]

theorem run_all_strictly {net : Network} {steps : List (String × String)}
    (h : ∀ earlier name line later, steps = earlier ++ (name, line) :: later →
      ∀ d n, (g.strictly.after earlier net).device? name = some d → ¬g.AsksUnknown d line n) :
    g.strictly.replies steps net = g.leniently.replies steps net ∧
      g.strictly.after steps net = g.leniently.after steps net := by
  induction steps generalizing net with
  | nil => simp only [replies, after, List.foldl_nil, and_self]
  | cons s steps ih =>
    obtain ⟨name, line⟩ := s
    have hfirst : (g.strictly.run name line).apply net = (g.leniently.run name line).apply net :=
      run_strictly_of_known (h [] name line steps rfl)
    have hstep : g.strictly.step net (name, line) = g.leniently.step net (name, line) := by
      rw [step, step, hfirst]
    have hrest := @ih (g.strictly.step net (name, line)) (by
      intro earlier name' line' later hsteps d n hd
      apply h ((name, line) :: earlier) name' line' later (by rw [hsteps, List.cons_append]) d n
      rwa [after_cons])
    rw [replies_cons, replies_cons, after_cons, after_cons, hfirst, ← hstep]
    exact ⟨congrArg _ hrest.1, hrest.2⟩

end Shell

namespace Check

def ofInterface (device interface : String) : List Check :=
  [.interfaceUp device interface, .interfaceAddressed device interface,
    .interfaceConfigured device interface]

theorem fails_of_unknown {net : Network} {device interface : String}
    (h : ∀ d, net.device? device = some d →
      ∀ i ∈ d.interfaces, foldName i.name ≠ foldName interface) :
    ∀ check ∈ ofInterface device interface, check.passes net = false := by
  have hmeets (p : Interface → Bool) : interfaceMeets net device interface p = false := by
    cases hd : net.device? device with
    | none => simp [interfaceMeets, hd]
    | some d =>
      have hnone : d.interface? interface = none := Device.interface?_eq_none_iff.mpr (h d hd)
      simp [interfaceMeets, hd, hnone]
  intro check hcheck
  simp only [ofInterface, List.mem_cons, List.not_mem_nil, or_false] at hcheck
  rcases hcheck with rfl | rfl | rfl
  all_goals exact hmeets _

end Check

namespace Shell

variable {net : Network} {device : String}

theorem unknown_after_of_strict {sh : Shell} (hs : sh.strict = true) {interface : String}
    (h : ∀ d, net.device? device = some d →
      ∀ i ∈ d.interfaces, foldName i.name ≠ foldName interface)
    (steps : List (String × String)) :
    ∀ e, (sh.after steps net).device? device = some e →
      ∀ i ∈ e.interfaces, foldName i.name ≠ foldName interface := by
  intro e he i hi
  have hhas : net.has device = true := by
    rw [← Network.has_congr (names_after sh steps net) device]
    exact Network.has_of_some he
  obtain ⟨d, hd⟩ := Option.isSome_iff_exists.mp hhas
  have hnames : e.interfaces.map (·.name) = d.interfaces.map (·.name) :=
    after_invariant (P := fun e => e.interfaces.map (·.name) = d.interfaces.map (·.name))
      (fun e line he => (Device.names_obey_of_strict hs line e).trans he) hd rfl he
  have hmem : i.name ∈ d.interfaces.map (·.name) := hnames ▸ List.mem_map_of_mem hi
  obtain ⟨j, hj, hname⟩ := List.mem_map.mp hmem
  exact hname ▸ h d hd j hj

theorem strictness_decides_one_case (g : Grammar) (net : Network) :
    (∀ name line d, net.device? name = some d →
      ((∀ n, ¬g.AsksUnknown d line n) →
        (g.strictly.run name line).apply net = (g.leniently.run name line).apply net) ∧
      ∀ n, g.AsksUnknown d line n →
        (g.strictly.run name line).apply net = (.error (.invalidTarget ("interface " ++ n)), net) ∧
        ∃ before after, net.devices = before ++ d :: after ∧ (∀ e ∈ before, e.name ≠ name) ∧
          (g.leniently.run name line).apply net =
            (.ok ("Entered interface configuration mode (" ++ n ++ ")"),
              { net with
                devices := before ++
                  { d with
                    interfaces := d.interfaces ++ [{ name := n, address := none, up := false }]
                    level := .interfaceConfig d.interfaces.length } :: after })) ∧
    ∀ steps,
      (g.strictly.after steps net).interfaceNames = net.interfaceNames ∧
      ((∀ earlier name line later, steps = earlier ++ (name, line) :: later →
          ∀ d n, (g.strictly.after earlier net).device? name = some d → ¬g.AsksUnknown d line n) →
        g.strictly.replies steps net = g.leniently.replies steps net ∧
        g.strictly.after steps net = g.leniently.after steps net) ∧
      ∀ device interface, (∀ d, net.device? device = some d →
          ∀ i ∈ d.interfaces, foldName i.name ≠ foldName interface) →
        ∀ check ∈ Check.ofInterface device interface,
          check.passes (g.strictly.after steps net) = false := by
  refine ⟨fun name line d hd => ⟨fun h => ?_, fun n h => ⟨?_, ?_⟩⟩, fun steps => ⟨?_, ?_, ?_⟩⟩
  · refine run_strictly_of_known fun e n he => ?_
    rw [hd] at he
    cases he
    exact h n
  · exact run_of_asksUnknown g.strictly hd h
  · obtain ⟨before, after, hdevices, hbefore, hupdate⟩ := Network.update_eq hd
    have hnone := Device.position?_eq_none_iff.mpr h.unknown
    have hnet : net.put (d.configure n) = net.update name (·.configure n) := by
      simp [Network.update, hd]
    have hname (e : Device) : (e.configure n).name = e.name :=
      (Device.extends_configure e n).name
    refine ⟨before, after, hdevices, hbefore, ?_⟩
    have hlenient := run_of_asksUnknown g.leniently hd h
    rw [hnet, hupdate _ hname, Device.configure_of_none hnone] at hlenient
    exact hlenient
  · exact interfaceNames_after_of_strict rfl steps net
  · exact run_all_strictly
  · intro device interface h
    exact Check.fails_of_unknown (unknown_after_of_strict rfl h steps)

theorem strictness_decides_one_case_switch :
    let g := Grammar.standard
    let d : Device := (Device.new "S1" .switch).toGlobalConfig
    let net : Network := { devices := [.new "R1" .router, d] }
    let steps := [("S1", "int FA0/1"), ("R1", "en")]
    net.device? "S1" = some d ∧ g.AsksUnknown d " int Fa0/2" "Fa0/2" ∧
    (g.strictly.run "S1" " int Fa0/2").apply net =
      (.error (.invalidTarget ("interface " ++ "Fa0/2")), net) ∧
    (∀ n, ¬g.AsksUnknown d "int FA0/1" n) ∧
    (g.strictly.run "S1" "int FA0/1").apply net = (g.leniently.run "S1" "int FA0/1").apply net ∧
    g.strictly.replies steps net = g.leniently.replies steps net ∧
    ∀ check ∈ Check.ofInterface "S1" "Fa0/2",
      check.passes (g.strictly.after (("S1", " int Fa0/2") :: steps) net) = false := by
  intro g d net steps
  have hd : net.device? "S1" = some d := by decide
  have hasks : g.AsksUnknown d " int Fa0/2" "Fa0/2" :=
    ⟨rfl, ⟨["int", "Fa0/2"], ⟨[.keyword "interface", .argument "name"], .interface⟩, [], by decide,
      by decide, rfl, by decide⟩, by decide⟩
  have hread : Request.ofLine "int FA0/1" = .command ["int", "FA0/1"] := by decide
  have hknown : ∀ n, ¬g.AsksUnknown d "int FA0/1" n := by
    rintro n ⟨-, ⟨ws, p, args, hline, hres, -, hargs⟩, hunknown⟩
    rw [hread] at hline
    cases hline
    cases hres
    cases hargs
    exact hunknown { name := "Fa0/1" } List.mem_cons_self (by decide)
  have hr1 : ∀ e, (g.strictly.after [("S1", "int FA0/1")] net).device? "R1" = some e →
      e = .new "R1" .router := by
    intro e he
    have hkept : (g.strictly.after [("S1", "int FA0/1")] net).device? "R1" =
        some (.new "R1" .router) := by decide
    rw [hkept] at he
    exact (Option.some.inj he).symm
  obtain ⟨hlines, hruns⟩ := strictness_decides_one_case g net
  obtain ⟨halike, hparted⟩ := hlines "S1" "int FA0/1" d hd
  refine ⟨hd, hasks, ((hlines "S1" " int Fa0/2" d hd).2 "Fa0/2" hasks).1, hknown, halike hknown,
    ((hruns steps).2.1 ?_).1, (hruns _).2.2 "S1" "Fa0/2" ?_⟩
  · intro earlier name line later hsteps e n he hunknown
    simp only [steps] at hsteps
    rcases earlier with _ | ⟨s, _ | ⟨t, earlier⟩⟩
    · cases hsteps
      have hde : d = e := Option.some.inj (hd.symm.trans he)
      exact hknown n (hde ▸ hunknown)
    · cases hsteps
      have hmode := hunknown.mode
      rw [hr1 e he] at hmode
      cases hmode
    · simp at hsteps
  · intro e he
    rw [hd] at he
    cases he
    decide

end Shell

end RouterLab
