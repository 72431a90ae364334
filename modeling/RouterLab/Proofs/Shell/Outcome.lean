import RouterLab.Proofs.Address.Written
import RouterLab.Proofs.Grammar.Slots
import RouterLab.Proofs.Network.Reachable
import RouterLab.Proofs.Request
import RouterLab.Proofs.Shell.Refusal
import RouterLab.Proofs.Shell.Strictness

/-!
What becomes of a command of the laboratory is decided by the paths that fit its words, the words
in their slots and the interfaces of the device.  The tables and what a shell can carry out fit
together: only a reload has a path and nothing behind it.
-/

namespace RouterLab

open Text
open Interface (foldName)
open Op

namespace Shell

/-- How many words an action wants, where a shell can carry it out. -/
def takes? : Mode → Action → Option Nat
  | .user, .enable => some 0
  | .privileged, .disable | .privileged, .exit | .privileged, .configureTerminal => some 0
  | .privileged, .showIpInterfaceBrief | .privileged, .showRunningConfig => some 0
  | .privileged, .showInterface | .privileged, .ping | .privileged, .hostname => some 1
  | .globalConfig, .hostname | .globalConfig, .interface => some 1
  | .globalConfig, .exit | .globalConfig, .endConfig => some 0
  | .interfaceConfig, .ipAddress => some 1
  | .interfaceConfig, .noIpAddress | .interfaceConfig, .noShutdown => some 0
  | .interfaceConfig, .shutdown | .interfaceConfig, .exit | .interfaceConfig, .endConfig => some 0
  | _, _ => none

theorem standard_takes (m : Mode) :
    ∀ p ∈ Grammar.standard.paths m, p.action = .reload ∨ takes? m p.action = some p.arity := by
  cases m <;> decide

theorem standard_reload (m : Mode) :
    ∀ p ∈ Grammar.standard.paths m, p.action = .reload → m = .privileged := by
  cases m <;> decide

/-- The word is no target for the action, or its target is not there. -/
inductive Mistargets (sh : Shell) (d : Device) : Action → String → Prop
  | ping {w : String} : (∀ x : Address, w ≠ x.text) → Mistargets sh d .ping w
  | ipAddress {w : String} : (∀ x : Address, w ≠ x.text) → Mistargets sh d .ipAddress w
  | showInterface {w : String} :
    (∀ i ∈ d.interfaces, foldName i.name ≠ foldName w) → Mistargets sh d .showInterface w
  | interface {w : String} : sh.strict = true →
    (∀ i ∈ d.interfaces, foldName i.name ≠ foldName w) → Mistargets sh d .interface w

inductive Settled (sh : Shell) (d : Device) (a : Action) (args : List String) :
    Except CommandError String → Prop
  | refused {w : String} (what : String) : w ∈ args → sh.Mistargets d a w →
    Settled sh d a args (.error (.invalidTarget what))
  | answered (text : String) : (∀ w ∈ args, ¬sh.Mistargets d a w) →
    Settled sh d a args (.ok text)

theorem address_of_text (x : Address) : address x.text = .ok x.text := by
  rw [address, Address.ofString?_eq_some_iff.mpr rfl]

theorem address_of_not_text {w : String} (h : ∀ x : Address, w ≠ x.text) :
    address w = .error (.badAddress w) := by
  have hnone : Address.ofString? w = none := by
    rw [Option.eq_none_iff_forall_ne_some]
    exact fun x hx => h x (Address.ofString?_eq_some_iff.mp hx)
  rw [address, hnone]

variable (sh : Shell) {net : Network} {name : String} {d : Device}

theorem settled_refused {a : Action} {w : String} (h : sh.Mistargets d a w) (what : String) :
    sh.Settled d a [w] (.error (.invalidTarget what)) :=
  .refused what (List.mem_singleton_self w) h

theorem settled_answered {a : Action} {w : String} (h : ¬sh.Mistargets d a w) (text : String) :
    sh.Settled d a [w] (.ok text) :=
  .answered text fun _ hv => List.mem_singleton.mp hv ▸ h

theorem settled_showInterface (w : String) :
    sh.Settled d .showInterface [w] (d.showInterface w) := by
  cases hi : d.interface? w with
  | some i =>
    have hshown : d.showInterface w = .ok (Device.describe i) := by simp [Device.showInterface, hi]
    have htarget : ¬sh.Mistargets d .showInterface w := by
      intro hmis
      cases hmis with
      | showInterface hmissing => simp [Device.interface?_eq_none_iff.mpr hmissing] at hi
    exact hshown ▸ sh.settled_answered htarget _
  | none =>
    have hshown : d.showInterface w = .error (.noInterface w) := by simp [Device.showInterface, hi]
    exact hshown ▸ sh.settled_refused (.showInterface (Device.interface?_eq_none_iff.mp hi)) _

theorem settled_interface (w : String) :
    sh.Settled d .interface [w] ((sh.perform [w] .globalConfig .interface).apply d).1 := by
  cases hp : d.position? w with
  | some p =>
    have hentered := sh.apply_enterInterface_of_known hp
    obtain ⟨answer, hname⟩ := Device.activeName_ok (sh.active?_enterInterface hentered)
    have houtcome : ((sh.perform [w] .globalConfig .interface).apply d).1 =
        .ok ("Entered interface configuration mode (" ++ answer ++ ")") := by
      rw [perform, outcome_bind_lift]
      simp only [first]
      rw [apply_bind_ok hentered, apply_bind_ok (Prod.ext hname rfl), apply_pure]
    have htarget : ¬sh.Mistargets d .interface w := by
      intro hmis
      cases hmis with
      | interface _ hmissing => simp [Device.position?_eq_none_iff.mpr hmissing] at hp
    exact houtcome ▸ sh.settled_answered htarget _
  | none =>
    rw [sh.perform_interface_of_unknown hp]
    cases hs : sh.strict with
    | true =>
      exact sh.settled_refused (.interface hs (Device.position?_eq_none_iff.mp hp)) _
    | false =>
      refine sh.settled_answered (fun hmis => ?_) _
      cases hmis with
      | interface hstrict _ => simp [hs] at hstrict

theorem settled_ipAddress (hactive : d.active?.isSome = true) (w : String) :
    sh.Settled d .ipAddress [w] ((sh.perform [w] .interfaceConfig .ipAddress).apply d).1 := by
  rw [perform, outcome_bind_lift]
  simp only [first]
  rw [outcome_bind_lift]
  by_cases hw : ∃ x : Address, w = x.text
  · obtain ⟨x, rfl⟩ := hw
    obtain ⟨answer, hname⟩ := Device.activeName_ok hactive
    have hassigned : (Device.assign x.text).apply d =
        (.ok (), d.onActive fun i => { i with address := some x.text }) := by
      rw [Device.assign, Device.apply_modifyActive, if_pos hactive]
    simp only [address_of_text]
    rw [apply_bind_ok (Prod.ext hname rfl), Device.apply_activeName, apply_bind_ok hassigned,
      apply_pure]
    refine sh.settled_answered (fun hmis => ?_) _
    cases hmis with
    | ipAddress hmissing => exact hmissing x rfl
  · simp only [address_of_not_text (not_exists.mp hw)]
    exact sh.settled_refused (.ipAddress (not_exists.mp hw)) _

theorem settled_ping (w : String) :
    sh.Settled d .ping [w] ((sh.carryOut name .privileged .ping [w]).apply net).1 := by
  rw [carryOut, outcome_bind_lift]
  simp only [first]
  rw [outcome_bind_lift]
  by_cases hw : ∃ x : Address, w = x.text
  · obtain ⟨x, rfl⟩ := hw
    simp only [address_of_text]
    refine sh.settled_answered (fun hmis => ?_) _
    cases hmis with
    | ping hmissing => exact hmissing x rfl
  · simp only [address_of_not_text (not_exists.mp hw)]
    exact sh.settled_refused (.ping (not_exists.mp hw)) _

theorem answered_active (hactive : d.active?.isSome = true) (f : Interface → Interface)
    (answer : String → String) :
    ∃ text, ((Device.modifyActive f >>= fun _ => Device.activeName >>= fun name =>
      pure (answer name)).apply d).1 = .ok text := by
  have hmodified : (Device.modifyActive f).apply d = (.ok (), d.onActive f) := by
    rw [Device.apply_modifyActive, if_pos hactive]
  obtain ⟨name, hname⟩ := Device.activeName_ok (Device.active?_of_modifyActive hmodified)
  refine ⟨answer name, ?_⟩
  rw [apply_bind_ok hmodified, apply_bind_ok (Prod.ext hname rfl), apply_pure]

theorem settled_perform (hs : d.Sound) {a : Action} {args : List String}
    (h : takes? d.mode a = some args.length) (hping : a ≠ .ping) :
    sh.Settled d a args ((sh.perform args d.mode a).apply d).1 := by
  have hactive := hs.isSome_active?_iff
  have hone (hlen : some 1 = some args.length) : ∃ w, args = [w] :=
    List.length_eq_one_iff.mp (Option.some.inj hlen).symm
  generalize hm : d.mode = m at h hactive ⊢
  -- Most actions have no target to miss, so their answer stands whatever the words are.
  cases m with
  | user =>
    cases a with
    | enable => exact .answered _ nofun
    | _ => cases h
  | privileged =>
    cases a with
    | disable | exit | configureTerminal | showIpInterfaceBrief | showRunningConfig =>
      exact .answered _ nofun
    | ping => exact absurd rfl hping
    | showInterface =>
      obtain ⟨w, rfl⟩ := hone h
      exact sh.settled_showInterface w
    | hostname =>
      obtain ⟨w, rfl⟩ := hone h
      exact .answered _ nofun
    | _ => cases h
  | globalConfig =>
    cases a with
    | exit | endConfig => exact .answered _ nofun
    | hostname =>
      obtain ⟨w, rfl⟩ := hone h
      exact .answered _ nofun
    | interface =>
      obtain ⟨w, rfl⟩ := hone h
      exact sh.settled_interface w
    | _ => cases h
  | interfaceConfig =>
    have hsome := hactive.mpr rfl
    cases a with
    | exit | endConfig => exact .answered _ nofun
    | ipAddress =>
      obtain ⟨w, rfl⟩ := hone h
      exact sh.settled_ipAddress hsome w
    | noIpAddress | noShutdown | shutdown =>
      obtain ⟨answer, hanswer⟩ := answered_active hsome _ _
      exact hanswer ▸ .answered answer nofun
    | _ => cases h

theorem settled_carryOut (hd : net.device? name = some d) (hs : d.Sound) {a : Action}
    {args : List String} (h : takes? d.mode a = some args.length) :
    sh.Settled d a args ((sh.carryOut name d.mode a args).apply net).1 := by
  by_cases hping : a = .ping
  · subst hping
    have hmode : d.mode = .privileged := by
      generalize d.mode = m at h
      cases m with
      | privileged => rfl
      | _ => cases h
    rw [hmode] at h ⊢
    obtain ⟨w, rfl⟩ := List.length_eq_one_iff.mp (Option.some.inj h).symm
    exact sh.settled_ping w
  · rw [carryOut_of_ne_ping sh name d.mode hping, Network.apply_on_of_some hd]
    exact sh.settled_perform hs h hping

theorem outcome_reload (hd : net.device? name = some d) (hmode : d.mode = .privileged)
    (args : List String) :
    ((sh.carryOut name d.mode .reload args).apply net).1 = .error .notImplemented := by
  rw [hmode, carryOut_of_ne_ping sh name _ (by decide), Network.apply_on_of_some hd]
  rfl

/-- What comes of a command: first how many readings there are, then whether the one reading lacks a
word, then what its action makes of the words. -/
inductive Decided (sh : Shell) (d : Device) (ws : List String) : Except CommandError String → Prop
  | unresolved : sh.grammar.candidates d.mode ws = [] → Decided sh d ws (.error .unresolved)
  | ambiguous : 2 ≤ (sh.grammar.candidates d.mode ws).length →
    Decided sh d ws (.error .ambiguous)
  | incomplete {p : Path} : sh.grammar.candidates d.mode ws = [p] → p.Lacks ws →
    Decided sh d ws (.error .incomplete)
  | notImplemented {p : Path} : sh.grammar.candidates d.mode ws = [p] → ¬p.Lacks ws →
    p.action = .reload → Decided sh d ws (.error .notImplemented)
  | settled {p : Path} {args : List String} {r : Except CommandError String} :
    sh.grammar.candidates d.mode ws = [p] → ¬p.Lacks ws → p.action ≠ .reload →
    (∀ w, w ∈ args ↔ p.Fills ws w) → sh.Settled d p.action args r → Decided sh d ws r

theorem decided_command (hsh : sh.grammar = .standard) (hd : net.device? name = some d)
    (hs : d.Sound) (ws : List String) :
    sh.Decided d ws ((sh.command name d.mode ws).apply net).1 := by
  cases hres : sh.grammar.resolve d.mode ws with
  | none =>
    rw [command, hres]
    exact .unresolved (Grammar.resolve_eq_none_iff.mp hres)
  | ambiguous =>
    rw [command, hres]
    exact .ambiguous (Grammar.resolve_eq_ambiguous_iff.mp hres)
  | unique p =>
    have hone := Grammar.resolve_eq_unique_iff.mp hres
    have hp : p ∈ Grammar.standard.paths d.mode := hsh ▸ (Grammar.mem_paths_of_resolve hres).1
    rw [command, hres, outcome_bind_lift]
    cases hargs : p.arguments ws with
    | error e =>
      obtain rfl := incomplete_of_slots hargs
      exact .incomplete hone (Path.lacks_iff.mpr ⟨_, hargs⟩)
    | ok args =>
      have hlacks : ¬p.Lacks ws := by simp [Path.lacks_iff, hargs]
      rcases standard_takes d.mode p hp with hreload | htakes
      · have hmode := standard_reload d.mode p hp hreload
        simp only [hreload, sh.outcome_reload hd hmode]
        exact .notImplemented hone hlacks hreload
      · have hne : p.action ≠ .reload := by
          intro hreload
          simp [hreload, takes?] at htakes
        have hlen : args.length = p.arity := Path.length_of_slots hargs
        exact .settled hone hlacks hne (Path.mem_of_slots hargs)
          (sh.settled_carryOut hd hs (hlen ▸ htakes))

theorem outcome_classified (hsh : sh.grammar = .standard) (hnet : net.Reachable)
    (hd : d ∈ net.devices) {line : String} (hne : trim line ≠ "")
    (hline : (trim line).toList.getLast? ≠ some '?') :
    let ws := words line
    let paths := Grammar.standard.paths d.mode
    let outcome := ((sh.run d.name line).apply net).1
    (outcome = .error .unresolved ↔ ∀ p ∈ paths, p.fits ws = false) ∧
    (outcome = .error .ambiguous ↔ 2 ≤ paths.countP (·.fits ws)) ∧
    (∀ p, paths.filter (·.fits ws) = [p] →
      (outcome = .error .incomplete ↔ p.Lacks ws) ∧
      (¬p.Lacks ws →
        (outcome = .error .notImplemented ↔ p.action = .reload) ∧
        (p.action ≠ .reload →
          ((∃ what, outcome = .error (.invalidTarget what)) ↔
            ∃ w, p.Fills ws w ∧ sh.Mistargets d p.action w) ∧
          ((∃ text, outcome = .ok text) ↔ ¬∃ w, p.Fills ws w ∧ sh.Mistargets d p.action w)))) ∧
    outcome ≠ .error .noActiveInterface := by
  intro ws paths outcome
  have hfound := Network.device?_of_mem hnet.nodup_names hd
  have hdecided : sh.Decided d ws outcome := by
    have hrun : outcome = ((sh.command d.name d.mode ws).apply net).1 :=
      congrArg Prod.fst (sh.run_command hfound (Request.ofLine_of_plain hne hline))
    rw [hrun]
    exact sh.decided_command hsh hfound (hnet.sound d hd) ws
  have hcands : sh.grammar.candidates d.mode ws = paths.filter (·.fits ws) := by
    rw [Grammar.candidates, hsh]
  have hnone : (∀ p ∈ paths, p.fits ws = false) ↔ paths.filter (·.fits ws) = [] := by
    simp [List.filter_eq_nil_iff]
  rw [hnone, List.countP_eq_length_filter, ← hcands]
  clear_value outcome
  -- Each way of being decided fixes the number of readings, and with it all else.
  cases hdecided with
  | unresolved hnil => simp [hnil]
  | ambiguous htwo =>
    have hnil : sh.grammar.candidates d.mode ws ≠ [] := fun h => by simp [h] at htwo
    have hone (p : Path) : sh.grammar.candidates d.mode ws ≠ [p] := fun h => by simp [h] at htwo
    simp [hnil, hone, htwo]
  | incomplete hone hlacks => simp [hone, hlacks]
  | notImplemented hone hlacks hreload => simp [hone, hlacks, hreload]
  | @settled p args r hone hlacks hreload hargs hsettled =>
    have hfills : (∃ w, p.Fills ws w ∧ sh.Mistargets d p.action w) ↔
        ∃ w ∈ args, sh.Mistargets d p.action w := by simp only [hargs]
    cases hsettled with
    | refused what hw hmis =>
      have hany : ∃ w, p.Fills ws w ∧ sh.Mistargets d p.action w := hfills.mpr ⟨_, hw, hmis⟩
      simpa [hone, hlacks, hreload] using hany
    | answered text hnot =>
      have hany : ¬∃ w, p.Fills ws w ∧ sh.Mistargets d p.action w := by
        rw [hfills]
        rintro ⟨w, hw, hmis⟩
        exact hnot w hw hmis
      simpa [hone, hlacks, hreload] using hany

theorem outcome_classified_octet :
    let d : Device := (Device.new "R1" .router).configure "Gig0/0"
    let net : Network := { devices := [d] }
    let ws := words " ip add 10.0.0.256"
    let p : Path := ⟨[.keyword "ip", .keyword "address", .argument "ip"], .ipAddress⟩
    net.Reachable ∧ (Grammar.standard.paths d.mode).filter (·.fits ws) = [p] ∧ ¬p.Lacks ws ∧
    p.Fills ws "10.0.0.256" ∧ ({} : Shell).Mistargets d p.action "10.0.0.256" ∧
    (∃ what, ((({} : Shell).run "R1" " ip add 10.0.0.256").apply net).1 =
      .error (.invalidTarget what)) ∧
    ((({} : Shell).run "R1" " ip add 10.0.0.256").apply net).1 ≠ .error .noActiveInterface := by
  intro d net ws p
  have huse : d.InUse := .call (.configure "Gig0/0") (.built (.new .router))
  have hnet : net.Reachable := .add huse .empty
  have hone : (Grammar.standard.paths d.mode).filter (·.fits ws) = [p] := by decide
  have hlacks : ¬p.Lacks ws := by
    intro h
    obtain ⟨e, he⟩ := Path.lacks_iff.mp h
    cases he
  have hfills : p.Fills ws "10.0.0.256" := ⟨2, ⟨"ip", rfl⟩, rfl⟩
  have hmis : ({} : Shell).Mistargets d p.action "10.0.0.256" :=
    .ipAddress fun x hx => nomatch Address.ofString?_eq_some_iff.mpr hx
  obtain ⟨-, -, hread, hactive⟩ := outcome_classified {} rfl hnet (List.mem_singleton_self d)
    (show trim " ip add 10.0.0.256" ≠ "" by decide) (by decide)
  have hsettled := ((hread p hone).2 hlacks).2 (by decide)
  exact ⟨hnet, hone, hlacks, hfills, hmis, hsettled.1.mpr ⟨_, hfills, hmis⟩, hactive⟩

end Shell

end RouterLab
