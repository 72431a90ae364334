import RouterLab.Proofs.Console.Records
import RouterLab.Proofs.Repl.Directive

namespace RouterLab

def Network.configuration (net : Network) :
    List (String × Device.Kind × String × List Interface) :=
  net.devices.map fun d => (d.name, d.kind, d.hostname, d.interfaces)

namespace Console

variable {c c' : Console} {s : Session} {device : String} {d : Device}

structure TurnsTo (c : Console) (device : String) (c' : Console) : Prop where
  attached? : c'.attached? = some device
  network : ∃ before d after, c.network.devices = before ++ d :: after ∧ d.name = device ∧
    c'.network = { c.network with devices := before ++ { d with level := .user } :: after }
  sessions : c'.sessions =
    if device ∈ c.seated then c.sessions else c.sessions ++ [.new device c.historyLimit]
  shell : c'.shell = c.shell
  historyLimit : c'.historyLimit = c.historyLimit

theorem turnsTo_of_device? (hd : c.network.device? device = some d) :
    c.TurnsTo device ((c.withNetwork (c.network.put d.toUser)).turnTo device) where
  attached? := attached?_turnTo _ device
  network := by
    obtain ⟨before, after, hdevices, -, hupdate⟩ := Network.update_eq hd
    have hput : c.network.put d.toUser = c.network.update device Device.toUser := by
      simp [Network.update, hd]
    refine ⟨before, d, after, hdevices, Network.name_of_device? hd, ?_⟩
    rw [network_turnTo, withNetwork, hput, hupdate Device.toUser fun _ => rfl]
    rfl
  sessions := sessions_turnTo _ device
  shell := shell_turnTo _ device
  historyLimit := historyLimit_turnTo _ device

end Console

namespace Directive

inductive Ran (c : Console) : Directive → Except Fault Effect × Console → Prop
  | unknown {device : String} : c.network.has device = false →
    Ran c (.connect device) (.error (.unknownDevice device), c)
  | turned {device : String} {c' : Console} : c.network.has device = true →
    c.TurnsTo device c' → Ran c (.connect device) (.ok (.print ("Connected to " ++ device)), c')
  | detached {d : Directive} : (∀ device, d ≠ .connect device) → c.session? = none →
    Ran c d (.error .notAttached, c)
  | recalled {d : Directive} {s : Session} {n : Nat} (text : String) : d = .prev ∨ d = .next →
    c.session? = some s → n ≤ s.history.cursor + 1 → s.history.cursor ≤ n + 1 →
    Ran c d (.ok (.edit text), c.withSession (s.seek n))
  | still {d : Directive} (effect : Effect) : (∀ device, d ≠ .connect device) → d ≠ .prev →
    d ≠ .next → Ran c d (.ok effect, c)

theorem ran_of_detached {lab : Lab} {d : Directive} {c : Console}
    (hd : ∀ device, d ≠ .connect device) (hs : c.session? = none) {α : Type}
    {f : Session → Console.Op α} {g : α → Console.Op Effect}
    (hrun : d.run lab = Console.require >>= f >>= g) : Ran c d ((d.run lab).apply c) := by
  rw [hrun, Op.apply_bind_error (Console.apply_require_of_none hs f)]
  exact .detached hd hs

theorem ran_run (lab : Lab) (d : Directive) (c : Console) : Ran c d ((d.run lab).apply c) := by
  cases d with
  | connect device =>
    cases hd : c.network.device? device with
    | none =>
      rw [apply_run_connect_of_none lab hd]
      exact .unknown (Network.has_of_none hd)
    | some d =>
      rw [apply_run_connect_of_some lab hd]
      exact .turned (Network.has_of_some hd) (Console.turnsTo_of_device? hd)
  | complete text =>
    cases hs : c.session? with
    | none => exact ran_of_detached (by simp) hs rfl
    | some s =>
      rw [run, Op.apply_bind_ok (Console.apply_complete hs text)]
      exact .still _ (by simp) (by simp) (by simp)
  | prev =>
    cases hs : c.session? with
    | none => exact ran_of_detached (by simp) hs rfl
    | some s =>
      rw [apply_run_prev lab hs]
      exact .recalled (n := s.history.cursor - 1) _ (.inl rfl) hs (by omega) (by omega)
  | next =>
    cases hs : c.session? with
    | none => exact ran_of_detached (by simp) hs rfl
    | some s =>
      rw [apply_run_next lab hs]
      have hnear : s.newer.history.cursor ≤ s.history.cursor + 1 ∧
          s.history.cursor ≤ s.newer.history.cursor + 1 := by
        simp only [Session.newer, History.newer]
        split <;> omega
      exact .recalled (n := s.newer.history.cursor) _ (.inr rfl) hs hnear.1 hnear.2
  | _ => exact .still _ (by simp) (by simp) (by simp)

namespace Ran

variable {c : Console} {d : Directive} {x : Except Fault Effect × Console}

theorem of_error (h : Ran c d x) {e : Fault} (he : x.1 = .error e) : x.2 = c := by
  cases h with
  | unknown | detached => rfl
  | turned | recalled | still => cases he

theorem configuration (h : Ran c d x) : x.2.network.configuration = c.network.configuration := by
  cases h with
  | unknown | detached | still => rfl
  | recalled => simp
  | turned _ hturns =>
    obtain ⟨before, e, after, hdevices, -, hnetwork⟩ := hturns.network
    simp [Network.configuration, hnetwork, hdevices]

theorem links (h : Ran c d x) : x.2.network.links = c.network.links := by
  cases h with
  | unknown | detached | still => rfl
  | recalled => simp
  | turned _ hturns =>
    obtain ⟨before, e, after, -, -, hnetwork⟩ := hturns.network
    rw [hnetwork]

theorem entries (h : Ran c d x) (hc : c.seated.Nodup) {device : String} {k : History}
    (hk : c.history? device = some k) :
    ∃ k', x.2.history? device = some k' ∧ k'.entries = k.entries := by
  cases h with
  | unknown | detached | still => exact ⟨k, hk, rfl⟩
  | @turned other c' _ hturns =>
    refine ⟨k, ?_, rfl⟩
    obtain ⟨s, hs, rfl⟩ := Option.map_eq_some_iff.mp hk
    have hfound : c'.sessionOf? device = some s := by
      rw [Console.sessionOf?, hturns.sessions]
      split
      · exact hs
      · rw [List.find?_append]
        exact Option.or_eq_some_iff.mpr (.inl hs)
    rw [Console.history?, hfound, Option.map_some]
  | @recalled _ s n text _ hs _ _ =>
    simp only [Console.history?_withSession hc hs (s.device_seek n)]
    split
    · next hdevice =>
      rw [hdevice, Console.history?_session hc hs] at hk
      cases hk
      exact ⟨_, rfl, rfl⟩
    · exact ⟨k, hk, rfl⟩

end Ran

theorem run_configures_nothing (lab : Lab) :
    ∃ c₀, lab.console = .ok c₀ ∧ ∀ (ks : List Console.Call) (d : Directive),
      let c := c₀.after ks
      let outcome := ((d.run lab).apply c).1
      let c' := ((d.run lab).apply c).2
      (c'.network.configuration = c.network.configuration ∧
        c'.network.links = c.network.links ∧
        ∀ device h, c.history? device = some h →
          ∃ h', c'.history? device = some h' ∧ h'.entries = h.entries) ∧
      (∀ e, outcome = .error e → c' = c) ∧
      (∀ device, d = .connect device →
        (c.network.has device = false → outcome = .error (.unknownDevice device)) ∧
        (c.network.has device = true →
          outcome = .ok (.print ("Connected to " ++ device)) ∧ c.TurnsTo device c')) ∧
      (d = .prev ∨ d = .next →
        (c.session? = none → outcome = .error .notAttached) ∧
        ∀ s, c.session? = some s → ∃ n, c' = c.withSession (s.seek n) ∧
          n ≤ s.history.cursor + 1 ∧ s.history.cursor ≤ n + 1) ∧
      ((∀ device, d ≠ .connect device) → d ≠ .prev → d ≠ .next → c' = c) := by
  refine ⟨lab.opening, lab.console_eq, fun ks d => ?_⟩
  intro c outcome c'
  have hseated : c.seated.Nodup := (lab.sound_opening.after ks).distinct
  have hran : Ran c d (outcome, c') := ran_run lab d c
  clear_value c outcome c'
  refine ⟨⟨hran.configuration, hran.links, fun device h => hran.entries hseated⟩,
    fun e => hran.of_error, ?_, ?_, ?_⟩
  · rintro device rfl
    cases hran with
    | unknown hhas => exact ⟨fun _ => rfl, fun h => by simp [hhas] at h⟩
    | turned hhas hturns => exact ⟨fun h => by simp [hhas] at h, fun _ => ⟨rfl, hturns⟩⟩
    | detached hne => exact absurd rfl (hne device)
    | recalled _ hd => simp at hd
    | still _ hne => exact absurd rfl (hne device)
  · intro hd
    cases hran with
    | unknown | turned => simp at hd
    | detached _ hs => exact ⟨fun _ => rfl, fun s h => by simp [hs] at h⟩
    | @recalled _ s n text _ hs hle hge =>
      refine ⟨fun h => by simp [hs] at h, fun t ht => ?_⟩
      obtain rfl : s = t := Option.some.inj (hs.symm.trans ht)
      exact ⟨n, rfl, hle, hge⟩
    | still _ _ hprev hnext => exact absurd hd (not_or.mpr ⟨hprev, hnext⟩)
  · intro hne hprev hnext
    cases hran with
    | unknown | detached | still => rfl
    | turned => exact absurd rfl (hne _)
    | recalled _ hd => exact absurd hd (not_or.mpr ⟨hprev, hnext⟩)

theorem run_configures_nothing_two_devices :
    let lab : Lab := { name := "pair", nodes := [{ name := "R1" }, { name := "R2" }] }
    let ks := [Console.Call.submit "en", .submit "conf t", .submit "host Edge", .older]
    ∃ c₀, lab.console = .ok c₀ ∧
      let c := c₀.after ks
      c.network.has "R2" = true ∧ c.TurnsTo "R2" (((connect "R2").run lab).apply c).2 ∧
      c.network.has "R9" = false ∧
      (((connect "R9").run lab).apply c).1 = .error (.unknownDevice "R9") ∧
      (((connect "R9").run lab).apply c).2 = c ∧
      (∃ s n, c.session? = some s ∧ s.history.cursor = 2 ∧
        ((prev.run lab).apply c).2 = c.withSession (s.seek n) ∧ 1 ≤ n ∧ n ≤ 3) ∧
      (∃ h h', c.history? "R1" = some h ∧
        ((next.run lab).apply c).2.history? "R1" = some h' ∧ h'.entries = h.entries) ∧
      ((progress.run lab).apply c).2 = c := by
  intro lab ks
  obtain ⟨c₀, hc₀, hrun⟩ := run_configures_nothing lab
  obtain rfl : lab.opening = c₀ := Except.ok.inj (lab.console_eq.symm.trans hc₀)
  have hknown : (lab.opening.after ks).network.has "R2" = true := by decide +kernel
  have hunknown : (lab.opening.after ks).network.has "R9" = false := by decide +kernel
  have hhistory : (lab.opening.after ks).session?.map (·.history.cursor) = some 2 := by
    decide +kernel
  have hkept : ((lab.opening.after ks).history? "R1").isSome = true := by decide +kernel
  replace hrun := hrun ks
  refine ⟨lab.opening, hc₀, ?_⟩
  -- the facts above are all that the run is needed for
  generalize lab.opening.after ks = c at hknown hunknown hhistory hkept hrun ⊢
  obtain ⟨s, hs, hcursor⟩ := Option.map_eq_some_iff.mp hhistory
  obtain ⟨h, hh⟩ := Option.isSome_iff_exists.mp hkept
  obtain ⟨-, -, hconnect, -, -⟩ := hrun (connect "R2")
  obtain ⟨-, herror, hrefused, -, -⟩ := hrun (connect "R9")
  obtain ⟨-, -, -, hrecall, -⟩ := hrun prev
  obtain ⟨⟨-, -, hentries⟩, -, -, -, -⟩ := hrun next
  obtain ⟨-, -, -, -, hstill⟩ := hrun progress
  have hr9 := (hrefused "R9" rfl).1 hunknown
  obtain ⟨n, hn, hle, hge⟩ := (hrecall (.inl rfl)).2 s hs
  obtain ⟨h', hh', he⟩ := hentries "R1" h hh
  rw [hcursor] at hle hge
  exact ⟨hknown, ((hconnect "R2" rfl).2 hknown).2, hunknown, hr9, herror _ hr9,
    ⟨s, n, hs, hcursor, hn, by omega, hle⟩, ⟨h, h', hh, hh', he⟩, hstill nofun nofun nofun⟩

end Directive

end RouterLab
