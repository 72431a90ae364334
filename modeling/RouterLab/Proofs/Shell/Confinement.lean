import RouterLab.Proofs.Device.Table
import RouterLab.Proofs.Request
import RouterLab.Proofs.Shell.Run

namespace RouterLab

open Text

/-- At most the address or the administrative state differs. -/
def Interface.OneField (i j : Interface) : Prop :=
  j = { i with address := j.address } ∨ j = { i with up := j.up }

def Mode.Permits (d e : Device) : Mode → Prop
  | .user => e.hostname = d.hostname ∧ e.interfaces = d.interfaces
  | .privileged => e.interfaces = d.interfaces
  | .globalConfig => e.interfaces = d.interfaces ∨
    ∃ name, e.interfaces = d.interfaces ++ [{ name, address := none, up := false }] ∧
      e.level = .interfaceConfig d.interfaces.length
  | .interfaceConfig => e.hostname = d.hostname ∧
    e.interfaces.map (·.name) = d.interfaces.map (·.name) ∧
    (e.interfaces = d.interfaces ∨
      ∃ p i j, d.level = .interfaceConfig p ∧ d.interfaces[p]? = some i ∧ i.OneField j ∧
        e.interfaces = d.interfaces.set p j ∧ e.level = d.level)

structure Device.Confined (d e : Device) : Prop where
  name : e.name = d.name
  kind : e.kind = d.kind
  rise : e.mode.rank ≤ d.mode.rank + 1
  permitted : d.mode.Permits d e

namespace Interface

theorem oneField_edit (c : Device.Call) (i : Interface) : i.OneField (c.edit i) := by
  cases c with
  | setUp up => exact .inr rfl
  | _ => exact .inl rfl

theorem OneField.name {i j : Interface} (h : i.OneField j) : j.name = i.name := by
  rcases h with h | h
  · rw [h]
  · rw [h]

end Interface

namespace Device

variable {d : Device}

theorem permits_self (d : Device) (m : Mode) : m.Permits d d := by
  cases m with
  | user => exact ⟨rfl, rfl⟩
  | privileged => exact rfl
  | globalConfig => exact .inl rfl
  | interfaceConfig => exact ⟨rfl, rfl, .inl rfl⟩

theorem permits_configure (d : Device) (name : String) :
    Mode.globalConfig.Permits d (d.configure name) := by
  cases hp : d.position? name with
  | some p =>
    rw [configure_of_some hp]
    exact .inl rfl
  | none =>
    rw [configure_of_none hp]
    exact .inr ⟨name, rfl, rfl⟩

theorem permits_onActive (h : d.mode = .interfaceConfig) {f : Interface → Interface}
    (hf : ∀ i : Interface, i.OneField (f i)) :
    Mode.interfaceConfig.Permits d (d.onActive f) := by
  obtain ⟨p, hl⟩ := level_of_interfaceConfig h
  have hactive : d.onActive f = { d with interfaces := d.interfaces.modify p f } := by
    simp [onActive, hl, Level.position?]
  rw [hactive]
  refine ⟨rfl, map_name_modify (fun i => (hf i).name) _ p, ?_⟩
  cases hi : d.interfaces[p]? with
  | none => exact .inl (List.modify_eq_self (List.getElem?_eq_none_iff.mp hi))
  | some i =>
    have hset : d.interfaces.modify p f = d.interfaces.set p (f i) := by
      rw [List.modify_eq_set_getElem?, hi]
      rfl
    exact .inr ⟨p, i, f i, hl, hi, hf i, hset, rfl⟩

theorem mode_onActive (d : Device) (f : Interface → Interface) :
    (d.onActive f).mode = d.mode := by
  unfold onActive
  split <;> rfl

theorem mode_configure (d : Device) (name : String) :
    (d.configure name).mode = .interfaceConfig := by
  unfold configure
  split <;> rfl

theorem mode_select (d : Device) (name : String) :
    (d.select name).mode = .interfaceConfig ∨ d.select name = d := by
  unfold select
  split
  · exact .inl rfl
  · exact .inr rfl

theorem rank_leave_le (d : Device) : d.leave.mode.rank ≤ d.mode.rank := by
  cases hl : d.level <;> simp [leave, mode, hl, Level.outer, Level.mode, Mode.rank]

theorem permits_call {sh : Shell} {args : List String} {c : Call}
    (h : sh.Asks args d.mode c) : d.mode.Permits d (d.call c) := by
  generalize hm : d.mode = m at h
  cases h with
  | enable => exact ⟨rfl, rfl⟩
  | disable | configureTerminal | hostname => exact rfl
  | hostnameInConfig | exitConfig | endConfig => exact .inl rfl
  | interface => exact permits_configure d _
  | interfaceExisting =>
    rw [call_configureExisting]
    exact .inl (interfaces_select d _)
  | ipAddress | noIpAddress | shutdown =>
    rw [call_of_edits (by trivial)]
    exact permits_onActive hm (Interface.oneField_edit _)
  | exitInterface | endInterface => exact ⟨rfl, rfl, .inl rfl⟩

theorem rank_call_le {sh : Shell} {args : List String} {c : Call}
    (h : sh.Asks args d.mode c) : (d.call c).mode.rank ≤ d.mode.rank + 1 := by
  have hsame {e : Device} (he : e.mode = d.mode) : e.mode.rank ≤ d.mode.rank + 1 := by
    rw [he]
    exact Nat.le_succ _
  have hlevel {e : Device} {n : Mode} (he : e.mode = n) {m : Mode} (hm : d.mode = m)
      (hrank : n.rank ≤ m.rank + 1) : e.mode.rank ≤ d.mode.rank + 1 := by
    rwa [he, hm]
  generalize hm : d.mode = m at h
  rw [← hm]
  cases h with
  | enable | endConfig | endInterface => exact hlevel (n := .privileged) rfl hm (by decide)
  | disable => exact hlevel (n := .user) rfl hm (by decide)
  | configureTerminal => exact hlevel (n := .globalConfig) rfl hm (by decide)
  | hostname | hostnameInConfig => exact hsame rfl
  | interface => exact hlevel (mode_configure d _) hm (by decide)
  | interfaceExisting =>
    rw [call_configureExisting]
    rcases mode_select d _ with hi | hd
    · exact hlevel hi hm (by decide)
    · exact hsame (congrArg mode hd)
  | ipAddress | noIpAddress | shutdown =>
    rw [call_of_edits (by trivial)]
    exact hsame (mode_onActive d _)
  | exitConfig | exitInterface => exact Nat.le_succ_of_le (rank_leave_le d)

theorem confined_obey (sh : Shell) (line : String) (d : Device) : Confined d (d.obey sh line) := by
  rw [obey]
  cases hc : sh.request? d.mode line with
  | none => exact ⟨rfl, rfl, Nat.le_succ _, permits_self d d.mode⟩
  | some c =>
    obtain ⟨_, _, args, _, _, _, hchange⟩ := Shell.request?_eq_some hc
    have hasks := Shell.asks_of_change? hchange
    have hext := extends_call d c
    exact ⟨hext.name, hext.kind, rank_call_le hasks, permits_call hasks⟩

end Device

theorem Request.getLast?_of_command {line : String} {ws : List String}
    (h : ofLine line = .command ws) :
    ∃ c, (trim line).toList.getLast? = some c ∧ c ≠ '?' := by
  simp only [ofLine] at h
  split at h
  · cases h
  · cases h
  · next c hne hlast => exact ⟨c, hlast, hne⟩

namespace Shell

variable (sh : Shell) {net : Network} {name line : String} {d : Device}

theorem state_run_of_no_request (hd : net.device? name = some d)
    (h : sh.request? d.mode line = none) : ((sh.run name line).apply net).2 = net := by
  have hobey : d.obey sh line = d.callIf none := by rw [Device.obey, h]
  rw [state_run, update_of_some (g := fun e => e.callIf none) hd hobey, update_none]

theorem command_of_state_ne (hd : net.device? name = some d)
    (h : ((sh.run name line).apply net).2 ≠ net) :
    trim line ≠ "" ∧ (trim line).toList.getLast? ≠ some '?' ∧
      ∃ p, sh.grammar.resolve d.mode (words (trim line)) = .unique p := by
  cases hc : sh.request? d.mode line with
  | none => exact absurd (sh.state_run_of_no_request hd hc) h
  | some c =>
    obtain ⟨ws, p, _, hline, hres, _, _⟩ := request?_eq_some hc
    obtain ⟨q, hlast, hq⟩ := Request.getLast?_of_command hline
    obtain ⟨rfl, -⟩ := Request.ofLine_eq_command hline
    refine ⟨?_, ?_, p, ?_⟩
    · intro hempty
      simp [hempty] at hlast
    · rw [hlast]
      exact fun he => hq (Option.some.inj he)
    · rwa [words_trim]

theorem run_confined (net : Network) (name line : String) (d : Device)
    (hd : net.device? name = some d) :
    ∃ before e after, net.devices = before ++ d :: after ∧ (∀ f ∈ before, f.name ≠ name) ∧
      ((sh.run name line).apply net).2 = { net with devices := before ++ e :: after } ∧
      e.name = d.name ∧ e.kind = d.kind ∧ e.mode.rank ≤ d.mode.rank + 1 ∧
      d.mode.Permits d e ∧
      (((sh.run name line).apply net).2 ≠ net →
        trim line ≠ "" ∧ (trim line).toList.getLast? ≠ some '?' ∧
          ∃ p, sh.grammar.resolve d.mode (words (trim line)) = .unique p) := by
  obtain ⟨before, after, hdevices, hbefore, hupdate⟩ := Network.update_eq hd
  have hstate : ((sh.run name line).apply net).2 =
      { net with devices := before ++ d.obey sh line :: after } := by
    rw [state_run]
    exact hupdate _ (Device.name_obey sh line)
  have hconfined := Device.confined_obey sh line d
  exact ⟨before, d.obey sh line, after, hdevices, hbefore, hstate, hconfined.name, hconfined.kind,
    hconfined.rise, hconfined.permitted, sh.command_of_state_ne hd⟩

theorem run_confined_new_interface :
    let d : Device := (Device.new "R1" .router).toGlobalConfig
    let net : Network := { devices := [.new "S1" .switch, d, .new "R2" .router] }
    net.device? "R1" = some d ∧
    ((({} : Shell).run "R1" " int Gig0/7 ").apply net).2 ≠ net ∧
    (∃ before e after, net.devices = before ++ d :: after ∧ (∀ f ∈ before, f.name ≠ "R1") ∧
      ((({} : Shell).run "R1" " int Gig0/7 ").apply net).2 =
        { net with devices := before ++ e :: after } ∧
      e.mode.rank ≤ d.mode.rank + 1 ∧ Mode.globalConfig.Permits d e) ∧
    ∃ p, Grammar.standard.resolve .globalConfig (words (trim " int Gig0/7 ")) = .unique p := by
  intro d net
  have hd : net.device? "R1" = some d := by decide
  have hne : ((({} : Shell).run "R1" " int Gig0/7 ").apply net).2 ≠ net := by decide
  obtain ⟨before, e, after, hdevices, hbefore, hstate, -, -, hrise, hpermits, hread⟩ :=
    run_confined {} net "R1" " int Gig0/7 " d hd
  exact ⟨hd, hne, ⟨before, e, after, hdevices, hbefore, hstate, hrise, hpermits⟩, (hread hne).2.2⟩

end Shell

end RouterLab
