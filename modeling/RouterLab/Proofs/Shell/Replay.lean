import RouterLab.Proofs.Shell.Legible

namespace RouterLab

open Text Op

namespace Device

def opened (d : Device) (i : Interface) : Device :=
  { d with
    interfaces := d.interfaces ++ [i]
    level := .interfaceConfig d.interfaces.length }

theorem active?_opened (d : Device) (i : Interface) : (d.opened i).active? = some i := by
  simp [active?, opened, Level.position?]

theorem onActive_opened (d : Device) (i : Interface) (f : Interface → Interface) :
    (d.opened i).onActive f = d.opened (f i) := by
  simp [onActive, opened, Level.position?, List.modify_eq_take_cons_drop]

end Device

namespace Shell

structure Takes (sh : Shell) (d : Device) (line : String) (e : Device) : Prop where
  outcome : ∀ (net : Network) (name : String), net.device? name = some d →
    ∃ text, ((sh.run name line).apply net).1 = .ok text
  state : d.obey sh line = e

inductive Replays (sh : Shell) : Device → List String → Device → Prop
  | nil (d : Device) : Replays sh d [] d
  | cons {d e f : Device} {line : String} {lines : List String} :
    sh.Takes d line e → Replays sh e lines f → Replays sh d (line :: lines) f

variable {sh : Shell}

theorem Takes.replays {d e : Device} {line : String} (h : sh.Takes d line e) :
    sh.Replays d [line] e :=
  .cons h (.nil e)

theorem Replays.append {d e f : Device} {ls ks : List String} (h : sh.Replays d ls e)
    (h' : sh.Replays e ks f) : sh.Replays d (ls ++ ks) f := by
  induction h with
  | nil d => exact h'
  | cons ht _ ih => exact .cons ht (ih h')

theorem Replays.run {d e : Device} {ls : List String} (h : sh.Replays d ls e)
    {net : Network} {name : String} (hd : net.device? name = some d) :
    (∀ r ∈ sh.replies (ls.map (name, ·)) net, ∃ text, r = .ok text) ∧
      (sh.after (ls.map (name, ·)) net).device? name = some e := by
  induction h generalizing net with
  | nil d =>
    refine ⟨?_, hd⟩
    intro r hr
    cases hr
  | @cons d e f line lines ht _ ih =>
    have hnext : (sh.step net (name, line)).device? name = some e := by
      rw [device?_step, if_pos rfl, hd, Option.map_some, ht.state]
    obtain ⟨hreplies, hafter⟩ := ih hnext
    rw [List.map_cons, replies_cons, after_cons, List.forall_mem_cons]
    exact ⟨⟨ht.outcome net name hd, hreplies⟩, hafter⟩

theorem takes_of_command {d e : Device} {line text : String} {ws args : List String} {p : Path}
    (hline : Request.ofLine line = .command ws)
    (hres : sh.grammar.resolve d.mode ws = .unique p) (hargs : p.arguments ws = .ok args)
    (hping : p.action ≠ .ping)
    (h : (sh.perform args d.mode p.action).apply d = (.ok text, e)) : sh.Takes d line e := by
  constructor
  · intro net name hd
    refine ⟨text, ?_⟩
    rw [run_of_read sh hd hline hres hargs, carryOut_of_ne_ping sh name d.mode hping,
      Network.apply_on_of_some hd, h]
  · have hreq : sh.request? d.mode line = sh.change? args d.mode p.action := by
      simp [request?, hline, hres, hargs]
    rw [Device.obey, hreq, ← state_perform, h]

section Lines

variable {d : Device}

theorem takes_hostname (hd : d.mode = .globalConfig) {name : String} (hname : PlainWord name) :
    ({} : Shell).Takes d ("hostname " ++ name) (d.rename name) := by
  have hline : Request.ofLine ("hostname " ++ name) = .command ["hostname", name] :=
    Request.ofLine_append_word (b := ' ') (t := "hostname") rfl rfl rfl hname
  have hres : Grammar.standard.resolve d.mode ["hostname", name] =
      .unique ⟨[.keyword "hostname", .argument "name"], .hostname⟩ := by
    rw [hd]
    rfl
  have happly : (({} : Shell).perform [name] d.mode .hostname).apply d =
      (.ok "", d.rename name) := by
    rw [hd]
    rfl
  exact takes_of_command hline hres rfl (by decide) happly

theorem takes_interface (hd : d.mode = .globalConfig) {name : String} (hname : PlainWord name)
    (hnew : d.position? name = none) :
    ({} : Shell).Takes d ("interface " ++ name) (d.opened { name := name }) := by
  have hline : Request.ofLine ("interface " ++ name) = .command ["interface", name] :=
    Request.ofLine_append_word (b := ' ') (t := "interface") rfl rfl rfl hname
  have hres : Grammar.standard.resolve d.mode ["interface", name] =
      .unique ⟨[.keyword "interface", .argument "name"], .interface⟩ := by
    rw [hd]
    rfl
  have hopen : d.configure name = d.opened { name := name } := Device.configure_of_none hnew
  have happly : (({} : Shell).perform [name] d.mode .interface).apply d =
      (.ok ("Entered interface configuration mode (" ++ name ++ ")"),
        d.opened { name := name }) := by
    rw [hd]
    simp [perform, first, enterInterface, apply_bind, Device.apply_activeName, hopen,
      Device.active?_opened]
  exact takes_of_command hline hres rfl (by decide) happly

theorem takes_ipAddress (i : Interface) {a : String} {x : Address}
    (hx : Address.ofString? a = some x) :
    ({} : Shell).Takes (d.opened i) (" ip address " ++ a)
      (d.opened { i with address := some a }) := by
  have hline : Request.ofLine (" ip address " ++ a) = .command ["ip", "address", a] :=
    Request.ofLine_append_word (b := ' ') (t := " ip address") rfl rfl rfl
      (Address.plainWord_of_ofString? hx)
  have hres : Grammar.standard.resolve .interfaceConfig ["ip", "address", a] =
      .unique ⟨[.keyword "ip", .keyword "address", .argument "ip"], .ipAddress⟩ := rfl
  have happly : (({} : Shell).perform [a] .interfaceConfig .ipAddress).apply (d.opened i) =
      (.ok ("IP address " ++ a ++ " assigned to " ++ i.name),
        d.opened { i with address := some a }) := by
    simp [perform, first, address, hx, apply_bind, Device.apply_activeName, Device.active?_opened,
      Device.assign, Device.apply_modifyActive, Device.onActive_opened]
  exact takes_of_command hline hres rfl (by decide) happly

theorem takes_setUp (i : Interface) (up : Bool) :
    ({} : Shell).Takes (d.opened i) (if up then " no shutdown" else " shutdown")
      (d.opened { i with up }) := by
  have hset : (Device.setUp up).apply (d.opened i) = (.ok (), d.opened { i with up }) := by
    simp [Device.setUp, Device.apply_modifyActive, Device.active?_opened, Device.onActive_opened]
  cases up with
  | true =>
    have hline : Request.ofLine " no shutdown" = .command ["no", "shutdown"] := rfl
    have hres : Grammar.standard.resolve .interfaceConfig ["no", "shutdown"] =
        .unique ⟨[.keyword "no", .keyword "shutdown"], .noShutdown⟩ := rfl
    have happly : (({} : Shell).perform [] .interfaceConfig .noShutdown).apply (d.opened i) =
        (.ok (i.name ++ " is now up"), d.opened { i with up := true }) := by
      simp [perform, apply_bind, hset, Device.apply_activeName, Device.active?_opened]
    exact takes_of_command hline hres rfl (by decide) happly
  | false =>
    have hline : Request.ofLine " shutdown" = .command ["shutdown"] := rfl
    have hres : Grammar.standard.resolve .interfaceConfig ["shutdown"] =
        .unique ⟨[.keyword "shutdown"], .shutdown⟩ := rfl
    have happly : (({} : Shell).perform [] .interfaceConfig .shutdown).apply (d.opened i) =
        (.ok (i.name ++ " is now administratively down"), d.opened { i with up := false }) := by
      simp [perform, apply_bind, hset, Device.apply_activeName, Device.active?_opened]
    exact takes_of_command hline hres rfl (by decide) happly

theorem takes_exit (i : Interface) :
    ({} : Shell).Takes (d.opened i) " exit" (d.opened i).leave := by
  have hline : Request.ofLine " exit" = .command ["exit"] := rfl
  have hres : Grammar.standard.resolve .interfaceConfig ["exit"] =
      .unique ⟨[.keyword "exit"], .exit⟩ := rfl
  exact takes_of_command hline hres rfl (by decide) rfl

theorem replays_interfaceConfig (hd : d.level = .globalConfig) {i : Interface} (hi : i.Legible)
    (hnew : d.position? i.name = none) :
    ({} : Shell).Replays d (Device.interfaceConfig i)
      { d with interfaces := d.interfaces ++ [i] } := by
  obtain ⟨name, address, up⟩ := i
  have hmode : d.mode = .globalConfig := by rw [Device.mode, hd, Device.Level.mode]
  have hopen := takes_interface hmode hi.name hnew
  have hleave : (d.opened ⟨name, address, up⟩).leave =
      { d with interfaces := d.interfaces ++ [⟨name, address, up⟩] } := by
    simp [Device.leave, Device.opened, Device.Level.outer, hd]
  have hset := takes_setUp (d := d) ⟨name, address, false⟩ up
  have hexit := takes_exit (d := d) ⟨name, address, up⟩
  rw [hleave] at hexit
  have hrest := hset.replays.append hexit.replays
  cases address with
  | none => exact .cons hopen hrest
  | some a =>
    obtain ⟨x, hx⟩ := Option.isSome_iff_exists.mp (hi.address a rfl)
    exact .cons hopen (.cons (takes_ipAddress ⟨name, none, false⟩ hx) hrest)

theorem replays_interfaces {is : List Interface} (hd : d.level = .globalConfig)
    (his : ∀ i ∈ is, i.Legible) (hdistinct : Device.DistinctNames (d.interfaces ++ is)) :
    ({} : Shell).Replays d (is.flatMap Device.interfaceConfig)
      { d with interfaces := d.interfaces ++ is } := by
  induction is generalizing d with
  | nil =>
    rw [List.append_nil]
    exact .nil d
  | cons i is ih =>
    -- the names differ, so the line that opens `i` adds it
    have hnew : d.position? i.name = none := by
      rw [Device.position?_eq_none_iff]
      intro j hj
      exact (List.pairwise_append.mp hdistinct).2.2 j hj i (by simp)
    have hsplit : d.interfaces ++ i :: is = (d.interfaces ++ [i]) ++ is := by simp
    rw [hsplit] at hdistinct ⊢
    have hfirst := replays_interfaceConfig hd (his i (by simp)) hnew
    have hrest := ih (d := { d with interfaces := d.interfaces ++ [i] }) hd
      (fun j hj => his j (List.mem_cons_of_mem i hj)) hdistinct
    exact hfirst.append hrest

theorem replays_configLines {t : Device} (ht : t.level = .globalConfig)
    (hfresh : t.interfaces = []) (hd : d.Legible) (hsound : d.Sound) :
    ({} : Shell).Replays t d.configLines
      { t with hostname := d.hostname, interfaces := d.interfaces } := by
  have hmode : t.mode = .globalConfig := by rw [Device.mode, ht, Device.Level.mode]
  have hname := takes_hostname hmode hd.hostname
  have htable := replays_interfaces (d := t.rename d.hostname) ht hd.interfaces (by
    simpa [Device.rename, hfresh] using hsound.distinct)
  exact .cons hname (by simpa [Device.rename, hfresh] using htable)

end Lines

theorem replay_runningConfig {name target : String} {extra : List String} {d₀ t : Device}
    {net bench : Network} (hbuilt : Device.Built name extra d₀) (hname : PlainWord name)
    (hextra : ∀ n ∈ extra, PlainWord n) (hd₀ : net.device? name = some d₀) (strict : Bool)
    (steps : List (String × String)) (ht : bench.device? target = some t)
    (hmode : t.mode = .globalConfig) (hfresh : t.interfaces = []) :
    ∃ d, (({ strict := strict } : Shell).after steps net).device? name = some d ∧
      (∀ r ∈ ({} : Shell).replies ((lines d.runningConfig).map (target, ·)) bench,
        ∃ text, r = .ok text) ∧
      ∃ e, (({} : Shell).after ((lines d.runningConfig).map (target, ·)) bench).device? target =
          some e ∧
        e.mode = .globalConfig ∧ e.active? = none ∧ e.hostname = d.hostname ∧
        e.interfaces = d.interfaces ∧ e.runningConfig = d.runningConfig := by
  obtain ⟨d, hd⟩ : ∃ d, (({ strict := strict } : Shell).after steps net).device? name = some d := by
    rw [device?_after, hd₀]
    exact ⟨_, rfl⟩
  -- distinct names let every block open a new interface, and legible ones are read back whole
  have hsound : d.Sound :=
    after_invariant (fun _ line h => h.obey _ line) hd₀ hbuilt.sound hd
  have hlegible : d.Legible :=
    after_invariant (fun _ line h => h.obey rfl line) hd₀ (hbuilt.legible hname hextra) hd
  have hlevel : t.level = .globalConfig := by
    cases hl : t.level <;> simp [Device.mode, Device.Level.mode, hl] at hmode ⊢
  obtain ⟨hreplies, hafter⟩ := (replays_configLines hlevel hfresh hlegible hsound).run ht
  refine ⟨d, hd, ?_⟩
  rw [hlegible.lines_runningConfig]
  refine ⟨hreplies, _, hafter, hmode, ?_, rfl, rfl, rfl⟩
  rw [Device.active?_eq_none_iff]
  intro i hi
  rw [hlevel] at hi
  cases hi

theorem replay_runningConfig_second_interface :
    let net : Network := { devices := [.withInterfaces "R1" .router ["Gig0/1"]] }
    let bench : Network := { devices := [(Device.new "B1" .bare).toGlobalConfig] }
    let steps := [("R1", "enable"), ("R1", "conf t"), ("R1", "host Edge"), ("R1", "int gig0/1"),
      ("R1", "ip addr 10.0.0.1"), ("R1", "no shut")]
    let config := "hostname Edge\ninterface Gig0/0\n shutdown\n exit\n" ++
      "interface Gig0/1\n ip address 10.0.0.1\n no shutdown\n exit"
    let script := (lines config).map (("B1", ·) : String → String × String)
    PlainWord "R1" ∧ PlainWord "Gig0/1" ∧
    ((({ strict := true } : Shell).after steps net).device? "R1").map Device.runningConfig =
      some config ∧
    (∀ r ∈ ({} : Shell).replies script bench, ∃ text, r = .ok text) ∧
    ((({} : Shell).after script bench).device? "B1").map Device.runningConfig = some config := by
  intro net bench steps config script
  have hname : PlainWord "R1" := by decide
  have hextra : ∀ n ∈ ["Gig0/1"], PlainWord n := by decide
  have hbuilt : Device.Built "R1" ["Gig0/1"] (.withInterfaces "R1" .router ["Gig0/1"]) :=
    .withInterfaces .router _
  have hnet : net.device? "R1" = some (.withInterfaces "R1" .router ["Gig0/1"]) := rfl
  have hbench : bench.device? "B1" = some (Device.new "B1" .bare).toGlobalConfig := rfl
  obtain ⟨d, hd, hreplies, e, he, _, _, _, _, hsame⟩ :=
    replay_runningConfig hbuilt hname hextra hnet true steps hbench rfl rfl
  have hconfig : ((({ strict := true } : Shell).after steps net).device? "R1").map
      Device.runningConfig = some config := by
    decide +kernel
  have hrun : d.runningConfig = config := by simpa [hd] using hconfig
  rw [hrun] at hreplies he hsame
  refine ⟨hname, hextra _ (by simp), hconfig, hreplies, ?_⟩
  rw [he, Option.map_some, hsame]

end Shell

end RouterLab
