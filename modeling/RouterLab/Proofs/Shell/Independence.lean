import RouterLab.Proofs.Shell.Run

namespace RouterLab

open Op

theorem Network.outcome_on {α : Type} {net net' : Network} {name : String}
    (h : net.device? name = net'.device? name) (op : Device.Op α) :
    ((on name op).apply net).1 = ((on name op).apply net').1 := by
  simp only [on, h]
  cases net'.device? name with
  | none => rfl
  | some d => rfl

namespace Shell

structure Pings (sh : Shell) (d : Device) (line : String) : Prop where
  mode : d.mode = .privileged
  read : ∃ ws p, Request.ofLine line = .command ws ∧
    sh.grammar.resolve .privileged ws = .unique p ∧ p.action = .ping

variable (sh : Shell) {net net' : Network} {name line : String}

theorem outcome_carryOut (hd : net.device? name = net'.device? name) {m : Mode} {a : Action}
    (hping : ¬(m = .privileged ∧ a = .ping)) (args : List String) :
    ((sh.carryOut name m a args).apply net).1 = ((sh.carryOut name m a args).apply net').1 := by
  unfold carryOut
  split
  · exact absurd ⟨rfl, rfl⟩ hping
  · exact Network.outcome_on hd _

theorem outcome_command (hd : net.device? name = net'.device? name) {m : Mode}
    {ws : List String}
    (hping : ∀ p, sh.grammar.resolve m ws = .unique p → ¬(m = .privileged ∧ p.action = .ping)) :
    ((sh.command name m ws).apply net).1 = ((sh.command name m ws).apply net').1 := by
  unfold command
  split
  · rfl
  · rfl
  · next p hres =>
    rw [outcome_bind_lift, outcome_bind_lift]
    cases p.arguments ws with
    | error e => rfl
    | ok args => exact sh.outcome_carryOut hd (hping p hres) args

theorem outcome_run (hd : net.device? name = net'.device? name)
    (hping : ∀ d, net.device? name = some d → ¬sh.Pings d line) :
    ((sh.run name line).apply net).1 = ((sh.run name line).apply net').1 := by
  cases hnet : net.device? name with
  | none =>
    have hmode := modeOf_of_none hnet
    have hmode' := modeOf_of_none (hd.symm.trans hnet)
    unfold run
    split
    · rfl
    · rw [apply_bind_error hmode, apply_bind_error hmode']
    · rw [apply_bind_error hmode, apply_bind_error hmode']
  | some d =>
    have hmode := modeOf_of_some hnet
    have hmode' := modeOf_of_some (hd.symm.trans hnet)
    unfold run
    split
    · rfl
    · rw [apply_bind_ok hmode, apply_bind_ok hmode']
      rfl
    · next ws hline =>
      rw [apply_bind_ok hmode, apply_bind_ok hmode']
      apply sh.outcome_command hd
      rintro p hres ⟨hm, ha⟩
      exact hping d hnet ⟨hm, ws, p, hline, hm ▸ hres, ha⟩

def stepsOn (name : String) (steps : List (String × String)) : List (String × String) :=
  steps.filter (·.1 == name)

theorem linesFor_stepsOn (name : String) (steps : List (String × String)) :
    linesFor name (stepsOn name steps) = linesFor name steps := by
  simp [linesFor, stepsOn]

theorem device?_after_stepsOn (steps : List (String × String)) (net : Network) (name : String) :
    (sh.after (stepsOn name steps) net).device? name = (sh.after steps net).device? name := by
  rw [device?_after, device?_after, linesFor_stepsOn]

theorem after_congr (hnet : net.names.Nodup) {steps steps' : List (String × String)}
    (h : ∀ d ∈ net.devices, linesFor d.name steps' = linesFor d.name steps) :
    sh.after steps' net = sh.after steps net := by
  have hnames := names_after sh steps net
  apply Network.eq_of_device? (hnames ▸ hnet)
  · rw [names_after, names_after]
  · rw [links_after, links_after]
  · intro e he
    have hname : e.name ∈ net.names := hnames ▸ List.mem_map_of_mem he
    obtain ⟨d, hd, hde⟩ := List.mem_map.mp hname
    rw [← Network.device?_of_mem (hnames ▸ hnet) he, device?_after, device?_after, ← hde, h d hd]

theorem replies_at (earlier : List (String × String)) (name line : String)
    (later : List (String × String)) (net : Network) :
    (sh.replies (earlier ++ (name, line) :: later) net)[earlier.length]? =
      some ((sh.run name line).apply (sh.after earlier net)).1 := by
  induction earlier generalizing net with
  | nil =>
    rw [List.nil_append, replies_cons, List.length_nil, List.getElem?_cons_zero, after,
      List.foldl_nil]
  | cons s earlier ih =>
    obtain ⟨device, text⟩ := s
    rw [List.cons_append, replies_cons, List.length_cons, List.getElem?_cons_succ, ih, after_cons]

theorem stepsOn_split (earlier : List (String × String)) (name line : String)
    (later : List (String × String)) :
    stepsOn name (earlier ++ (name, line) :: later) =
      stepsOn name earlier ++ (name, line) :: stepsOn name later := by
  simp [stepsOn]

theorem interleaving_independent (hnet : net.names.Nodup) (steps : List (String × String)) :
    (∀ d ∈ net.devices,
      (∃ e, (sh.after steps net).device? d.name = some e ∧
        (sh.after (stepsOn d.name steps) net).device? d.name = some e) ∧
      ∀ earlier line later, steps = earlier ++ (d.name, line) :: later →
        (∃ r, (sh.replies steps net)[earlier.length]? = some r ∧
          (sh.replies (stepsOn d.name steps) net)[(stepsOn d.name earlier).length]? = some r) ∨
        ∃ e, (sh.after earlier net).device? d.name = some e ∧ sh.Pings e line) ∧
    ∀ steps', (∀ d ∈ net.devices, linesFor d.name steps' = linesFor d.name steps) →
      sh.after steps' net = sh.after steps net := by
  refine ⟨fun d hd => ⟨?_, ?_⟩, fun steps' h => sh.after_congr hnet h⟩
  · rw [device?_after_stepsOn, device?_after, Network.device?_of_mem hnet hd]
    exact ⟨_, rfl, rfl⟩
  · rintro earlier line later rfl
    -- before this line the device is the same in both runs, and only a ping looks beyond it
    by_cases hping : ∃ e, (sh.after earlier net).device? d.name = some e ∧ sh.Pings e line
    · exact .inr hping
    · have halone := sh.device?_after_stepsOn earlier net d.name
      have hsame : ((sh.run d.name line).apply (sh.after earlier net)).1 =
          ((sh.run d.name line).apply (sh.after (stepsOn d.name earlier) net)).1 :=
        sh.outcome_run halone.symm fun e he hp => hping ⟨e, he, hp⟩
      rw [stepsOn_split, replies_at, replies_at, hsame]
      exact .inl ⟨_, rfl, rfl⟩

theorem interleaving_independent_two_routers :
    let net : Network := { devices := [.new "R1" .router, .new "R2" .router] }
    let turns := [("R1", "enable"), ("R2", "enable"), ("R2", "conf t"), ("R1", "host Edge"),
      ("R2", "host Core"), ("R1", "ping 10.0.0.1")]
    let blocks := [("R2", "enable"), ("R2", "conf t"), ("R2", "host Core"), ("R1", "enable"),
      ("R1", "host Edge"), ("R1", "ping 10.0.0.1")]
    net.names.Nodup ∧ Device.new "R1" .router ∈ net.devices ∧
    (∀ d ∈ net.devices, linesFor d.name blocks = linesFor d.name turns) ∧
    ({} : Shell).after blocks net = ({} : Shell).after turns net ∧
    (({} : Shell).replies turns net)[3]? =
      (({} : Shell).replies (stepsOn "R1" turns) net)[1]? := by
  intro net turns blocks
  have hnet : net.names.Nodup := by decide
  have hmem : Device.new "R1" .router ∈ net.devices := by decide
  have hlines : ∀ d ∈ net.devices, linesFor d.name blocks = linesFor d.name turns := by decide
  obtain ⟨hdevices, hblocks⟩ := interleaving_independent {} hnet turns
  refine ⟨hnet, hmem, hlines, hblocks blocks hlines, ?_⟩
  rcases (hdevices _ hmem).2 (turns.take 3) "host Edge" (turns.drop 4) rfl with
    ⟨r, hall, halone⟩ | ⟨e, _, hping⟩
  · exact hall.trans halone.symm
  · obtain ⟨ws, p, hline, hres, haction⟩ := hping.read
    have hws : ws = ["host", "Edge"] := by
      have hread : Request.ofLine "host Edge" = .command ["host", "Edge"] := by decide
      exact (Request.command.inj (hread.symm.trans hline)).symm
    subst hws
    cases hres
    cases haction

end Shell

end RouterLab
