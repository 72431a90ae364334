import RouterLab.Lab.Source
import RouterLab.Proofs.Console.Safety

namespace RouterLab

open Console (Call)

namespace Console

theorem Call.identities_network (k : Call) (sh : Shell) (attached : Option String)
    (net : Network) : (k.network sh attached net).identities = net.identities := by
  cases k with
  | attach device => exact Network.identities_update (fun _ => rfl) fun _ => rfl
  | submit line =>
    cases attached with
    | none => rfl
    | some device => exact sh.identities_step net (device, line)
  | _ => rfl

theorem Call.links_network (k : Call) (sh : Shell) (attached : Option String) (net : Network) :
    (k.network sh attached net).links = net.links := by
  cases k with
  | attach device => exact Network.links_update net device Device.toUser
  | submit line =>
    cases attached with
    | none => rfl
    | some device => exact sh.links_step net (device, line)
  | _ => rfl

end Console

namespace Lab

variable {lab : Lab}

theorem firstRepeat_eq_none_iff {seen ns : List String} :
    firstRepeat seen ns = none ↔ ns.Nodup ∧ ∀ n ∈ ns, n ∉ seen := by
  induction ns generalizing seen with
  | nil => simp [firstRepeat]
  | cons n ns ih =>
    by_cases hn : n ∈ seen
    · simp [firstRepeat, hn]
    · have hrest : firstRepeat seen (n :: ns) = firstRepeat (n :: seen) ns := by
        simp [firstRepeat, hn]
      rw [hrest, ih, List.nodup_cons, List.forall_mem_cons]
      simp only [List.mem_cons, not_or]
      constructor
      · rintro ⟨hnodup, hfresh⟩
        exact ⟨⟨fun hmem => (hfresh n hmem).1 rfl, hnodup⟩, hn, fun k hk => (hfresh k hk).2⟩
      · rintro ⟨⟨hmem, hnodup⟩, -, hfresh⟩
        exact ⟨hnodup, fun k hk => ⟨fun hkn => hmem (hkn ▸ hk), hfresh k hk⟩⟩

theorem linkDefect?_eq_none_iff {names : List String} {l : String × String} :
    linkDefect? names l = none ↔ l.1 ∈ names ∧ l.2 ∈ names := by
  by_cases ha : l.1 ∈ names <;> by_cases hb : l.2 ∈ names <;> simp [linkDefect?, ha, hb]

theorem taskDefect?_eq_none_iff {names : List String} {t : Task} :
    taskDefect? names t = none ↔ t.check.device ∈ names := by
  by_cases ht : t.check.device ∈ names <;> simp [taskDefect?, ht]

theorem defect?_eq_none_iff :
    lab.defect? = none ↔
      lab.nodeNames.Nodup ∧
      (∀ l ∈ lab.links, l.1 ∈ lab.nodeNames ∧ l.2 ∈ lab.nodeNames) ∧
      ∀ t ∈ lab.tasks, t.check.device ∈ lab.nodeNames := by
  simp [defect?, Option.or_eq_none_iff, firstRepeat_eq_none_iff, List.findSome?_eq_none_iff,
    linkDefect?_eq_none_iff, taskDefect?_eq_none_iff]

theorem validate_eq_ok_iff : lab.validate = .ok () ↔ lab.defect? = none := by
  cases h : lab.defect? <;> simp [validate, h]

theorem devices_foldl_add {nodes : List Node} {net : Network}
    (h : (net.names ++ nodes.map (·.name)).Nodup) :
    (nodes.foldl (fun net n => (net.add n.build).2) net).devices =
      net.devices ++ nodes.map (·.build) := by
  induction nodes generalizing net with
  | nil => simp
  | cons n nodes ih =>
    have hname : n.build.name = n.name := Device.name_withInterfaces n.name n.kind n.interfaces
    have hnew : n.build.name ∉ net.names := by
      rw [hname]
      rw [List.map_cons, List.nodup_middle, List.nodup_cons] at h
      exact fun hold => h.1 (List.mem_append_left _ hold)
    have hadd := Network.devices_add_of_not_mem hnew
    have hnames : (net.add n.build).2.names = net.names ++ [n.name] := by
      simp [Network.names, hadd, hname]
    rw [List.foldl_cons, ih (by simpa [hnames] using h), hadd, List.map_cons, List.append_assoc,
      List.singleton_append]

theorem devices_build (h : lab.nodeNames.Nodup) : lab.build.devices = lab.nodes.map (·.build) := by
  rw [build, devices_foldl_connect, devices_foldl_add (by simpa [Network.names, nodeNames] using h)]
  exact List.nil_append _

theorem identities_after_opening (lab : Lab) (ks : List Call) :
    (lab.opening.after ks).network.identities = lab.build.identities := by
  rw [Console.kept_after Console.Call.identities_network, opening,
    Console.kept_after Console.Call.identities_network]
  rfl

theorem links_after_opening (lab : Lab) (ks : List Call) :
    (lab.opening.after ks).network.links = lab.build.links := by
  rw [Console.kept_after Console.Call.links_network, opening,
    Console.kept_after Console.Call.links_network]
  rfl

theorem names_after_opening (lab : Lab) (ks : List Call) :
    (lab.opening.after ks).network.names = lab.build.names := by
  rw [Console.names_after, names_opening]

structure FoundIn (lab : Lab) (net : Network) : Prop where
  ends : ∀ l ∈ net.links, net.has l.a = true ∧ net.has l.b = true
  links : ∀ l ∈ lab.links, net.has l.1 = true ∧ net.has l.2 = true
  tasks : ∀ t ∈ lab.tasks, net.has t.check.device = true

theorem foundIn_of_defect? (h : lab.defect? = none) {net : Network}
    (hnames : net.names = lab.build.names) (hlinks : net.links = lab.build.links) :
    lab.FoundIn net := by
  obtain ⟨-, hends, htasks⟩ := defect?_eq_none_iff.mp h
  have hhas {name : String} (hmem : name ∈ lab.nodeNames) : net.has name = true :=
    (Network.has_congr hnames name).trans (has_build.mpr hmem)
  constructor
  · intro l hl
    rw [hlinks] at hl
    obtain ⟨ha, hb⟩ := hends _ (mem_links_build hl)
    exact ⟨hhas ha, hhas hb⟩
  · intro l hl
    exact ⟨hhas (hends l hl).1, hhas (hends l hl).2⟩
  · intro t ht
    exact hhas (htasks t ht)

theorem validate_ok_promises (lab : Lab) :
    (lab.validate = .ok () ↔
      lab.nodeNames.Nodup ∧
      (∀ l ∈ lab.links, l.1 ∈ lab.nodeNames ∧ l.2 ∈ lab.nodeNames) ∧
      ∀ t ∈ lab.tasks, t.check.device ∈ lab.nodeNames) ∧
    (lab.validate = .ok () →
      lab.build.devices = lab.nodes.map (·.build) ∧
      lab.FoundIn lab.build ∧
      ∃ c₀, lab.console = .ok c₀ ∧ ∀ ks : List Call,
        (c₀.after ks).network.identities = lab.build.identities ∧
        (c₀.after ks).network.links = lab.build.links ∧
        lab.FoundIn (c₀.after ks).network) := by
  refine ⟨validate_eq_ok_iff.trans defect?_eq_none_iff, fun hok => ?_⟩
  have hsound := validate_eq_ok_iff.mp hok
  refine ⟨devices_build (defect?_eq_none_iff.mp hsound).1, foundIn_of_defect? hsound rfl rfl,
    lab.opening, lab.console_eq, fun ks => ?_⟩
  have hlinks := lab.links_after_opening ks
  exact ⟨lab.identities_after_opening ks, hlinks,
    foundIn_of_defect? hsound (lab.names_after_opening ks) hlinks⟩

theorem validate_ok_promises_ring :
    let lab : Lab :=
      { name := "ring", nodes := [{ name := "R1" }, { name := "S1", kind := .switch },
          { name := "R2", interfaces := ["Gig0/1"] }]
        links := [("R1", "S1"), ("S1", "R1"), ("S1", "R2")]
        tasks := [⟨"up", .interfaceUp "S1" "Fa0/1"⟩, ⟨"ping", .reachable "R1" "10.0.0.2"⟩] }
    let ks := [Call.submit "en", .attach "R2", .submit "en", .submit "conf t", .attach "R9", .older]
    lab.validate = .ok () ∧ lab.build.devices = lab.nodes.map (·.build) ∧ lab.FoundIn lab.build ∧
      ∃ c₀, lab.console = .ok c₀ ∧
        (c₀.after ks).network.identities = [("R1", .router), ("S1", .switch), ("R2", .router)] ∧
        (c₀.after ks).network.links = [⟨"R1", "S1"⟩, ⟨"S1", "R2"⟩] ∧
        lab.FoundIn (c₀.after ks).network := by
  intro lab ks
  obtain ⟨hiff, hpromises⟩ := validate_ok_promises lab
  have hok : lab.validate = .ok () := by decide
  obtain ⟨hdevices, hfound, c₀, hc₀, hruns⟩ := hpromises hok
  obtain ⟨hidentities, hlinks, hrun⟩ := hruns ks
  exact ⟨hok, hdevices, hfound, c₀, hc₀, hidentities.trans (by decide), hlinks.trans (by decide),
    hrun⟩

end Lab

end RouterLab
