import RouterLab.Proofs.Console.Call
import RouterLab.Proofs.Lab.Build
import RouterLab.Proofs.Shell.Refusal

namespace RouterLab.Console

/-- What a call leaves attached, given what was attached before.  Only names that the network has
can be attached to. -/
def Call.target (net : Network) : Call → Option String → Option String
  | .attach device, attached => if net.has device then some device else attached
  | _, attached => attached

structure Sound (c : Console) : Prop where
  distinct : c.seated.Nodup
  known : ∀ device ∈ c.seated, c.network.has device = true
  in_list : ∀ i, c.attached = some i → i < c.seated.length

variable {c : Console} {s : Session}

theorem lt_of_session? (h : c.session?.isSome = true) {i : Nat} (hi : c.attached = some i) :
    i < c.seated.length := by
  obtain ⟨s, hs⟩ := Option.isSome_iff_exists.mp h
  obtain ⟨j, hj, hget⟩ := session?_eq_some_iff.mp hs
  obtain ⟨hlt, _⟩ := List.getElem?_eq_some_iff.mp hget
  rw [hi] at hj
  cases hj
  simpa [seated] using hlt

theorem Sound.attached_iff (h : Sound c) :
    c.attached.isSome = true ↔ c.session?.isSome = true := by
  cases hi : c.attached with
  | none => simp [session?, hi]
  | some i =>
    have hlt : i < c.sessions.length := by simpa [seated] using h.in_list i hi
    simp [session?, hi, hlt]

theorem sound_new (net : Network) (sh : Shell) (limit : Nat) : Sound (new net sh limit) := by
  refine ⟨.nil, ?_, ?_⟩
  · intro device hd
    cases hd
  · intro i hi
    cases hi

theorem Sound.withNetwork (h : Sound c) {net : Network} (hnet : net.names = c.network.names) :
    Sound (c.withNetwork net) :=
  ⟨h.distinct, fun device hd => (Network.has_congr hnet device).trans (h.known device hd),
    h.in_list⟩

theorem Sound.withSession (h : Sound c) (hs : c.session? = some s) {s' : Session}
    (hdevice : s'.device = s.device) : Sound (c.withSession s') := by
  have hseated := seated_withSession hs hdevice
  refine ⟨hseated ▸ h.distinct, ?_, ?_⟩
  · rw [hseated, network_withSession]
    exact h.known
  · rw [hseated, attached_withSession]
    exact h.in_list

theorem Sound.turnTo (h : Sound c) {device : String} (hd : c.network.has device = true) :
    Sound (c.turnTo device) := by
  have hattached := attached?_turnTo c device
  have hin : (c.turnTo device).session?.isSome = true := by
    cases hs : (c.turnTo device).session? with
    | none => simp [attached?, hs] at hattached
    | some s => rfl
  refine ⟨?_, ?_, fun i => lt_of_session? hin⟩
  · rw [seated_turnTo]
    split
    · exact h.distinct
    · next hmem =>
      rw [List.nodup_append]
      refine ⟨h.distinct, List.pairwise_singleton _ device, ?_⟩
      rintro a ha b hb rfl
      exact hmem (List.mem_singleton.mp hb ▸ ha)
  · intro a ha
    rw [network_turnTo]
    rw [seated_turnTo] at ha
    split at ha
    · exact h.known a ha
    · rcases List.mem_append.mp ha with hold | hnew
      · exact h.known a hold
      · exact List.mem_singleton.mp hnew ▸ hd

namespace Change

variable {k : Call} {e : Console}

theorem network (h : Change c k e) : e.network = k.network c.shell c.attached? c.network := by
  cases h with
  | unknown hd => simp [Call.network, Network.update, hd]
  | turn hd =>
    rw [network_turnTo]
    simp [Call.network, Network.update, hd, withNetwork]
  | detached hk hs =>
    cases k with
    | attach device => exact absurd rfl (hk device)
    | submit => rw [attached?_of_none hs, Call.network]
    | _ => rfl
  | session _ hs =>
    rw [network_withSession, attached?_of_session? hs, withNetwork]

theorem names (h : Change c k e) : e.network.names = c.network.names := by
  rw [h.network, Call.names_network]

theorem shell (h : Change c k e) : e.shell = c.shell := by
  cases h with
  | unknown | detached => rfl
  | turn => exact shell_turnTo _ _
  | session => exact shell_withSession _ _

theorem historyLimit (h : Change c k e) : e.historyLimit = c.historyLimit := by
  cases h with
  | unknown | detached => rfl
  | turn => exact historyLimit_turnTo _ _
  | session => exact historyLimit_withSession _ _

theorem sound (h : Change c k e) (hc : Sound c) : Sound e := by
  cases h with
  | unknown | detached => exact hc
  | @turn device d hd =>
    have hnames := Network.names_put c.network d.toUser
    have hhas := Network.has_of_some hd
    exact (hc.withNetwork hnames).turnTo ((Network.has_congr hnames device).trans hhas)
  | session _ hs =>
    exact (hc.withNetwork (k.names_network _ _ _)).withSession hs (k.device_session _)

theorem attached? (h : Change c k e) : e.attached? = k.target c.network c.attached? := by
  cases h with
  | unknown hd => simp [Call.target, Network.has_of_none hd]
  | turn hd => rw [attached?_turnTo, Call.target, if_pos (Network.has_of_some hd)]
  | detached hk =>
    cases k with
    | attach device => exact absurd rfl (hk device)
    | _ => rfl
  | @session k s hk hs =>
    have hnet (net : Network) : (c.withNetwork net).session? = some s := hs
    rw [Console.attached?, session?_withSession (hnet _), Option.map_some, k.device_session,
      attached?_of_session? hs]
    cases k with
    | attach device => exact absurd rfl (hk device)
    | _ => rfl

end Change

theorem kept_after {α : Type} {g : Network → α}
    (hg : ∀ (k : Call) sh attached net, g (k.network sh attached net) = g net) (c : Console)
    (ks : List Call) : g (c.after ks).network = g c.network := by
  induction ks generalizing c with
  | nil => rfl
  | cons k ks ih => rw [after_cons, ih, (change_call c k).network, hg]

theorem names_after (c : Console) (ks : List Call) :
    (c.after ks).network.names = c.network.names :=
  kept_after Call.names_network c ks

theorem shell_after (c : Console) (ks : List Call) : (c.after ks).shell = c.shell := by
  induction ks generalizing c with
  | nil => rfl
  | cons k ks ih => rw [after_cons, ih, (change_call c k).shell]

theorem Sound.after (h : Sound c) (ks : List Call) : Sound (c.after ks) := by
  induction ks generalizing c with
  | nil => exact h
  | cons k ks ih => exact ih ((change_call c k).sound h)

theorem target_congr {net net' : Network} (h : net'.names = net.names) :
    Call.target net' = Call.target net := by
  funext k attached
  cases k with
  | attach device => simp only [Call.target, Network.has_congr h]
  | _ => rfl

theorem attached?_after (c : Console) (ks : List Call) :
    (c.after ks).attached? =
      ks.foldl (fun attached k => k.target c.network attached) c.attached? := by
  induction ks generalizing c with
  | nil => rfl
  | cons k ks ih =>
    have hchange := change_call c k
    rw [after_cons, ih, target_congr hchange.names, hchange.attached?, List.foldl_cons]

theorem isSome_attached? (c : Console) : c.attached?.isSome = c.session?.isSome :=
  Option.isSome_map

theorem attached_after_of_attached (h : c.attached?.isSome = true) (ks : List Call) :
    (c.after ks).attached?.isSome = true := by
  induction ks generalizing c with
  | nil => exact h
  | cons k ks ih =>
    apply ih
    rw [(change_call c k).attached?]
    cases k with
    | attach device =>
      simp only [Call.target]
      split
      · rfl
      · exact h
    | _ => exact h

theorem detached_after_of_no_device (hnet : c.network.names = []) (h : c.attached? = none)
    (ks : List Call) : (c.after ks).attached? = none := by
  induction ks generalizing c with
  | nil => exact h
  | cons k ks ih =>
    have hchange := change_call c k
    apply ih (hchange.names.trans hnet)
    rw [hchange.attached?]
    cases k with
    | attach device =>
      have hhas : c.network.has device = false := by
        rw [Bool.eq_false_iff]
        intro hd
        have hmem := Network.has_iff.mp hd
        rw [hnet] at hmem
        cases hmem
      simp [Call.target, hhas, h]
    | _ => exact h

/-- What the attached device is asked for is done, and no line is refused for want of a device. -/
structure Serves (c : Console) : Prop where
  submit : ∀ line, ∃ s, c.session? = some s ∧
    ((Console.submit line).apply c).1 = .ok (c.shell.reply s.device line c.network).1 ∧
    ∀ device, ((c.shell.run s.device line).apply c.network).1 ≠ .error (.noDevice device)
  complete : ∀ text, ∃ r, ((Console.complete text).apply c).1 = .ok r
  older : ∃ r, (Console.older.apply c).1 = .ok r
  newer : ∃ r, (Console.newer.apply c).1 = .ok r
  prompt : ∃ r, (Console.prompt.apply c).1 = .ok r

structure Refuses (c : Console) : Prop where
  submit : ∀ line, ((Console.submit line).apply c).1 = .error .notAttached
  complete : ∀ text, ((Console.complete text).apply c).1 = .error .notAttached
  older : (Console.older.apply c).1 = .error .notAttached
  newer : (Console.newer.apply c).1 = .error .notAttached
  prompt : (Console.prompt.apply c).1 = .error .notAttached

theorem refuses_of_detached (h : c.session? = none) : Refuses c where
  submit _ := congrArg Prod.fst (apply_require_of_none h _)
  complete _ := congrArg Prod.fst (apply_require_of_none h _)
  older := congrArg Prod.fst (apply_require_of_none h _)
  newer := congrArg Prod.fst (apply_require_of_none h _)
  prompt := congrArg Prod.fst (apply_require_of_none h _)

theorem Sound.serves (h : Sound c) (hattached : c.session?.isSome = true) : Serves c := by
  obtain ⟨s, hs⟩ := Option.isSome_iff_exists.mp hattached
  have hhas : c.network.has s.device = true :=
    h.known s.device (List.mem_map_of_mem (mem_sessions hs))
  obtain ⟨d, hd⟩ := Option.isSome_iff_exists.mp hhas
  constructor
  · intro line
    refine ⟨s, hs, congrArg Prod.fst (apply_submit hs line), ?_⟩
    intro device hrefused
    exact Shell.onDevice_of_run hd hrefused device rfl
  · intro text
    exact ⟨_, congrArg Prod.fst (apply_complete hs text)⟩
  · exact ⟨_, congrArg Prod.fst (apply_older hs)⟩
  · exact ⟨_, congrArg Prod.fst (apply_newer hs)⟩
  · exact ⟨_, congrArg Prod.fst (apply_prompt hs)⟩

end RouterLab.Console

namespace RouterLab.Lab

open Console (Call)

def opening (lab : Lab) : Console :=
  (Console.new lab.build lab.shell lab.settings.historyLimit).after
    (lab.nodeNames.head?.toList.map Call.attach)

theorem has_build {lab : Lab} {device : String} :
    lab.build.has device = true ↔ device ∈ lab.nodeNames := by
  rw [Network.has_iff, mem_names_build]

theorem console_eq (lab : Lab) : lab.console = .ok lab.opening := by
  cases hnodes : lab.nodes with
  | nil => simp [console, opening, hnodes, nodeNames, Console.after]
  | cons n nodes =>
    have hhas : lab.build.has n.name = true := has_build.mpr (by simp [nodeNames, hnodes])
    obtain ⟨d, hd⟩ := Option.isSome_iff_exists.mp hhas
    let c := Console.new lab.build lab.shell lab.settings.historyLimit
    have hattach := Console.apply_attach_of_some (c := c) hd
    have hcall := Console.call_attach_of_some (c := c) hd
    simp only [console, hnodes, hattach, opening, nodeNames, List.map_cons, List.head?_cons,
      Option.toList_some, List.map_nil, Console.after_cons, hcall, c]
    rfl

theorem names_opening (lab : Lab) : lab.opening.network.names = lab.build.names :=
  Console.names_after _ _

theorem sound_opening (lab : Lab) : lab.opening.Sound :=
  (Console.sound_new _ _ _).after _

theorem attached?_opening (lab : Lab) : lab.opening.attached? = lab.nodeNames.head? := by
  rw [opening, Console.attached?_after]
  cases hnames : lab.nodeNames with
  | nil => rfl
  | cons name names =>
    have hhas : lab.build.has name = true := has_build.mpr (by simp [hnames])
    exact if_pos hhas

theorem isSome_session?_after_opening (lab : Lab) (ks : List Call) :
    (lab.opening.after ks).session?.isSome = true ↔ lab.nodes ≠ [] := by
  have hopening := lab.attached?_opening
  rw [← Console.isSome_attached?]
  cases hnodes : lab.nodes with
  | nil =>
    have hnames : lab.opening.network.names = [] := by
      simp [names_opening, List.eq_nil_iff_forall_not_mem, mem_names_build, nodeNames, hnodes]
    have hnone : lab.opening.attached? = none := by simp [hopening, nodeNames, hnodes]
    simp [Console.detached_after_of_no_device hnames hnone ks]
  | cons n nodes =>
    have hsome : lab.opening.attached?.isSome = true := by simp [hopening, nodeNames, hnodes]
    simp [Console.attached_after_of_attached hsome ks]

theorem console_safe (lab : Lab) :
    ∃ c₀, lab.console = .ok c₀ ∧ ∀ ks : List Call,
      ((c₀.after ks).attached.isSome = true ↔ lab.nodes ≠ []) ∧
      ((c₀.after ks).sessions.map (·.device)).Nodup ∧
      (∀ s ∈ (c₀.after ks).sessions, (c₀.after ks).network.has s.device = true) ∧
      (lab.nodes ≠ [] → (c₀.after ks).Serves) ∧
      (lab.nodes = [] → (c₀.after ks).Refuses) ∧
      ∀ device, ((c₀.after ks).network.has device = true ↔ device ∈ lab.nodeNames) ∧
        (device ∉ lab.nodeNames →
          (Console.attach device).apply (c₀.after ks) =
            (.error (.unknownDevice device), c₀.after ks)) := by
  refine ⟨lab.opening, lab.console_eq, fun ks => ?_⟩
  have hsound : (lab.opening.after ks).Sound := lab.sound_opening.after ks
  have hsession := lab.isSome_session?_after_opening ks
  have hhas (device : String) :
      (lab.opening.after ks).network.has device = true ↔ device ∈ lab.nodeNames := by
    rw [Network.has_iff, Console.names_after, names_opening, mem_names_build]
  refine ⟨hsound.attached_iff.trans hsession, hsound.distinct, ?_, ?_, ?_, ?_⟩
  · intro s hs
    exact hsound.known s.device (List.mem_map_of_mem hs)
  · intro hnodes
    exact hsound.serves (hsession.mpr hnodes)
  · intro hnodes
    apply Console.refuses_of_detached
    cases hs : (lab.opening.after ks).session? with
    | none => rfl
    | some s => exact absurd hnodes (hsession.mp (by simp [hs]))
  · intro device
    refine ⟨hhas device, fun hunknown => Console.apply_attach_of_none ?_⟩
    cases hd : (lab.opening.after ks).network.device? device with
    | none => rfl
    | some d => exact absurd ((hhas device).mp (Network.has_of_some hd)) hunknown

theorem console_safe_repeated_name :
    let lab : Lab :=
      { name := "twins", nodes := [{ name := "R1" }, { name := "R1", kind := .switch },
          { name := "R2" }] }
    let ks := [Call.submit "en", .attach "R2", .attach "R9", .older, .submit "sh int Fa0/1"]
    ∃ c₀, lab.console = .ok c₀ ∧ lab.nodes ≠ [] ∧ "R9" ∉ lab.nodeNames ∧
      (c₀.after ks).attached.isSome = true ∧ (c₀.after ks).Serves ∧
      (Console.attach "R9").apply (c₀.after ks) =
        (.error (.unknownDevice "R9"), c₀.after ks) ∧
      ∃ d₀, ({ lab with nodes := [] } : Lab).console = .ok d₀ ∧ (d₀.after ks).Refuses := by
  intro lab ks
  obtain ⟨c₀, hc₀, hsafe⟩ := console_safe lab
  obtain ⟨hattached, _, _, hserves, _, hdevice⟩ := hsafe ks
  obtain ⟨d₀, hd₀, hempty⟩ := console_safe { lab with nodes := [] }
  obtain ⟨_, _, _, _, hrefuses, _⟩ := hempty ks
  have hnodes : lab.nodes ≠ [] := by decide
  have hunknown : "R9" ∉ lab.nodeNames := by decide
  exact ⟨c₀, hc₀, hnodes, hunknown, hattached.mpr hnodes, hserves hnodes,
    (hdevice "R9").2 hunknown, d₀, hd₀, hrefuses rfl⟩

end RouterLab.Lab
