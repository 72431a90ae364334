import RouterLab.Proofs.Device.Table
import RouterLab.Proofs.Grammar.Agreement
import RouterLab.Proofs.Lab.Build
import RouterLab.Proofs.Shell.Provenance

namespace RouterLab

open Text
open Op

namespace Text

def Marked (s : String) : Prop :=
  s.toList.head? = some '%'

instance (s : String) : Decidable (Marked s) :=
  inferInstanceAs (Decidable (s.toList.head? = some '%'))

theorem marked_append {s : String} (hs : s ≠ "") (t : String) :
    Marked (s ++ t) ↔ Marked s := by
  have hne : s.toList ≠ [] := fun h => hs (by simpa using h)
  rw [Marked, Marked, String.toList_append, List.head?_append_of_ne_nil _ hne]

theorem marked_intercalate {s : String} (hs : s ≠ "") (sep : String) (ss : List String) :
    Marked (sep.intercalate (s :: ss)) ↔ Marked s := by
  have hfirst : sep.intercalate (s :: ss) = s ++ sep.intercalate ("" :: ss) := by
    rw [← String.intercalate_cons_append, String.append_empty]
  rw [hfirst, marked_append hs]

end Text

theorem CommandError.marked_message (e : CommandError) : Marked e.message := by
  cases e with
  | invalidTarget what => exact (marked_append (by decide) what).mpr (by decide)
  | _ => decide

inductive Interface.Tells (i : Interface) : String → Prop
  | up : Tells i (i.name ++ " is now up")
  | down : Tells i (i.name ++ " is now administratively down")
  | described : Tells i (Device.describe i)

def Device.MarksOnly (d : Device) (text : String) : Prop :=
  Marked text → ∃ i ∈ d.interfaces, i.Tells text

theorem Device.marksOnly_of_not_marked {d : Device} {text : String} (h : ¬Marked text) :
    d.MarksOnly text := fun hmarked => absurd hmarked h

namespace Op

variable {σ ε α β : Type} {P : β → Prop}

def AnswersOnly (P : β → Prop) (x : Op σ ε β) : Prop :=
  ∀ s b, (x.apply s).1 = .ok b → P b

theorem answersOnly_pure {b : β} (h : P b) : AnswersOnly P (pure b : Op σ ε β) := by
  rintro s _ ⟨⟩
  exact h

theorem answersOnly_bind {x : Op σ ε α} {f : α → Op σ ε β} (hf : ∀ a, AnswersOnly P (f a)) :
    AnswersOnly P (x >>= f) := by
  intro s b h
  rcases hx : x.apply s with ⟨_ | a, t⟩
  · rw [apply_bind_error hx] at h
    cases h
  · rw [apply_bind_ok hx] at h
    exact hf a t b h

end Op

namespace Device

variable {d : Device} {text : String}

theorem not_marked_briefTable (d : Device) : ¬Marked d.briefTable := by
  have hhead : Row.line briefHeader ≠ "" := by decide
  rw [briefTable, List.map_cons, unlines, marked_intercalate hhead]
  decide

theorem not_marked_runningConfig (d : Device) : ¬Marked d.runningConfig := by
  have hne (t : String) : "hostname " ++ t ≠ "" := by simp
  rw [runningConfig, configLines, unlines, marked_intercalate (hne _), marked_append (by decide)]
  decide

theorem tells_showInterface {name : String} (h : d.showInterface name = .ok text) :
    ∃ i ∈ d.interfaces, i.Tells text := by
  unfold showInterface at h
  split at h
  · next i hi =>
    cases h
    exact ⟨i, List.mem_of_find?_eq_some hi, .described⟩
  · cases h

theorem mem_of_active? {i : Interface} (h : d.active? = some i) : i ∈ d.interfaces := by
  obtain ⟨p, -, hget⟩ := Option.bind_eq_some_iff.mp h
  exact List.mem_of_getElem? hget

theorem answer_of_setUp {up : Bool} {answer : String → String}
    (h : ((setUp up >>= fun _ => activeName >>= fun name => pure (answer name)).apply d).1 =
      .ok text) :
    ∃ i ∈ d.interfaces, text = answer i.name := by
  have happly := apply_modifyActive (fun i => { i with up }) d
  cases hd : d.active? with
  | none =>
    rw [hd] at happly
    rw [setUp, apply_bind_error happly] at h
    cases h
  | some i =>
    have hname := apply_activeName (d.onActive fun i => { i with up })
    rw [hd] at happly
    rw [active?_onActive, hd] at hname
    rw [setUp, apply_bind_ok happly, apply_bind_ok hname] at h
    cases h
    exact ⟨i, mem_of_active? hd, rfl⟩

end Device

namespace Shell

variable {sh : Shell} {net : Network} {device line text : String} {d : Device}

theorem marksOnly_perform {m : Mode} {a : Action} {args : List String}
    (h : ((sh.perform args m a).apply d).1 = .ok text) : d.MarksOnly text := by
  have hplain {x : Device.Op String} (hx : AnswersOnly (¬Marked ·) x)
      (hok : (x.apply d).1 = .ok text) : d.MarksOnly text :=
    Device.marksOnly_of_not_marked (hx d text hok)
  have hfixed (f : Device → Device) {answer : String} (hanswer : ¬Marked answer) :
      AnswersOnly (¬Marked ·) (do modify f; return answer : Device.Op String) :=
    answersOnly_bind fun _ => answersOnly_pure hanswer
  have hsaid {s : String} (hs : s ≠ "" ∧ ¬Marked s) (t : String) :
      AnswersOnly (¬Marked ·) (pure (s ++ t) : Device.Op String) :=
    answersOnly_pure ((marked_append hs.1 t).not.mpr hs.2)
  have hrename : AnswersOnly (¬Marked ·) (do
      let name ← first args
      modify (·.rename name)
      return "" : Device.Op String) :=
    answersOnly_bind fun _ => hfixed _ (by decide)
  have hactive (up : Bool) {answer : String → String}
      (htells : ∀ i : Interface, i.Tells (answer i.name))
      (hok : ((Device.setUp up >>= fun _ => Device.activeName >>= fun name =>
        pure (answer name)).apply d).1 = .ok text) : d.MarksOnly text := by
    obtain ⟨i, hi, rfl⟩ := Device.answer_of_setUp hok
    exact fun _ => ⟨i, hi, htells i⟩
  cases m with
  | user =>
    cases a with
    | enable => exact hplain (hfixed _ (by decide)) h
    | _ => cases h
  | privileged =>
    cases a with
    | disable | exit | configureTerminal => exact hplain (hfixed _ (by decide)) h
    | showIpInterfaceBrief =>
      exact hplain (answersOnly_bind fun d => answersOnly_pure d.not_marked_briefTable) h
    | showRunningConfig =>
      exact hplain (answersOnly_bind fun d => answersOnly_pure d.not_marked_runningConfig) h
    | showInterface =>
      cases args with
      | nil => cases h
      | cons name args => exact fun _ => Device.tells_showInterface h
    | hostname => exact hplain hrename h
    | _ => cases h
  | globalConfig =>
    cases a with
    | hostname => exact hplain hrename h
    | interface =>
      refine hplain (answersOnly_bind fun name => answersOnly_bind fun _ =>
        answersOnly_bind fun name => ?_) h
      rw [String.append_assoc]
      exact hsaid (by decide) _
    | exit | endConfig => exact hplain (hfixed _ (by decide)) h
    | _ => cases h
  | interfaceConfig =>
    cases a with
    | ipAddress =>
      refine hplain (answersOnly_bind fun _ => answersOnly_bind fun _ => answersOnly_bind fun _ =>
        answersOnly_bind fun _ => ?_) h
      rw [String.append_assoc, String.append_assoc]
      exact hsaid (by decide) _
    | noIpAddress =>
      exact hplain (answersOnly_bind fun _ => answersOnly_bind fun name => hsaid (by decide) _) h
    | noShutdown => exact hactive true (fun _ => .up) h
    | shutdown => exact hactive false (fun _ => .down) h
    | exit | endConfig => exact hplain (hfixed _ (by decide)) h
    | _ => cases h

theorem not_marked_ping (reply : PingReply) : ¬Marked reply.text := by
  cases reply with
  | reply a =>
    rw [PingReply.text, String.append_assoc, marked_append (by decide)]
    decide
  | unreachable a =>
    rw [PingReply.text, String.append_assoc, marked_append (by decide)]
    decide

theorem standard_not_marked (m : Mode) :
    ∀ p ∈ Grammar.standard.paths m, ∀ t ∈ p.tokens, t.text ≠ "" ∧ ¬Marked t.text := by
  cases m <;> decide

theorem not_marked_help (hsh : sh.grammar = .standard) (m : Mode) (ws : List String) :
    ¬Marked (sh.help m ws) := by
  rw [help, hsh]
  split
  · decide
  · next s ss hsuggestions =>
    have hmem : s ∈ Grammar.standard.suggestions m ws := by simp [hsuggestions]
    obtain ⟨p, hp, hnext⟩ := Grammar.mem_suggestions.mp hmem
    obtain ⟨-, t, ht, rfl⟩ := Path.next?_eq_some_iff.mp hnext
    obtain ⟨hne, hplain⟩ := standard_not_marked m p hp t (List.mem_of_getElem? ht)
    rwa [unwords, marked_intercalate hne]

theorem marksOnly_carryOut (hd : net.device? device = some d) {m : Mode} {a : Action}
    {args : List String} (h : ((sh.carryOut device m a args).apply net).1 = .ok text) :
    d.MarksOnly text := by
  unfold carryOut at h
  split at h
  · have hping : AnswersOnly (¬Marked ·) (do
        let address ← address (← first args)
        return ((← get).ping device address).text : Network.Op String) :=
      answersOnly_bind fun _ => answersOnly_bind fun _ => answersOnly_bind fun _ =>
        answersOnly_pure (not_marked_ping _)
    exact Device.marksOnly_of_not_marked (hping net text h)
  · rw [Network.apply_on_of_some hd] at h
    exact marksOnly_perform h

theorem marksOnly_run (hsh : sh.grammar = .standard) (hd : net.device? device = some d)
    (h : ((sh.run device line).apply net).1 = .ok text) : d.MarksOnly text := by
  cases hline : Request.ofLine line with
  | blank =>
    simp only [run, hline] at h
    cases h
    exact Device.marksOnly_of_not_marked (by decide)
  | help ws =>
    rw [run_help sh hd hline] at h
    cases h
    exact Device.marksOnly_of_not_marked (not_marked_help hsh d.mode ws)
  | command ws =>
    rw [run_command sh hd hline, command] at h
    split at h
    · cases h
    · cases h
    · next p _ =>
      rw [outcome_bind_lift] at h
      split at h
      · exact marksOnly_carryOut hd h
      · cases h

theorem text_of_no_device (hd : net.device? device = none)
    (h : ((sh.run device line).apply net).1 = .ok text) : text = "" := by
  unfold run at h
  split at h
  · cases h
    rfl
  · rw [apply_bind_error (modeOf_of_none hd)] at h
    cases h
  · rw [apply_bind_error (modeOf_of_none hd)] at h
    cases h

end Shell

theorem Interface.Tells.marked_name {i : Interface} {text : String} (h : i.Tells text)
    (hmarked : Marked text) : Marked i.name := by
  have hbegins (rest : String) (hrest : ¬Marked rest) (htext : Marked (i.name ++ rest)) :
      Marked i.name := by
    by_cases hname : i.name = ""
    · rw [hname, String.empty_append] at htext
      exact absurd htext hrest
    · exact (marked_append hname rest).mp htext
  have hspace {s : String} (hs : s ≠ "" ∧ ¬Marked s) (rest : String) : ¬Marked (s ++ rest) :=
    (marked_append hs.1 rest).not.mpr hs.2
  cases h with
  | up => exact hbegins _ (by decide) hmarked
  | down => exact hbegins _ (by decide) hmarked
  | described =>
    rw [Device.describe, String.append_assoc, String.append_assoc, String.append_assoc] at hmarked
    exact hbegins _ (hspace (by decide) _) hmarked

theorem Lab.not_marked_build {lab : Lab}
    (h : ∀ n ∈ lab.nodes, ∀ i ∈ n.interfaces, ¬Marked i) {d : Device}
    (hd : d ∈ lab.build.devices) : ∀ i ∈ d.interfaces, ¬Marked i.name := by
  have hkind : ∀ (k : Device.Kind), ∀ i ∈ k.interfaceNames, ¬Marked i := by
    intro k
    cases k <;> decide
  obtain ⟨n, hn, rfl⟩ := Lab.mem_devices_build hd
  exact Device.forall_withInterfaces (hkind n.kind) (h n hn) n.name

namespace Shell

variable {sh : Shell}

theorem marked_reply (hsh : sh.grammar = .standard) {lab : Lab}
    (hlab : ∀ n ∈ lab.nodes, ∀ i ∈ n.interfaces, ¬Marked i) (steps : List (String × String))
    (device line : String) :
    let net := sh.after steps lab.build
    let text := (sh.reply device line net).1
    Marked text →
      (∃ e, (sh.run device line).apply net = (.error e, net)) ∨
      ∃ d i, net.device? device = some d ∧ i ∈ d.interfaces ∧ Marked i.name ∧ i.Tells text ∧
        sh.strict = false ∧ sh.Asked lab.build steps device i.name := by
  intro net text hmarked
  rcases hrun : (sh.run device line).apply net with ⟨e | answer, net'⟩
  · obtain rfl := sh.atomic_run device line net e net' hrun
    exact .inl ⟨e, rfl⟩
  · right
    have hok : ((sh.run device line).apply net).1 = .ok answer := by rw [hrun]
    have htext : text = answer := by simp only [text, reply, hrun]
    rw [htext] at hmarked ⊢
    cases hd : net.device? device with
    | none =>
      rw [text_of_no_device hd hok] at hmarked
      exact absurd hmarked (by decide)
    | some d =>
      obtain ⟨i, hi, htells⟩ := marksOnly_run hsh hd hok hmarked
      have hname := htells.marked_name hmarked
      refine ⟨d, i, rfl, hi, hname, htells, ?_⟩
      have hback := hd
      rw [device?_after] at hback
      obtain ⟨d₀, hd₀, -⟩ := Option.map_eq_some_iff.mp hback
      have hold : i.name ∉ d₀.interfaces.map (·.name) := by
        intro hmem
        obtain ⟨j, hj, hji⟩ := List.mem_map.mp hmem
        exact Lab.not_marked_build hlab (List.mem_of_find?_eq_some hd₀) j hj (hji ▸ hname)
      exact (asked_of_mem_after hd₀ hd (List.mem_map_of_mem hi)).resolve_left hold

theorem marked_success_percent_name :
    let lab : Lab := { name := "one", nodes := [{ name := "R1" }] }
    let sh : Shell := {}
    let net := sh.after [("R1", "enable"), ("R1", "configure terminal"), ("R1", "interface %x")]
      lab.build
    (∀ n ∈ lab.nodes, ¬Marked n.name ∧ ∀ i ∈ n.interfaces, ¬Marked i) ∧
    sh.grammar = .standard ∧
    Marked (sh.reply "R1" "no shutdown" net).1 ∧
    ((sh.run "R1" "no shutdown").apply net).1 = .ok "%x is now up" ∧
    (sh.reply "R1" "no shutdown" net).2 ≠ net := by
  refine ⟨?_, rfl, ?_⟩ <;> decide

theorem marked_reply_percent_name :
    let lab : Lab := { name := "one", nodes := [{ name := "R1", interfaces := ["Gig0/1"] }] }
    let sh : Shell := {}
    let strict : Shell := { strict := true }
    let configuring := [("R1", "enable"), ("R1", "conf t")]
    let steps := configuring ++ [("R1", "int %x")]
    let net := strict.after configuring lab.build
    (∀ n ∈ lab.nodes, ∀ i ∈ n.interfaces, ¬Marked i) ∧
    Marked (strict.reply "R1" "int %x" net).1 ∧
    (∃ e, (strict.run "R1" "int %x").apply net = (.error e, net)) ∧
    Marked (sh.reply "R1" "no shut" (sh.after steps lab.build)).1 ∧
    ∃ i : Interface, Marked i.name ∧
      i.Tells (sh.reply "R1" "no shut" (sh.after steps lab.build)).1 ∧
      sh.Asked lab.build steps "R1" i.name := by
  intro lab sh strict configuring steps net
  have hlab : ∀ n ∈ lab.nodes, ∀ i ∈ n.interfaces, ¬Marked i := by decide
  have hrefused : Marked (strict.reply "R1" "int %x" net).1 := by decide
  have hanswered : Marked (sh.reply "R1" "no shut" (sh.after steps lab.build)).1 := by decide
  refine ⟨hlab, hrefused, ?_, hanswered, ?_⟩
  · rcases marked_reply (show strict.grammar = .standard from rfl) hlab configuring "R1" "int %x"
      hrefused with he | ⟨_, _, -, -, -, -, hlenient, -⟩
    · exact he
    · cases hlenient
  · rcases marked_reply (show sh.grammar = .standard from rfl) hlab steps "R1" "no shut"
      hanswered with ⟨e, he⟩ | ⟨_, i, -, -, hname, htells, -, hasked⟩
    · have hok : ((sh.run "R1" "no shut").apply (sh.after steps lab.build)).1 =
          .ok "%x is now up" := by decide
      rw [he] at hok
      cases hok
    · exact ⟨i, hname, htells, hasked⟩

end Shell

end RouterLab
