import RouterLab.Proofs.Network.Reachable
import RouterLab.Proofs.Repl.Frame
import RouterLab.Proofs.Repl.Recall

namespace RouterLab

open Text

def Text.Gap (s : String) : Prop :=
  ∀ c ∈ s.toList, isBlank c = true ∧ c ≠ '\n'

instance (s : String) : Decidable (Gap s) :=
  decidable_of_iff ((s.toList.all fun c => isBlank c && c != '\n') = true) (by simp [Gap])

structure Connectable (name : String) : Prop where
  ne_empty : name ≠ ""
  trimmed : Trimmed name
  unbroken : '\n' ∉ name.toList

inductive AsksFor (name : String) : String → Prop
  | intro {lead word gap trail lineEnd : String} : Gap lead → word ∈ ["connect", "c"] →
    Gap gap → gap ≠ "" → Gap trail → lineEnd ∈ ["", "\n"] →
    AsksFor name (lead ++ ":" ++ word ++ gap ++ name ++ trail ++ lineEnd)

namespace Connectable

variable {name : String}

theorem exists_concat (h : Connectable name) :
    ∃ cs c, name.toList = cs ++ [c] ∧ isBlank c = false := by
  have hne : name.toList ≠ [] := fun hnil => h.ne_empty (String.toList_eq_nil_iff.mp hnil)
  obtain ⟨cs, c, hcs⟩ := (List.eq_nil_or_concat name.toList).resolve_left hne
  rw [List.concat_eq_append] at hcs
  exact ⟨cs, c, hcs, h.trimmed.last c (by simp [hcs])⟩

theorem typed_eq (h : Connectable name) (front tail : String) :
    (Repl.typed (front ++ name ++ tail)).toList =
      front.toList ++ (name.toList ++ Repl.dropLineEnd tail.toList) := by
  obtain ⟨cs, c, hname, hc⟩ := h.exists_concat
  have hinput : (front ++ name ++ tail).toList = front.toList ++ cs ++ [c] ++ tail.toList := by
    simp [hname]
  rw [Repl.typed, String.toList_ofList, hinput, Repl.dropLineEnd_append (Repl.ends_no_line hc),
    hname]
  simp only [List.append_assoc]

theorem ofLine?_eq_connect (h : Connectable name) {line : String}
    {lead word gap trail : List Char}
    (hline : line.toList = lead ++ ':' :: (word ++ (gap ++ (name.toList ++ trail))))
    (hlead : ∀ c ∈ lead, isBlank c = true)
    (hword : String.ofList word = "connect" ∨ String.ofList word = "c")
    (hgap : ∀ c ∈ gap, isBlank c = true) (hne : gap ≠ [])
    (htrail : ∀ c ∈ trail, isBlank c = true) :
    Directive.ofLine? line = some (.connect name) := by
  have hletters : ∀ c ∈ word, isBlank c = false := by
    rw [← String.toList_ofList (l := word)]
    rcases hword with hw | hw
    · exact hw ▸ (show Word "connect" by decide).unbroken
    · exact hw ▸ (show Word "c" by decide).unbroken
  have hstart : atGap (gap ++ (name.toList ++ trail)) = true := by
    obtain ⟨b, bs, rfl⟩ := List.exists_cons_of_ne_nil hne
    exact hgap b List.mem_cons_self
  rw [Directive.ofLine?_of_word hline hlead hletters hstart, h.trimmed.trim_between hgap htrail,
    Directive.ofWord, if_pos ⟨hword, h.ne_empty⟩]

end Connectable

namespace AsksFor

variable {name input : String}

theorem isLine (h : AsksFor name input) (hname : Connectable name) : Repl.IsLine input := by
  obtain @⟨lead, word, gap, trail, lineEnd, hlead, hword, hgap, -, htrail, hend⟩ := h
  have hunbroken {s : String} (hs : Gap s) : '\n' ∉ s.toList := fun hmem => (hs _ hmem).2 rfl
  have hletters : '\n' ∉ word.toList := by
    simp only [List.mem_cons, List.not_mem_nil, or_false] at hword
    rcases hword with rfl | rfl <;> decide
  have hbody : '\n' ∉ (lead ++ ":" ++ word ++ gap ++ name ++ trail).toList := by
    simp [hunbroken hlead, hletters, hunbroken hgap, hname.unbroken, hunbroken htrail]
  rw [Repl.IsLine, String.toList_append]
  simp only [List.mem_cons, List.not_mem_nil, or_false] at hend
  rcases hend with rfl | rfl
  · rw [String.toList_empty, List.append_nil]
    exact fun hmem => hbody (List.dropLast_subset _ hmem)
  · have hfeed : ("\n" : String).toList = ['\n'] := rfl
    rwa [hfeed, List.dropLast_concat]

theorem ofLine?_typed (h : AsksFor name input) (hname : Connectable name) :
    Directive.ofLine? (Repl.typed input) = some (.connect name) := by
  obtain @⟨lead, word, gap, trail, lineEnd, hlead, hword, hgap, hne, htrail, hend⟩ := h
  have hline : (Repl.typed (lead ++ ":" ++ word ++ gap ++ name ++ trail ++ lineEnd)).toList =
      lead.toList ++ ':' :: (word.toList ++ (gap.toList ++
        (name.toList ++ Repl.dropLineEnd (trail ++ lineEnd).toList))) := by
    rw [String.append_assoc, hname.typed_eq]
    simp
  have htail : ∀ c ∈ Repl.dropLineEnd (trail ++ lineEnd).toList, isBlank c = true := by
    intro c hc
    have hmem : c ∈ trail.toList ++ lineEnd.toList := by
      rw [← String.toList_append]
      exact (List.rdropWhile_prefix _ _).subset hc
    rcases List.mem_append.mp hmem with hc | hc
    · exact (htrail c hc).1
    · simp only [List.mem_cons, List.not_mem_nil, or_false] at hend
      rcases hend with rfl | rfl
      · simp at hc
      · obtain rfl : c = '\n' := by simpa using hc
        decide
  exact hname.ofLine?_eq_connect hline (fun c hc => (hlead c hc).1) (by simpa using hword)
    (fun c hc => (hgap c hc).1) (fun hnil => hne (String.toList_eq_nil_iff.mp hnil)) htail

end AsksFor

namespace Repl

-- a step is known by `enter_of_some` alone
attribute [local irreducible] enter

variable {r : Repl} {d : Device}

theorem prompt_turnTo {c : Console} (hd : c.network.device? d.name = some d) :
    (Console.prompt.apply ((c.withNetwork (c.network.put d.toUser)).turnTo d.name)).1 =
      .ok (d.hostname ++ ">") := by
  have hattached := Console.attached?_turnTo (c.withNetwork (c.network.put d.toUser)) d.name
  obtain ⟨s, hs, hdevice⟩ := Option.map_eq_some_iff.mp hattached
  have hfound : (c.network.put d.toUser).device? d.name = some d.toUser := by
    rw [Network.device?_put, if_pos (show d.name = d.toUser.name from rfl), hd, Option.map_some]
  rw [Console.apply_prompt hs, Console.network_turnTo, Console.withNetwork, Session.prompt,
    hdevice, hfound]
  rfl

theorem enter_connect (hd : r.console.network.device? d.name = some d)
    (hname : Connectable d.name) {input : String} (hinput : AsksFor d.name input) :
    r.enter input =
      ("Connected to " ++ d.name ++ "\n",
        { r with
          console :=
            (r.console.withNetwork (r.console.network.put d.toUser)).turnTo d.name
          pending := "" },
        .goOn) := by
  have hread := hinput.ofLine?_typed hname
  have hline : Directive.ofLine? (lineOf r.pending (typed input)) = some (.connect d.name) := by
    rw [lineOf_of_some hread, hread]
  have hprinted : printed ("Connected to " ++ d.name) = "Connected to " ++ d.name ++ "\n" := by
    simp [printed]
  rw [enter_of_some hline, direct, Directive.apply_run_connect_of_some r.lab hd]
  simp only [hprinted]

theorem connect_attaches (lab : Lab) :
    (∃ r₀, start lab = .ok r₀ ∧
      ∀ inputs, (∀ input ∈ inputs, IsLine input) → ∀ pending,
        let r := { (r₀.dialogue inputs).2.1 with pending }
        ∀ d ∈ r.console.network.devices, Connectable d.name →
          ∀ input, AsksFor d.name input → IsLine input ∧
            ∃ r', r.enter input = ("Connected to " ++ d.name ++ "\n", r', .goOn) ∧
              r.console.TurnsTo d.name r'.console ∧ r'.pending = "" ∧
              (Console.prompt.apply r'.console).1 = .ok (d.hostname ++ ">") ∧
              r'.promptText = d.hostname ++ "> ") ∧
    ∀ line, Directive.ofLine? line = none ↔
      (line.toList.find? fun c => !isBlank c) ≠ some ':' := by
  refine ⟨⟨_, start_eq lab, ?_⟩, fun line => Directive.ofLine?_eq_none_iff_find?⟩
  intro inputs hlines pending r d hmem hname input hinput
  have hsound : Sound lab ({ lab, console := lab.opening : Repl }.dialogue inputs).2.1 :=
    (sound_opening lab).dialogue hlines
  obtain ⟨ks, hks⟩ := hsound.reached
  have hnodup : r.console.network.names.Nodup := by
    change (Repl.dialogue _ inputs).2.1.console.network.names.Nodup
    rw [hks, Console.names_after, Lab.names_opening]
    exact lab.nodup_names_build
  have hd := Network.device?_of_mem hnodup hmem
  have hprompt := prompt_turnTo hd
  refine ⟨hinput.isLine hname, _, enter_connect hd hname hinput,
    Console.turnsTo_of_device? hd, rfl, hprompt, ?_⟩
  rw [promptText, hprompt]
  simp [String.append_assoc]

theorem connect_attaches_inner_colon :
    let lab : Lab := { name := "two", nodes := [{ name := "core: R 1" }, { name := "R2" }] }
    let inputs := ["en\n", "ho Edge\n", ":c R2\n"]
    let input := "\u3000:connect\u00a0core: R 1\t\r\n"
    (∀ i ∈ inputs, IsLine i) ∧ Connectable "core: R 1" ∧ AsksFor "core: R 1" input ∧
    (∃ r₀ r', start lab = .ok r₀ ∧
      { (r₀.dialogue inputs).2.1 with pending := "sh ru" }.enter input =
        ("Connected to core: R 1\n", r', .goOn) ∧
      r'.console.attached? = some "core: R 1" ∧ r'.promptText = "Edge> ") ∧
    Directive.ofLine? " \u2028" = none := by
  intro lab inputs input
  have hlines : ∀ i ∈ inputs, IsLine i := by decide
  have hname : Connectable "core: R 1" := by
    refine ⟨by decide, ⟨?_, ?_⟩, by decide⟩
    · rintro c ⟨⟩
      decide
    · rintro c ⟨⟩
      decide
  have hgap : Gap "\u3000" ∧ Gap "\u00a0" ∧ Gap "\t\r" := by decide
  have hparts : "\u3000" ++ ":" ++ "connect" ++ "\u00a0" ++ "core: R 1" ++ "\t\r" ++ "\n" =
      input := by decide
  have hinput : AsksFor "core: R 1" input := by
    rw [← hparts]
    exact .intro hgap.1 (by decide) hgap.2.1 (by decide) hgap.2.2 (by decide)
  obtain ⟨⟨r₀, hr₀, hstate⟩, hread⟩ := connect_attaches lab
  have hdevice : ∃ d ∈ (r₀.dialogue inputs).2.1.console.network.devices,
      d.name = "core: R 1" ∧ d.hostname = "Edge" := by
    rw [start_eq] at hr₀
    cases hr₀
    decide +kernel
  obtain ⟨d, hmem, hd, hhost⟩ := hdevice
  rw [← hd] at hname hinput
  obtain ⟨-, r', henter, hturns, -, -, hprompt⟩ :=
    hstate inputs hlines "sh ru" d hmem hname input hinput
  have hattached := hturns.attached?
  rw [hd] at hname hinput henter hattached
  rw [hhost] at hprompt
  exact ⟨hlines, hname, hinput, ⟨r₀, r', hr₀, henter, hattached, hprompt⟩,
    (hread _).mpr (by decide)⟩

end Repl

end RouterLab
