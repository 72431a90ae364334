import RouterLab.Lab.Task
import RouterLab.Proofs.Shell.Ping

/-!
The check of a task looks an address up as it is written and reads nothing into it.  It still
grades what a ping prints, since a text that a ping refuses is never stored.
-/

namespace RouterLab

open Text

theorem Network.ofString?_of_reachable {net : Network}
    (hnet : ∀ d ∈ net.devices, ∀ i ∈ d.interfaces, i.Numbered) {caller a : String}
    (h : net.reachable caller a = true) : ∃ x, Address.ofString? a = some x := by
  simp only [reachable, List.any_eq_true, List.mem_filter, Interface.answers_iff] at h
  obtain ⟨d, ⟨hd, -⟩, i, hi, -, ha⟩ := h
  exact hnet d hd i hi a ha

namespace Shell

variable {sh : Shell} {net : Network} {caller a : String} {d : Device}

theorem words_ping (a : String) : words ("ping " ++ a) = "ping" :: words a :=
  words_append_blank "ping" a (b := ' ') (by decide)

/-- Help begins with a placeholder or with the word that there is none, a reply does not. -/
theorem help_ping_ne_reply (hsh : sh.grammar = .standard) {s : String}
    (hs : ∀ c ∈ s.toList, isBlank c = false) (a : String) :
    sh.help .privileged ("ping" :: words s) ≠ (PingReply.reply a).text := by
  have hfirst {t : String} (ht : t.toList.head? ≠ some 'R') : t ≠ (PingReply.reply a).text := by
    rintro rfl
    simp [PingReply.text] at ht
  rw [words_of_unbroken hs]
  split
  · have hhelp : sh.help .privileged ["ping"] = "<ip>" := by
      simp only [help, hsh]
      decide
    exact hfirst (by rw [hhelp]; decide)
  · have hnone : Grammar.standard.suggestions .privileged ["ping", s] = [] := by
      have hread := Grammar.resolve_eq_unique_iff.mp (resolve_ping (w := "ping") rfl s)
      simp [Grammar.suggestions, hread]
    have hhelp : sh.help .privileged ["ping", s] = noFurtherOptions := by
      simp [help, hsh, hnone]
    exact hfirst (by rw [hhelp]; decide)

theorem outcome_ping_malformed (hsh : sh.grammar = .standard) (hd : net.device? caller = some d)
    (hmode : d.mode = .privileged) (ha : ∀ c ∈ a.toList, isBlank c = false)
    (hbad : Address.ofString? a = none) :
    ((sh.run caller ("ping " ++ a)).apply net).1 ≠ .ok (PingReply.reply a).text := by
  by_cases hempty : a = ""
  · subst hempty
    have hline : Request.ofLine ("ping " ++ "") = .command ["ping"] := by decide
    have hres : sh.grammar.resolve .privileged ["ping"] =
        .unique ⟨[.keyword "ping", .argument "ip"], .ping⟩ := by
      rw [hsh]
      decide
    rw [run_command sh hd hline, hmode, command, hres]
    intro h
    cases h
  · have hword : Word a := ⟨hempty, ha⟩
    have hwords : words ("ping " ++ a) = ["ping", a] := by rw [words_ping, words_eq_of_word hword]
    by_cases hasks : a.toList.getLast? = some '?'
    · have hline : Request.ofLine ("ping " ++ a) =
          .help ("ping" :: words (String.ofList a.toList.dropLast)) := by
        rw [Request.ofLine_eq_ofWords, hwords]
        simp [Request.ofWords, hasks]
      rw [run_help sh hd hline, hmode]
      have hcut : ∀ c ∈ (String.ofList a.toList.dropLast).toList, isBlank c = false := by
        intro c hc
        rw [String.toList_ofList] at hc
        exact ha c (List.dropLast_subset _ hc)
      exact fun h => help_ping_ne_reply hsh hcut a (Except.ok.inj h)
    · have hline : Request.ofLine ("ping " ++ a) = .command ["ping", a] :=
        Request.ofLine_of_words hwords rfl ⟨hword, hasks⟩
      have hres : sh.grammar.resolve .privileged ["ping", a] =
          .unique ⟨[.keyword "ping", .argument "ip"], .ping⟩ := by
        rw [hsh]
        exact resolve_ping rfl a
      rw [run_command sh hd hline, hmode, command, hres]
      simp [Path.arguments, Path.slots, Except.map, carryOut, first, address, hbad, Op.apply_bind]

end Shell

namespace Lab

open Shell

theorem check_grades_ping {lab : Lab} {net : Network} (hnet : lab.Reaches net) {sh : Shell}
    (hsh : sh.grammar = .standard) {caller : String} {d : Device}
    (hd : net.device? caller = some d) (hmode : d.mode = .privileged) {a : String}
    (ha : ∀ c ∈ a.toList, isBlank c = false) :
    (Check.reachable caller a).passes net = true ↔
      ((sh.run caller ("ping " ++ a)).apply net).1 =
        .ok ("Reply from " ++ a ++ ": bytes=32 time=1ms TTL=64") := by
  change net.reachable caller a = true ↔
    ((sh.run caller ("ping " ++ a)).apply net).1 = .ok (PingReply.reply a).text
  cases hx : Address.ofString? a with
  | some x =>
    have hline : words ("ping " ++ a) = ["ping", a] := by
      rw [words_ping, words_eq_of_word (Address.plainWord_of_ofString? hx).toWord]
    rw [run_ping hsh hd hmode hline rfl hx, Except.ok.injEq, Network.ping_text_eq_reply_iff]
  | none =>
    have hunreached : ¬net.reachable caller a = true := by
      intro h
      obtain ⟨x, hx'⟩ := Network.ofString?_of_reachable hnet.numbered h
      rw [hx] at hx'
      cases hx'
    exact iff_of_false hunreached (outcome_ping_malformed hsh hd hmode ha hx)

theorem check_grades_ping_leading_zero :
    let lab : Lab := { name := "pair", nodes := [{ name := "R1" }, { name := "R2" }] }
    let steps := [("R2", "en"), ("R2", "conf t"), ("R2", "int gig0/0"), ("R2", "ip add 10.0.0.2"),
      ("R2", "no shut"), ("R1", "en")]
    let net := ({} : Shell).after steps lab.build
    let strict : Shell := { strict := true }
    lab.Reaches net ∧ strict.grammar = .standard ∧
    net.device? "R1" = some (Device.new "R1" .router).toPrivileged ∧
    (∀ a ∈ ["10.0.0.2", "10.0.0.02", "10.0.0.2?", ""], ∀ c ∈ a.toList, isBlank c = false) ∧
    ((strict.run "R1" ("ping " ++ "10.0.0.2")).apply net).1 =
      .ok ("Reply from " ++ "10.0.0.2" ++ ": bytes=32 time=1ms TTL=64") ∧
    ∀ a ∈ ["10.0.0.02", "10.0.0.2?", ""], (Check.reachable "R1" a).passes net = false ∧
      ((strict.run "R1" ("ping " ++ a)).apply net).1 ≠
        .ok ("Reply from " ++ a ++ ": bytes=32 time=1ms TTL=64") := by
  intro lab steps net strict
  have hnet : lab.Reaches net := Reaches.built.after rfl steps
  have hstrict : strict.grammar = .standard := rfl
  have hd : net.device? "R1" = some (Device.new "R1" .router).toPrivileged := by decide
  have hunbroken : ∀ a ∈ ["10.0.0.2", "10.0.0.02", "10.0.0.2?", ""],
      ∀ c ∈ a.toList, isBlank c = false := by
    have hall : (["10.0.0.2", "10.0.0.02", "10.0.0.2?", ""].all fun a =>
        a.toList.all fun c => !isBlank c) = true := by decide
    simpa only [List.all_eq_true, Bool.not_eq_true'] using hall
  have hheld : (Check.reachable "R1" "10.0.0.2").passes net = true := by decide
  have hrefused : ∀ a ∈ ["10.0.0.02", "10.0.0.2?", ""],
      (Check.reachable "R1" a).passes net = false := by decide
  refine ⟨hnet, hstrict, hd, hunbroken, ?_, fun a ha => ⟨hrefused a ha, fun hreply => ?_⟩⟩
  · exact (check_grades_ping hnet hstrict hd rfl (hunbroken _ List.mem_cons_self)).mp hheld
  · have hpasses := (check_grades_ping hnet hstrict hd rfl
      (hunbroken a (List.mem_cons_of_mem _ ha))).mpr hreply
    rw [hrefused a ha] at hpasses
    cases hpasses

end Lab

end RouterLab
