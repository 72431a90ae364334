import RouterLab.Proofs.Grammar.Completion
import RouterLab.Proofs.Request
import RouterLab.Proofs.Shell.Effect

namespace RouterLab.Shell

open Text

theorem command_congr (sh : Shell) (device : String) {m : Mode} {ws vs : List String} {p : Path}
    (hws : sh.grammar.resolve m ws = .unique p) (hvs : sh.grammar.resolve m vs = .unique p)
    (hargs : p.arguments vs = p.arguments ws) :
    sh.command device m vs = sh.command device m ws := by
  simp only [command, hws, hvs, hargs]

variable {g : Grammar} {m : Mode} {line : String} {p : Path}

theorem ofLine_complete (hg : g.Keywords PlainWord) (hne : words line ≠ [])
    (h : g.resolve m (words line) = .unique p) {w : String}
    (hlast : (words line).getLast? = some w) (hw : PlainWord w) :
    Request.ofLine (g.complete m line) = .command (words (g.complete m line)) := by
  have hcut := Grammar.words_complete (hg.mono fun _ hk => hk.toWord) hne h
  obtain ⟨hp, hfits⟩ := Grammar.mem_paths_of_resolve h
  have hsome : Path.expand p.tokens (words line) ≠ [] :=
    fun he => hne (Path.eq_nil_of_expand hfits he)
  have hv := List.getLast?_eq_some_getLast hsome
  generalize (Path.expand p.tokens (words line)).getLast hsome = v at hv
  have hplain : PlainWord v := by
    rcases Path.getLast?_expand hfits hv with hk | hl
    · exact hg m p hp v (Path.mem_keywords.mpr hk)
    · rw [hlast] at hl
      exact Option.some.inj hl ▸ hw
  exact Request.ofLine_of_words rfl (hcut ▸ hv) hplain

theorem ofLine_of_trim_plain (hline : (trim line).toList.getLast? ≠ some '?')
    (hne : words line ≠ []) :
    Request.ofLine line = .command (words line) ∧
      ∃ w, (words line).getLast? = some w ∧ PlainWord w := by
  have htrim : trim line ≠ "" := fun he => hne (by rw [← words_trim, he, words_empty])
  have hcmd := Request.ofLine_of_plain htrim hline
  obtain ⟨_, w, hlast, hw⟩ := Request.ofLine_eq_command hcmd
  exact ⟨hcmd, w, hlast, hw⟩

theorem run_complete (sh : Shell) (hg : sh.grammar.Keywords PlainWord) {net : Network}
    {device : String} {d : Device} (hd : net.device? device = some d) {line : String}
    (hline : (trim line).toList.getLast? ≠ some '?') :
    (sh.run device (sh.grammar.complete d.mode line)).apply net =
      (sh.run device line).apply net ∧
    ∀ p, sh.grammar.resolve d.mode (words line) = .unique p →
      sh.grammar.resolve d.mode (words (sh.grammar.complete d.mode line)) = .unique p ∧
      p.arguments (words (sh.grammar.complete d.mode line)) = p.arguments (words line) := by
  have hword := hg.mono fun _ hk => hk.toWord
  refine ⟨?_, fun p => Grammar.resolve_complete hword⟩
  by_cases hne : words line = []
  · rw [Grammar.complete_of_not_unique (.inl hne)]
  · by_cases hu : ∃ p, sh.grammar.resolve d.mode (words line) = .unique p
    · obtain ⟨p, hp⟩ := hu
      obtain ⟨hcmd, w, hlast, hw⟩ := ofLine_of_trim_plain hline hne
      obtain ⟨hres, hargs⟩ := Grammar.resolve_complete hword hp
      rw [run_command sh hd (ofLine_complete hg hne hp hlast hw), run_command sh hd hcmd,
        command_congr sh device hp hres hargs]
    · rw [Grammar.complete_of_not_unique (.inr fun p hp => hu ⟨p, hp⟩)]

theorem run_complete_interface :
    let net : Network := { devices := [(Device.new "R1" .router).toGlobalConfig] }
    let line := " int  Gig0/0"
    Grammar.standard.Keywords PlainWord ∧
    net.device? "R1" = some (Device.new "R1" .router).toGlobalConfig ∧
    (trim line).toList.getLast? ≠ some '?' ∧
    Grammar.standard.complete .globalConfig line = "interface Gig0/0" ∧
    (({} : Shell).run "R1" "interface Gig0/0").apply net =
      (({} : Shell).run "R1" line).apply net := by
  have hd : Network.device? { devices := [(Device.new "R1" .router).toGlobalConfig] } "R1" =
      some (Device.new "R1" .router).toGlobalConfig := rfl
  have hline : (trim " int  Gig0/0").toList.getLast? ≠ some '?' := by decide
  have h := run_complete {} Grammar.standard_keywords hd hline
  exact ⟨Grammar.standard_keywords, hd, hline, rfl, h.1⟩

end RouterLab.Shell
