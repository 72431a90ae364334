import RouterLab.Proofs.Console.Records
import RouterLab.Proofs.Grammar.Completion
import RouterLab.Proofs.Repl.Loop

/-!
A line that is recalled is neither a directive nor changed by trimming, so that an empty line
behind it submits it as it was.
-/

namespace RouterLab

open Text

structure Recallable (e : String) : Prop where
  ne_empty : e ≠ ""
  trimmed : Trimmed e
  unbroken : '\n' ∉ e.toList
  no_directive : e.toList.head? ≠ some ':'

theorem recallable_trim {line : String} (hunbroken : '\n' ∉ line.toList)
    (hline : Directive.ofLine? line = none) (hne : trim line ≠ "") : Recallable (trim line) where
  ne_empty := hne
  trimmed := trimmed_trim line
  unbroken h := hunbroken (mem_trim h)
  no_directive := by
    rw [head?_trim]
    exact Directive.ofLine?_eq_none_iff.mp hline

theorem Recallable.ofLine?_eq_none {e : String} (h : Recallable e) :
    Directive.ofLine? e = none := by
  rw [Directive.ofLine?_eq_none_iff, h.trimmed.dropBlank_eq]
  exact h.no_directive

theorem Recallable.record_eq {e : String} (h : Recallable e) (s : Session) :
    s.record e = { s with history := s.history.push e } := by
  rw [Session.record, h.trimmed.trim_eq, if_neg h.ne_empty]

theorem Directive.Edits.unbroken {d : Directive} {c : Console} {s : Session} {line text : String}
    (h : d.Edits c s text) (hgrammar : c.shell.grammar = .standard)
    (hentries : c.ForallEntries Recallable) (hs : c.session? = some s)
    (hline : ofLine? line = some d) (hunbroken : '\n' ∉ line.toList) : '\n' ∉ text.toList := by
  have hrecalled {h : History} (he : h.entries = s.history.entries) :
      '\n' ∉ h.current.toList := by
    rcases h.current_eq_empty_or_mem with hempty | hmem
    · simp [hempty]
    · exact (hentries s (Console.mem_sessions hs) _ (he ▸ hmem)).unbroken
  cases h with
  | complete t =>
    have ht : '\n' ∉ t.toList := fun h => hunbroken (mem_of_ofLine?_complete hline h)
    rw [Session.complete]
    split
    · next e _ =>
      intro hmem
      rw [hgrammar] at hmem
      have hwords := Grammar.standard_keywords.mono fun _ hk => hk.toWord
      rcases Grammar.mem_complete hwords hmem with hmem | hmem | hmem
      · exact ht hmem
      · exact absurd hmem (by decide)
      · exact absurd hmem (by decide)
    · exact ht
  | prev => exact hrecalled rfl
  | next => exact hrecalled rfl

namespace Repl

-- a step is known by `enter_of_some` and `enter_of_none` alone
attribute [local irreducible] enter

structure Sound (lab : Lab) (r : Repl) : Prop where
  reached : ∃ ks, r.console = lab.opening.after ks
  recallable : r.console.ForallEntries Recallable
  unbroken : '\n' ∉ r.pending.toList

theorem sound_opening (lab : Lab) : Sound lab { lab, console := lab.opening } where
  reached := ⟨[], rfl⟩
  recallable := by
    have hnew : (Console.new lab.build lab.shell lab.settings.historyLimit).ForallEntries
        Recallable := by
      intro s hs
      cases hs
    refine hnew.after fun line hmem => ?_
    simp at hmem
  unbroken := by simp

namespace Sound

variable {lab : Lab} {r : Repl}

theorem grammar (h : Sound lab r) : r.console.shell.grammar = .standard := by
  obtain ⟨ks, hks⟩ := h.reached
  rw [hks, Console.shell_after, Lab.opening, Console.shell_after]
  rfl

theorem attached (h : Sound lab r) (hnodes : lab.nodes ≠ []) :
    ∃ s, r.console.session? = some s := by
  obtain ⟨ks, hks⟩ := h.reached
  rw [hks]
  exact Option.isSome_iff_exists.mp ((lab.isSome_session?_after_opening ks).mpr hnodes)

theorem of_entered (h : Sound lab r) {line : String} (hline : '\n' ∉ line.toList) {r' : Repl}
    (hentered : Entered r line r') : Sound lab r' := by
  obtain ⟨ks, hks⟩ := h.reached
  cases hentered with
  | submitted hnone =>
    refine ⟨⟨ks ++ [.submit line], ?_⟩, ?_, by simp⟩
    · rw [Console.after_append, ← hks]
      rfl
    · change (r.console.after [.submit line]).ForallEntries Recallable
      refine h.recallable.after fun text hmem hne => ?_
      obtain rfl : text = line := by simpa using hmem
      exact recallable_trim hline hnone hne
  | @directed d text hsome htext =>
    refine ⟨⟨ks ++ d.call?.toList, ?_⟩, ?_, ?_⟩
    · rw [Console.after_append, ← hks]
    · exact h.recallable.after fun text hmem => absurd hmem (d.submit_not_mem_call? text)
    · rcases htext with rfl | ⟨s, hs, hedits⟩
      · simp
      · exact hedits.unbroken h.grammar h.recallable hs hsome hline

theorem enter (h : Sound lab r) {input : String} (hinput : IsLine input) :
    Sound lab (r.enter input).2.1 :=
  h.of_entered (unbroken_lineOf h.unbroken (unbroken_typed hinput)) (entered_enter r input)

theorem dialogue (h : Sound lab r) {inputs : List String}
    (hlines : ∀ input ∈ inputs, IsLine input) : Sound lab (r.dialogue inputs).2.1 :=
  dialogue_keeps (P := Sound lab) (fun hinput hr => hr.enter hinput) hlines h

end Sound

variable {r : Repl} {s : Session}

theorem enter_prev (hs : r.console.session? = some s) {input : String}
    (hprev : Directive.ofLine? (typed input) = some .prev) :
    r.enter input =
      ("", { r with console := r.console.withSession s.older, pending := s.older.history.current },
        .goOn) := by
  have hline : Directive.ofLine? (lineOf r.pending (typed input)) = some .prev := by
    rw [lineOf_of_some hprev, hprev]
  rw [enter_of_some hline, direct, Directive.apply_run_prev r.lab hs]

theorem dialogue_prevs (hs : r.console.session? = some s) {first : String} {more : List String}
    (hprev : ∀ input ∈ first :: more, Directive.ofLine? (typed input) = some .prev) :
    ∃ said, r.dialogue (first :: more) =
      (said,
        { r with
          console := r.console.withSession (s.back (more.length + 1))
          pending := (s.back (more.length + 1)).history.current },
        .goOn) := by
  induction more generalizing r s first with
  | nil =>
    rw [dialogue_cons_goOn (enter_prev hs (hprev first (by simp)))]
    exact ⟨_, rfl⟩
  | cons second more ih =>
    have hs' := Console.session?_withSession hs s.older
    obtain ⟨said, hsaid⟩ := ih (r := { r with
      console := r.console.withSession s.older, pending := s.older.history.current }) hs'
      fun input hinput => hprev input (List.mem_cons_of_mem first hinput)
    rw [dialogue_cons_goOn (enter_prev hs (hprev first (by simp))), hsaid]
    refine ⟨r.promptText ++ "" ++ said, ?_⟩
    rw [s.older_eq_back, s.back_back, Console.withSession_withSession, List.length_cons,
      Nat.add_comm 1]

def given (r : Repl) (s : Session) (line : String) : String × Repl × Next :=
  let reply := r.console.shell.reply s.device line r.console.network
  (printed reply.1,
    { r with
      console := (r.console.withNetwork reply.2).withSession
        { s with history := s.history.push line }
      pending := "" },
    .goOn)

theorem enter_recallable (hs : r.console.session? = some s) {e : String} (he : Recallable e)
    {input : String} (hline : lineOf r.pending (typed input) = e) :
    r.enter input = r.given s e := by
  have hnone : Directive.ofLine? (lineOf r.pending (typed input)) = none := by
    rw [hline, he.ofLine?_eq_none]
  rw [enter_of_none hnone, hline, submit, Console.apply_submit hs, ← Shell.network_reply,
    he.record_eq, given]

theorem enter_typed (hs : r.console.session? = some s) {e : String} (he : Recallable e) :
    { r with pending := "" }.enter (e ++ "\n") = r.given s e := by
  have hline : lineOf "" (typed (e ++ "\n")) = e := by
    rw [typed_of_trimmed he.trimmed, lineOf_of_none he.ofLine?_eq_none, String.empty_append]
  exact enter_recallable (r := { r with pending := "" }) hs he hline

theorem enter_recalled (hs : r.console.session? = some s) {e : String} (he : Recallable e)
    (k : Nat) {input : String} (hempty : typed input = "") :
    { r with console := r.console.withSession (s.back k), pending := e }.enter input =
      r.given s e := by
  have hline : lineOf e (typed input) = e := by
    rw [hempty, lineOf_of_none (Directive.ofLine?_eq_none_iff.mpr (by simp [dropBlank])),
      String.append_empty]
  rw [enter_recallable (r := { r with console := r.console.withSession (s.back k), pending := e })
    (Console.session?_withSession hs (s.back k)) he hline]
  simp only [given, Console.shell_withSession, Console.network_withSession,
    Console.withNetwork_withSession, Console.withSession_withSession]
  rfl

theorem start_eq (lab : Lab) : start lab = .ok { lab, console := lab.opening } := by
  rw [start, lab.console_eq]
  rfl

theorem recalled_lines_rerun (lab : Lab) (hnodes : lab.nodes ≠ []) :
    ∃ r₀, start lab = .ok r₀ ∧
      ∀ inputs, (∀ input ∈ inputs, IsLine input) →
        let r := (r₀.dialogue inputs).2.1
        (∀ s ∈ r.console.sessions, ∀ e ∈ s.history.entries, Recallable e) ∧
        ∃ s, r.console.session? = some s ∧
          ∀ n, 1 ≤ n → s.history.entries.length = n → s.history.cursor = n →
            ∀ prevs empty, prevs ≠ [] →
              (∀ input ∈ prevs, Directive.ofLine? (typed input) = some .prev) →
              typed empty = "" →
              ∃ e said r₁, s.history.entries[n - min prevs.length n]? = some e ∧
                r.dialogue prevs = (said, r₁, .goOn) ∧
                r₁.enter empty = { r with pending := "" }.enter (e ++ "\n") ∧
                r₁.enter empty = r.given s e := by
  refine ⟨_, start_eq lab, ?_⟩
  intro inputs hlines r
  have hsound : Sound lab r := (sound_opening lab).dialogue hlines
  clear_value r
  refine ⟨hsound.recallable, ?_⟩
  obtain ⟨s, hs⟩ := hsound.attached hnodes
  refine ⟨s, hs, ?_⟩
  rintro n hn hlength hcursor (_ | ⟨first, more⟩) empty hsome hprevs hempty
  · exact absurd rfl hsome
  · obtain ⟨said, hsaid⟩ := dialogue_prevs hs hprevs
    have hindex : n - (more.length + 1) = n - min (more.length + 1) n := by omega
    have hlt : n - min (more.length + 1) n < s.history.entries.length := by omega
    have hget := List.getElem?_eq_getElem hlt
    generalize s.history.entries[n - min (more.length + 1) n] = e at hget
    have hcurrent : (s.back (more.length + 1)).history.current = e := by
      rw [Session.back, Session.current_seek, hcursor, hindex, hget, Option.getD_some]
    rw [hcurrent] at hsaid
    have he : Recallable e :=
      hsound.recallable s (Console.mem_sessions hs) e (List.mem_of_getElem? hget)
    have hrecalled := enter_recalled hs he (more.length + 1) hempty
    exact ⟨e, said, _, hget, hsaid, hrecalled.trans (enter_typed hs he).symm, hrecalled⟩

theorem recalled_lines_rerun_completion :
    let lab : Lab := { name := "pair", nodes := [{ name := "R1" }, { name := "R2" }] }
    let inputs := [" en\n", ":complete sh  ru\n", "\r\n"]
    let prevs := [":prev\n", " :up\n", ":prev\n"]
    lab.nodes ≠ [] ∧ (∀ input ∈ inputs, IsLine input) ∧
      ∃ r₀ s said r₁, start lab = .ok r₀ ∧
        (r₀.dialogue inputs).2.1.console.session? = some s ∧
        s.history.entries = ["en", "show running-config"] ∧ Recallable "en" ∧
        (r₀.dialogue inputs).2.1.dialogue prevs = (said, r₁, .goOn) ∧
        r₁.enter "\n" = (r₀.dialogue inputs).2.1.given s "en" := by
  intro lab inputs prevs
  have hnodes : lab.nodes ≠ [] := by decide
  have hlines : ∀ input ∈ inputs, IsLine input := by decide
  obtain ⟨r₀, hr₀, hdialogue⟩ := recalled_lines_rerun lab hnodes
  obtain ⟨hrecallable, s, hs, hrerun⟩ := hdialogue inputs hlines
  have hhistory : (r₀.dialogue inputs).2.1.console.session?.map (·.history) =
      some { entries := ["en", "show running-config"], cursor := 2, limit := 100 } := by
    rw [start_eq] at hr₀
    cases hr₀
    decide +kernel
  rw [hs] at hhistory
  have hentries : s.history = _ := Option.some.inj hhistory
  obtain ⟨e, said, r₁, he, hsaid, -, hagain⟩ := hrerun 2 (by decide) (by rw [hentries]; rfl)
    (by rw [hentries]) prevs "\n" (by decide) (by decide +kernel) (by decide)
  rw [hentries] at he
  cases he
  have hen : Recallable "en" :=
    hrecallable s (Console.mem_sessions hs) "en" (by simp [hentries])
  exact ⟨hnodes, hlines, r₀, s, said, r₁, hr₀, hs, by rw [hentries], hen, hsaid, hagain⟩

end Repl

end RouterLab
