import RouterLab.Proofs.Device.Legible
import RouterLab.Proofs.Grammar.Completion
import RouterLab.Proofs.Request
import RouterLab.Proofs.Shell.Run

/-!
Lines leave a legible device legible.  An argument that a line of the laboratory's commands ends
with is a word that asks nothing, since the line would otherwise be a question.
-/

namespace RouterLab

open Text

/-- Only the last token of the path can be an argument. -/
def Path.EndsInArgument (p : Path) : Prop :=
  ∀ t ∈ p.tokens.dropLast, t.keyword?.isSome = true

theorem Path.getLast?_of_slots {ts : List Token} {ws args : List String}
    (hts : ∀ t ∈ ts.dropLast, t.keyword?.isSome = true) (hfits : accepts ts ws = true)
    (h : slots ts ws = .ok args) : ∀ a ∈ args, ws.getLast? = some a := by
  induction ts generalizing ws args with
  | nil =>
    cases h
    intro a ha
    cases ha
  | cons t ts ih =>
    intro a ha
    have hrest : ∀ u ∈ ts.dropLast, u.keyword?.isSome = true := by
      intro u hu
      apply hts u
      rw [List.dropLast_cons_of_ne_nil]
      · exact List.mem_cons_of_mem t hu
      · rintro rfl
        cases hu
    cases t with
    | keyword k =>
      cases ws with
      | nil =>
        have hnil : accepts ts [] = true := by cases ts <;> rfl
        have hlast := ih hrest hnil h a ha
        cases hlast
      | cons w ws =>
        simp only [accepts, Bool.and_eq_true] at hfits
        have hlast := ih hrest hfits.2 h a ha
        simp [List.getLast?_cons, hlast]
    | argument name =>
      cases ws with
      | nil => cases h
      | cons w ws =>
        cases ts with
        | nil =>
          cases h
          cases ws with
          | nil => exact congrArg some (List.mem_singleton.mp ha).symm
          | cons v vs => exact absurd hfits (by simp [accepts])
        | cons u ts =>
          have hk := hts (.argument name) (by simp)
          cases hk

theorem Grammar.standard_endsInArgument (m : Mode) :
    ∀ p ∈ standard.paths m, p.EndsInArgument := by
  unfold Path.EndsInArgument
  cases m <;> decide

namespace Shell

theorem legible_of_asks {sh : Shell} {args : List String} {m : Mode} {c : Device.Call}
    (hargs : ∀ x ∈ args, PlainWord x) (h : sh.Asks args m c) : c.Legible := by
  cases h with
  | hostname hx | hostnameInConfig hx | interface hx => exact hargs _ (List.mem_of_head? hx)
  | ipAddress _ hx => exact Option.isSome_of_eq_some hx
  | _ => trivial

theorem legible_of_request? {sh : Shell} (hsh : sh.grammar = .standard) {m : Mode}
    {line : String} {c : Device.Call} (h : sh.request? m line = some c) : c.Legible := by
  obtain ⟨ws, p, args, hline, hres, hargs, hc⟩ := request?_eq_some h
  obtain ⟨_, w, hlast, hw⟩ := Request.ofLine_eq_command hline
  rw [hsh] at hres
  obtain ⟨hp, hfits⟩ := Grammar.mem_paths_of_resolve hres
  have hplain : ∀ x ∈ args, PlainWord x := by
    intro x hx
    have hend := Grammar.standard_endsInArgument m p hp
    have hx' := Path.getLast?_of_slots hend hfits hargs x hx
    rw [hlast] at hx'
    exact Option.some.inj hx' ▸ hw
  exact legible_of_asks hplain (asks_of_change? hc)

end Shell

theorem Device.Legible.obey {d : Device} (h : Legible d) {sh : Shell}
    (hsh : sh.grammar = .standard) (line : String) : Legible (d.obey sh line) := by
  rw [Device.obey]
  cases hc : sh.request? d.mode line with
  | none => exact h
  | some c => exact h.call (Shell.legible_of_request? hsh hc)

end RouterLab
