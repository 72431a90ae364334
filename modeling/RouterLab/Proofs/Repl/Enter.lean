import Mathlib.Data.List.DropRight
import RouterLab.Proofs.Repl.Directive
import RouterLab.Repl.Transcript

/-!
One line of a dialogue.  It keeps its line feed and has no other; what was typed on it is a
directive, or goes on with the text that waits for it.
-/

namespace RouterLab.Repl

open Text

def typed (input : String) : String :=
  String.ofList (dropLineEnd input.toList)

def IsLine (input : String) : Prop :=
  '\n' ∉ input.toList.dropLast

instance (input : String) : Decidable (IsLine input) :=
  inferInstanceAs (Decidable ('\n' ∉ input.toList.dropLast))

theorem isDirective_iff {t : String} : isDirective t = true ↔ Directive.ofLine? t ≠ none := by
  simp [isDirective, Directive.ofLine?_eq_none_iff]

theorem lineOf_of_some {t : String} {d : Directive} (h : Directive.ofLine? t = some d)
    (pending : String) : lineOf pending t = t :=
  if_pos (isDirective_iff.mpr (by simp [h]))

theorem lineOf_of_none {t : String} (h : Directive.ofLine? t = none) (pending : String) :
    lineOf pending t = pending ++ t :=
  if_neg fun hd => isDirective_iff.mp hd h

theorem unbroken_lineOf {pending t : String} (hpending : '\n' ∉ pending.toList)
    (ht : '\n' ∉ t.toList) : '\n' ∉ (lineOf pending t).toList := by
  rw [lineOf]
  split
  · exact ht
  · simp [hpending, ht]

theorem dropLineEnd_concat (cs : List Char) (c : Char) :
    dropLineEnd (cs ++ [c]) =
      if c = '\n' ∨ c = '\r' then dropLineEnd cs else cs ++ [c] := by
  have h : dropLineEnd (cs ++ [c]) =
      if (c == '\n' || c == '\r') = true then dropLineEnd cs else cs ++ [c] :=
    List.rdropWhile_concat _ cs c
  simpa only [Bool.or_eq_true, beq_iff_eq] using h

theorem ends_no_line {c : Char} (hc : isBlank c = false) : c ≠ '\n' ∧ c ≠ '\r' := by
  constructor
  · rintro rfl
    exact absurd hc (by decide)
  · rintro rfl
    exact absurd hc (by decide)

theorem dropLineEnd_append {body : List Char} {c : Char} (hc : c ≠ '\n' ∧ c ≠ '\r')
    (tail : List Char) :
    dropLineEnd (body ++ [c] ++ tail) = body ++ [c] ++ dropLineEnd tail := by
  induction tail using List.reverseRecOn with
  | nil =>
    rw [List.append_nil, dropLineEnd_concat, if_neg (not_or.mpr hc)]
    exact (List.append_nil _).symm
  | append_singleton tail b ih =>
    rw [← List.append_assoc, dropLineEnd_concat, dropLineEnd_concat, ih]
    split
    · rfl
    · exact List.append_assoc _ tail [b]

theorem unbroken_typed {input : String} (h : IsLine input) : '\n' ∉ (typed input).toList := by
  rw [typed, String.toList_ofList]
  rw [IsLine] at h
  rcases List.eq_nil_or_concat input.toList with hnil | ⟨cs, c, hcs⟩
  · simp [hnil, dropLineEnd]
  · rw [hcs, List.concat_eq_append] at h ⊢
    rw [List.dropLast_concat] at h
    rw [dropLineEnd_concat]
    split
    · intro hmem
      exact h ((List.rdropWhile_prefix _ _).subset hmem)
    · next hc =>
      rw [not_or] at hc
      simp [h, Ne.symm hc.1]

theorem typed_of_trimmed {e : String} (h : Trimmed e) : typed (e ++ "\n") = e := by
  have hlast : dropLineEnd e.toList = e.toList := by
    rcases List.eq_nil_or_concat e.toList with hnil | ⟨cs, c, hcs⟩
    · simp [hnil, dropLineEnd]
    · have hc : isBlank c = false := h.last c (by simp [hcs])
      rw [hcs, List.concat_eq_append, dropLineEnd_concat, if_neg (not_or.mpr (ends_no_line hc))]
  have hfeed : (e ++ "\n").toList = e.toList ++ ['\n'] := by simp
  rw [typed, hfeed, dropLineEnd_concat, if_pos (.inl rfl), hlast, String.ofList_toList]

inductive Entered (r : Repl) (line : String) : Repl → Prop
  | submitted : Directive.ofLine? line = none →
    Entered r line { r with console := r.console.call (.submit line), pending := "" }
  | directed {d : Directive} {text : String} : Directive.ofLine? line = some d →
    (text = "" ∨ ∃ s, r.console.session? = some s ∧ d.Edits r.console s text) →
    Entered r line { r with console := r.console.after d.call?.toList, pending := text }

section Enter

-- unfolding a step must not run into how its line is read
attribute [local irreducible] Directive.ofLine?

theorem enter_eq (r : Repl) (input : String) :
    r.enter input =
      match Directive.ofLine? (lineOf r.pending (typed input)) with
      | some d => r.direct d
      | none => r.submit (lineOf r.pending (typed input)) :=
  rfl

variable {r : Repl} {input : String}

theorem enter_of_some {d : Directive}
    (h : Directive.ofLine? (lineOf r.pending (typed input)) = some d) :
    r.enter input = r.direct d := by
  rw [enter_eq, h]

theorem enter_of_none (h : Directive.ofLine? (lineOf r.pending (typed input)) = none) :
    r.enter input = r.submit (lineOf r.pending (typed input)) := by
  rw [enter_eq, h]

end Enter

theorem entered_enter (r : Repl) (input : String) :
    Entered r (lineOf r.pending (typed input)) (r.enter input).2.1 := by
  cases hline : Directive.ofLine? (lineOf r.pending (typed input)) with
  | none =>
    rw [enter_of_none hline]
    generalize lineOf r.pending (typed input) = line at hline
    have hsubmitted : Entered r line
        { r with console := ((Console.submit line).apply r.console).2, pending := "" } :=
      .submitted hline
    simp only [submit]
    generalize (Console.submit line).apply r.console = x at hsubmitted
    rcases x with ⟨_ | _, c⟩
    · exact hsubmitted
    · exact hsubmitted
  | some d =>
    rw [enter_of_some hline]
    generalize lineOf r.pending (typed input) = line at hline
    have hdirected {text : String} (htext : text = "" ∨
        ∃ s, r.console.session? = some s ∧ d.Edits r.console s text) :
        Entered r line
          { r with console := ((d.run r.lab).apply r.console).2, pending := text } := by
      rw [d.state_run]
      exact .directed hline htext
    have hedits {text : String} (h : ((d.run r.lab).apply r.console).1 = .ok (.edit text)) :
        ∃ s, r.console.session? = some s ∧ d.Edits r.console s text :=
      Directive.edits_of_run h
    simp only [direct]
    generalize (d.run r.lab).apply r.console = x at hdirected hedits
    rcases x with ⟨_ | (_ | text | _), c⟩
    · exact hdirected (.inl rfl)
    · exact hdirected (.inl rfl)
    · exact hdirected (.inr (hedits rfl))
    · exact hdirected (.inl rfl)

end RouterLab.Repl
