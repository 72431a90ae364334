import RouterLab.Proofs.Console.Safety

/-!
What devices answer, and how the network changes, is decided by attachments and submitted lines.
Histories, completions and recalls leave no trace in it.
-/

namespace RouterLab.Console

def Call.drives : Call → Bool
  | .attach _ | .submit _ => true
  | _ => false

def Call.answer? (c : Console) : Call → Option (Except Fault String)
  | .submit line => some ((Console.submit line).apply c).1
  | _ => none

def answers : Console → List Call → List (Except Fault String)
  | _, [] => []
  | c, k :: ks => (k.answer? c).toList ++ answers (c.call k) ks

variable {c c' : Console} {k : Call}

theorem outcome_submit (c : Console) (line : String) :
    ((submit line).apply c).1 =
      match c.attached? with
      | some device => .ok (c.shell.reply device line c.network).1
      | none => .error .notAttached := by
  cases hs : c.session? with
  | none =>
    rw [attached?_of_none hs]
    exact congrArg Prod.fst (apply_require_of_none hs _)
  | some s => rw [attached?_of_session? hs, apply_submit hs]

structure Alike (c c' : Console) : Prop where
  network : c'.network = c.network
  shell : c'.shell = c.shell
  attached? : c'.attached? = c.attached?

namespace Alike

theorem call (h : Alike c c') (k : Call) : Alike (c.call k) (c'.call k) := by
  have hc := change_call c k
  have hc' := change_call c' k
  constructor
  · rw [hc.network, hc'.network, h.network, h.shell, h.attached?]
  · rw [hc.shell, hc'.shell, h.shell]
  · rw [hc.attached?, hc'.attached?, h.network, h.attached?]

theorem idle (h : Alike c c') (hk : k.drives = false) : Alike (c.call k) c' := by
  have hc := change_call c k
  cases k with
  | attach | submit => cases hk
  | complete | older | newer =>
    exact ⟨h.network.trans hc.network.symm, h.shell.trans hc.shell.symm,
      h.attached?.trans hc.attached?.symm⟩

theorem answer? (h : Alike c c') (k : Call) : k.answer? c' = k.answer? c := by
  cases k with
  | submit line =>
    simp only [Call.answer?, outcome_submit, h.network, h.shell, h.attached?]
  | _ => rfl

theorem filter (h : Alike c c') (ks : List Call) :
    c'.answers (ks.filter Call.drives) = c.answers ks ∧
      Alike (c.after ks) (c'.after (ks.filter Call.drives)) := by
  induction ks generalizing c c' with
  | nil => exact ⟨rfl, h⟩
  | cons k ks ih =>
    cases hk : k.drives with
    | true =>
      obtain ⟨hanswers, halike⟩ := ih (h.call k)
      rw [List.filter_cons_of_pos hk, answers, answers, h.answer? k, hanswers]
      exact ⟨rfl, halike⟩
    | false =>
      have hquiet : k.answer? c = none := by
        cases k with
        | attach | submit => cases hk
        | _ => rfl
      rw [List.filter_cons_of_neg (by simp [hk]), answers, hquiet]
      exact ih (h.idle hk)

end Alike

theorem answers_eq_of_drives (h : Alike c c') {ks ks' : List Call}
    (hks : ks'.filter Call.drives = ks.filter Call.drives) :
    c'.answers ks' = c.answers ks ∧ (c'.after ks').network = (c.after ks).network := by
  have hself : Alike c' c' := ⟨rfl, rfl, rfl⟩
  obtain ⟨hanswers, halike⟩ := h.filter ks
  obtain ⟨hanswers', halike'⟩ := hself.filter ks'
  rw [hks] at hanswers' halike'
  exact ⟨hanswers'.symm.trans hanswers, halike'.network.symm.trans halike.network⟩

end RouterLab.Console
