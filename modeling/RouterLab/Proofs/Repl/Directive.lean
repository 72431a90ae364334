import Mathlib.Data.List.TakeWhile
import RouterLab.Proofs.Console.Call
import RouterLab.Proofs.Text.Trim
import RouterLab.Repl.Directive

namespace RouterLab.Directive

open Text

theorem ofLine?_eq_none_iff {line : String} :
    ofLine? line = none ↔ (dropBlank line.toList).head? ≠ some ':' := by
  cases h : dropBlank line.toList with
  | nil => simp [ofLine?, h]
  | cons c cs =>
    by_cases hc : c = ':'
    · simp [ofLine?, h, hc]
    · simp [ofLine?, h, hc]

theorem ofLine?_eq_none_iff_find? {line : String} :
    ofLine? line = none ↔ (line.toList.find? fun c => !isBlank c) ≠ some ':' := by
  rw [ofLine?_eq_none_iff, List.find?_not_eq_head?_dropWhile, dropBlank]

theorem ofLine?_of_word {line : String} {lead word rest : List Char}
    (hline : line.toList = lead ++ ':' :: (word ++ rest)) (hlead : ∀ c ∈ lead, isBlank c = true)
    (hword : ∀ c ∈ word, isBlank c = false) (hrest : atGap rest = true) :
    ofLine? line =
      some (ofWord (String.ofList word) (trim (String.ofList rest))
        (String.ofList (word ++ rest))) := by
  have hcolon : dropBlank (lead ++ ':' :: (word ++ rest)) = ':' :: (word ++ rest) :=
    dropBlank_append_blanks hlead _
  have hstop : rest.takeWhile (fun c => !isBlank c) = [] := by
    cases rest with
    | nil => rfl
    | cons c rest =>
      have hc : isBlank c = true := hrest
      simp [hc]
  have htake : (word ++ rest).takeWhile (fun c => !isBlank c) = word := by
    rw [List.takeWhile_append_of_pos fun c hc => by simp [hword c hc], hstop, List.append_nil]
  rw [ofLine?, hline, hcolon]
  simp only [htake, List.drop_left]

theorem arg_of_ofWord {word arg rest text : String} (h : ofWord word arg rest = .complete text) :
    arg = text := by
  simp only [ofWord, ite_eq_iff, reduceCtorEq, complete.injEq, and_false, false_or, or_false] at h
  exact h.2.2.2

theorem mem_of_ofLine?_complete {line text : String} (h : ofLine? line = some (.complete text))
    {c : Char} (hc : c ∈ text.toList) : c ∈ line.toList := by
  cases hline : dropBlank line.toList with
  | nil => simp [ofLine?, hline] at h
  | cons b rest =>
    by_cases hb : b = ':'
    · subst hb
      have hword : text = trim (String.ofList (rest.drop (rest.takeWhile (!isBlank ·)).length)) := by
        simp only [ofLine?, hline, Option.some.injEq] at h
        exact (arg_of_ofWord h).symm
      rw [hword] at hc
      have hrest : c ∈ rest := List.mem_of_mem_drop (by simpa using mem_trim hc)
      exact mem_dropBlank (hline ▸ List.mem_cons_of_mem ':' hrest)
    · simp [ofLine?, hline, hb] at h

def call? : Directive → Option Console.Call
  | .connect device => some (.attach device)
  | .complete text => some (.complete text)
  | .prev => some .older
  | .next => some .newer
  | _ => none

theorem submit_not_mem_call? (d : Directive) (line : String) :
    .submit line ∉ d.call?.toList := by
  cases d <;> simp [call?]

theorem state_run (lab : Lab) (d : Directive) (c : Console) :
    ((d.run lab).apply c).2 = c.after d.call?.toList := by
  cases d with
  | connect device =>
    change ((Console.attach device >>= fun _ => pure _).apply c).2 =
      ((Console.attach device >>= fun _ => pure _).apply c).2
    rw [Op.state_bind_reads fun _ => Op.reads_pure _, Op.state_bind_reads fun _ => Op.reads_pure _]
  | complete text => exact Op.state_bind_reads (fun _ => Op.reads_pure _) c
  | prev => exact Op.state_bind_reads (fun _ => Op.reads_pure _) c
  | next => exact Op.state_bind_reads (fun _ => Op.reads_pure _) c
  | _ => rfl

inductive Edits (c : Console) (s : Session) : Directive → String → Prop
  | complete (text : String) : Edits c s (.complete text) (s.complete c.shell text c.network)
  | prev : Edits c s .prev s.older.history.current
  | next : Edits c s .next s.newer.history.current

theorem apply_run_prev (lab : Lab) {c : Console} {s : Session} (hs : c.session? = some s) :
    (prev.run lab).apply c = (.ok (.edit s.older.history.current), c.withSession s.older) := by
  rw [run, Op.apply_bind_ok (Console.apply_older hs)]
  rfl

theorem apply_run_connect_of_none (lab : Lab) {c : Console} {device : String}
    (h : c.network.device? device = none) :
    ((connect device).run lab).apply c = (.error (.unknownDevice device), c) := by
  rw [run, Op.apply_bind_error (Console.apply_attach_of_none h)]

theorem apply_run_connect_of_some (lab : Lab) {c : Console} {device : String} {d : Device}
    (h : c.network.device? device = some d) :
    ((connect device).run lab).apply c =
      (.ok (.print ("Connected to " ++ device)),
        (c.withNetwork (c.network.put d.toUser)).turnTo device) := by
  rw [run, Op.apply_bind_ok (Console.apply_attach_of_some h)]
  rfl

theorem apply_run_next (lab : Lab) {c : Console} {s : Session} (hs : c.session? = some s) :
    (next.run lab).apply c = (.ok (.edit s.newer.history.current), c.withSession s.newer) := by
  rw [run, Op.apply_bind_ok (Console.apply_newer hs)]
  rfl

theorem session?_of_ok {α β : Type} {c : Console} {f : Session → Console.Op α}
    {g : α → Console.Op β} {b : β} (h : ((Console.require >>= f >>= g).apply c).1 = .ok b) :
    ∃ s, c.session? = some s := by
  cases hs : c.session? with
  | none =>
    rw [Op.apply_bind_error (Console.apply_require_of_none hs f)] at h
    cases h
  | some s => exact ⟨s, rfl⟩

theorem edits_of_run {lab : Lab} {d : Directive} {c : Console} {text : String}
    (h : ((d.run lab).apply c).1 = .ok (.edit text)) :
    ∃ s, c.session? = some s ∧ Edits c s d text := by
  cases d with
  | connect device =>
    cases hd : c.network.device? device with
    | none =>
      rw [apply_run_connect_of_none lab hd] at h
      cases h
    | some e =>
      rw [apply_run_connect_of_some lab hd] at h
      cases h
  | complete t =>
    obtain ⟨s, hs⟩ := session?_of_ok h
    rw [run, Op.apply_bind_ok (Console.apply_complete hs t)] at h
    cases h
    exact ⟨s, hs, .complete t⟩
  | prev =>
    obtain ⟨s, hs⟩ := session?_of_ok h
    rw [apply_run_prev lab hs] at h
    cases h
    exact ⟨s, hs, .prev⟩
  | next =>
    obtain ⟨s, hs⟩ := session?_of_ok h
    rw [apply_run_next lab hs] at h
    cases h
    exact ⟨s, hs, .next⟩
  | _ => cases h

end RouterLab.Directive
