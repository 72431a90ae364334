import Mathlib.Data.List.Forall2
import Mathlib.Data.Sym.Sym2
import RouterLab.Proofs.Network.Run

namespace RouterLab

namespace Link

def ends (l : Link) : Sym2 String :=
  s(l.a, l.b)

def firsts (ls : List Link) : List Link :=
  (ls.zipIdx.filter fun p => !(ls.take p.2).any (·.same p.1)).map Prod.fst

theorem same_iff_ends {l m : Link} : l.same m = true ↔ l.ends = m.ends := by
  rw [same_iff, ends, ends, Sym2.eq_iff]

theorem same_eq (l m : Link) : l.same m = (l.ends == m.ends) := by
  rw [Bool.eq_iff_iff, same_iff_ends, beq_iff_eq]

theorem equivalence_same : Equivalence fun l m : Link => l.same m = true := by
  simp only [same_iff_ends]
  exact ⟨fun _ => rfl, Eq.symm, Eq.trans⟩

theorem firsts_eq (ls : List Link) : firsts ls = Keyed.firsts ends ls := by
  simp only [firsts, same_eq]
  exact (Keyed.firsts_eq_filter ends ls).symm

theorem pairwise_firsts (ls : List Link) :
    (firsts ls).Pairwise fun l m => l.same m = false := by
  have hnodup := Keyed.nodup_firsts ends ls
  rw [firsts_eq]
  refine (List.pairwise_map.mp hnodup).imp fun hne => ?_
  rw [same_eq, beq_eq_false_iff_ne]
  exact hne

theorem countP_firsts {ls : List Link} {l : Link} (h : l ∈ ls) :
    (firsts ls).countP (·.same l) = 1 := by
  obtain ⟨m, hm, hends⟩ :=
    List.mem_map.mp ((Keyed.mem_map_firsts ends).mpr (List.mem_map_of_mem h))
  have hone := Keyed.filter_of_mem ends (Keyed.nodup_firsts ends ls) hm
  simp only [same_eq, firsts_eq, List.countP_eq_length_filter, ← hends, hone, List.length_singleton]

end Link

namespace Network

def Call.asked? : Call → Option Link
  | .connect a b => some ⟨a, b⟩
  | _ => none

def asked (ks : List Call) : List Link :=
  ks.filterMap Call.asked?

/-- The same call, but a link may be asked for from its other end. -/
inductive Call.Turned : Call → Call → Prop
  | kept (k : Call) : Turned k k
  | swapped (a b : String) : Turned (.connect a b) (.connect b a)

theorem links_call (net : Network) (k : Call) :
    (net.call k).links =
      match k.asked? with
      | some l => if net.links.any (·.same l) then net.links else net.links ++ [l]
      | none => net.links := by
  cases k with
  | add d => exact links_add net d
  | connect a b => exact apply_ite links _ _ _
  | run sh name line =>
    rw [call_run, links_update]
    rfl
  | on name c =>
    rw [call_on, links_update]
    rfl

theorem links_after (ks : List Call) :
    (({} : Network).after ks).links = Link.firsts (asked ks) := by
  rw [Link.firsts_eq]
  induction ks using List.reverseRecOn with
  | nil => rfl
  | append_singleton ks k ih =>
    rw [after_concat, links_call, asked, List.filterMap_append, ← asked, ih]
    cases hk : k.asked? with
    | none => simp [hk]
    | some l =>
      have hone : [k].filterMap Call.asked? = [l] := by simp [hk]
      have hany : (Keyed.firsts Link.ends (asked ks)).any (·.same l) = true ↔
          l.ends ∈ (asked ks).map Link.ends := by
        rw [← Keyed.mem_map_firsts Link.ends]
        simp only [List.any_eq_true, Link.same_iff_ends, List.mem_map]
      rw [hone]
      by_cases h : l.ends ∈ (asked ks).map Link.ends
      · rw [Keyed.firsts_concat_of_mem Link.ends h]
        exact if_pos (hany.mpr h)
      · rw [Keyed.firsts_concat_of_not_mem Link.ends h]
        exact if_neg fun hold => h (hany.mp hold)

theorem ends_asked_of_turned {ks ks' : List Call} (h : ks.Forall₂ Call.Turned ks') :
    (asked ks).map Link.ends = (asked ks').map Link.ends := by
  induction h with
  | nil => rfl
  | @cons k _ _ _ hk _ ih =>
    cases hk with
    | kept => cases hl : k.asked? <;> simpa [asked, hl] using ih
    | swapped a b =>
      have hswap : Link.ends ⟨a, b⟩ = Link.ends ⟨b, a⟩ := Sym2.eq_swap
      simpa [asked, Call.asked?, hswap] using ih

theorem links_are_unordered_pairs (ks : List Call) :
    let links := (({} : Network).after ks).links
    (Equivalence fun l m : Link => l.same m = true) ∧
    (∀ l m : Link, l.same m = true ↔ l.ends = m.ends) ∧
    (links.Pairwise fun l m => l.same m = false) ∧
    (∀ l ∈ asked ks, links.countP (·.same l) = 1) ∧
    links = Link.firsts (asked ks) ∧
    ∀ ks', ks.Forall₂ Call.Turned ks' →
      links.Forall₂ (fun l m => l.same m = true) (({} : Network).after ks').links := by
  intro links
  have hlinks : links = Link.firsts (asked ks) := links_after ks
  refine ⟨Link.equivalence_same, fun _ _ => Link.same_iff_ends, ?_, fun l hl => ?_, hlinks,
    fun ks' hturned => ?_⟩
  · rw [hlinks]
    exact Link.pairwise_firsts _
  · rw [hlinks]
    exact Link.countP_firsts hl
  · have hends : links.map Link.ends = (({} : Network).after ks').links.map Link.ends := by
      rw [hlinks, links_after, Link.firsts_eq, Link.firsts_eq, Keyed.map_firsts, Keyed.map_firsts,
        ends_asked_of_turned hturned]
    rw [← List.forall₂_eq_eq_eq, List.forall₂_map_left_iff, List.forall₂_map_right_iff] at hends
    exact hends.imp fun _ _ => Link.same_iff_ends.mpr

theorem links_are_unordered_pairs_self_link :
    let ks := [Call.connect "R1" "R2", .connect "S1" "S1", .connect "R2" "R1",
      .add (.new "R1" .router), .connect "R2" "S1", .connect "S1" "S1", .connect "R1" "R2"]
    let ks' := [Call.connect "R2" "R1", .connect "S1" "S1", .connect "R2" "R1",
      .add (.new "R1" .router), .connect "S1" "R2", .connect "S1" "S1", .connect "R2" "R1"]
    let links := (({} : Network).after ks).links
    ⟨"R2", "R1"⟩ ∈ asked ks ∧ ks.Forall₂ Call.Turned ks' ∧
      links.countP (·.same ⟨"R2", "R1"⟩) = 1 ∧
      links = [⟨"R1", "R2"⟩, ⟨"S1", "S1"⟩, ⟨"R2", "S1"⟩] ∧
      links.Forall₂ (fun l m => l.same m = true) (({} : Network).after ks').links := by
  intro ks ks' links
  have hturned : ks.Forall₂ Call.Turned ks' :=
    .cons (.swapped _ _) <| .cons (.swapped _ _) <| .cons (.kept _) <| .cons (.kept _) <|
      .cons (.swapped _ _) <| .cons (.kept _) <| .cons (.swapped _ _) .nil
  have hasked : ⟨"R2", "R1"⟩ ∈ asked ks := by decide
  obtain ⟨-, -, -, hone, hfirsts, hswap⟩ := links_are_unordered_pairs ks
  exact ⟨hasked, hturned, hone _ hasked, hfirsts.trans (by decide), hswap ks' hturned⟩

end Network

end RouterLab
