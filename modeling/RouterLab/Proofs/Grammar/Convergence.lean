import Mathlib.Logic.Function.Iterate
import RouterLab.Proofs.Grammar.Completion

/-!
Completing a line again and again spells it out, one token at a time, until a slot is reached that
only the operator can fill.
-/

namespace RouterLab

open Text

namespace Path

/-- The keywords in full and the typed words in their slots, up to the first open slot. -/
def canonical : List Token → List String → List String
  | [], _ => []
  | .keyword text :: ts, ws => text :: canonical ts ws.tail
  | .argument _ :: ts, w :: ws => w :: canonical ts ws
  | .argument _ :: _, [] => []

theorem length_canonical_le (ts : List Token) (ws : List String) :
    (canonical ts ws).length ≤ ts.length := by
  fun_induction canonical ts ws with
  | case1 ws => exact Nat.le_refl 0
  | case2 text ts ws ih => exact Nat.succ_le_succ ih
  | case3 name ts w ws ih => exact Nat.succ_le_succ ih
  | case4 name ts => exact Nat.zero_le _

theorem length_le_of_accepts {ts : List Token} {ws : List String} (h : accepts ts ws = true) :
    ws.length ≤ ts.length := by
  fun_induction accepts ts ws with
  | case1 ts => exact Nat.zero_le _
  | case2 w ws => cases h
  | case3 t ts w ws ih => exact Nat.succ_le_succ (ih (Bool.and_eq_true_iff.mp h).2)

theorem expand_eq_take (ts : List Token) (ws : List String) :
    expand ts ws = (canonical ts ws).take (ws.length + 1) := by
  fun_induction expand ts ws with
  | case1 ws => rfl
  | case2 text ts w ws ih =>
    rw [canonical, List.tail_cons, List.length_cons, List.take_succ_cons, ih]
  | case3 name ts w ws ih => rw [canonical, List.length_cons, List.take_succ_cons, ih]
  | case4 text ts => rw [canonical, List.length_nil, List.take_succ_cons, List.take_zero]
  | case5 name ts => rfl

theorem canonical_expand (ts : List Token) (ws : List String) :
    canonical ts (expand ts ws) = canonical ts ws := by
  fun_induction expand ts ws with
  | case1 ws => rfl
  | case2 text ts w ws ih => rw [canonical, canonical, List.tail_cons, List.tail_cons, ih]
  | case3 name ts w ws ih => rw [canonical, canonical, ih]
  | case4 text ts => rfl
  | case5 name ts => rfl

end Path

namespace Grammar

variable {g : Grammar} {m : Mode} {line : String} {p : Path}

theorem words_complete_ne_nil (hg : g.Keywords Word) (hne : words line ≠ [])
    (h : g.resolve m (words line) = .unique p) : words (g.complete m line) ≠ [] := by
  rw [words_complete hg hne h]
  exact fun he => hne (Path.eq_nil_of_expand (mem_paths_of_resolve h).2 he)

theorem resolve_iterate (hg : g.Keywords Word) (hne : words line ≠ [])
    (h : g.resolve m (words line) = .unique p) (n : Nat) :
    words ((g.complete m)^[n] line) ≠ [] ∧
      g.resolve m (words ((g.complete m)^[n] line)) = .unique p := by
  induction n with
  | zero => exact ⟨hne, h⟩
  | succ n ih =>
    rw [Function.iterate_succ_apply']
    exact ⟨words_complete_ne_nil hg ih.1 ih.2, (resolve_complete hg ih.2).1⟩

theorem words_iterate (hg : g.Keywords Word) (hne : words line ≠ [])
    (h : g.resolve m (words line) = .unique p) (n : Nat) :
    words ((g.complete m)^[n + 1] line) =
      (Path.canonical p.tokens (words line)).take ((words line).length + (n + 1)) := by
  have hstep (n : Nat) : words ((g.complete m)^[n + 1] line) =
      Path.expand p.tokens (words ((g.complete m)^[n] line)) := by
    obtain ⟨hne', h'⟩ := resolve_iterate hg hne h n
    rw [Function.iterate_succ_apply', words_complete hg hne' h']
  have hsame (n : Nat) : Path.canonical p.tokens (words ((g.complete m)^[n] line)) =
      Path.canonical p.tokens (words line) := by
    induction n with
    | zero => rfl
    | succ n ih => rw [hstep, Path.canonical_expand, ih]
  induction n with
  | zero => rw [hstep, Path.expand_eq_take, hsame, Function.iterate_zero_apply]
  | succ n ih =>
    rw [hstep, Path.expand_eq_take, hsame, ih, List.length_take]
    apply List.take_eq_take_iff.mpr
    omega

theorem iterate_complete (hg : g.Keywords Word) (hne : words line ≠ [])
    (h : g.resolve m (words line) = .unique p) (n : Nat) :
    (g.complete m)^[n + 1] line =
      unwords ((Path.canonical p.tokens (words line)).take ((words line).length + (n + 1))) := by
  obtain ⟨hne', h'⟩ := resolve_iterate hg hne h n
  rw [← words_iterate hg hne h, Function.iterate_succ_apply', words_complete hg hne' h',
    complete_of_unique hne' h']

theorem complete_converges (hg : g.Keywords Word) (hne : words line ≠ [])
    (h : g.resolve m (words line) = .unique p) :
    (∀ n, p.tokens.length ≤ n →
      (g.complete m)^[n] line = unwords (Path.canonical p.tokens (words line))) ∧
    ∀ n, g.resolve m (words ((g.complete m)^[n] line)) = .unique p := by
  refine ⟨fun n hn => ?_, fun n => (resolve_iterate hg hne h n).2⟩
  have htyped : (words line).length ≤ p.tokens.length :=
    Path.length_le_of_accepts (mem_paths_of_resolve h).2
  have hpos := List.length_pos_iff.mpr hne
  obtain ⟨k, rfl⟩ : ∃ k, n = k + 1 := Nat.exists_eq_succ_of_ne_zero (by omega)
  have hall : (Path.canonical p.tokens (words line)).length ≤ (words line).length + (k + 1) :=
    Nat.le_trans (Path.length_canonical_le _ _) (by omega)
  rw [iterate_complete hg hne h, List.take_of_length_le hall]

theorem complete_converges_open_slot :
    let p : Path := ⟨[.keyword "route", .argument "net", .keyword "via", .argument "hop",
      .keyword "metric"], .showInterface⟩
    let paths := [p, ⟨[.keyword "reload"], .reload⟩]
    let g : Grammar := ⟨fun _ => paths⟩
    let line := " ro\t10.0.0.0?"
    g.Keywords Word ∧ words line ≠ [] ∧ g.resolve .user (words line) = .unique p ∧
      (∀ n, 5 ≤ n → (g.complete .user)^[n] line = "route 10.0.0.0? via") ∧
      (∀ n, g.resolve .user (words ((g.complete .user)^[n] line)) = .unique p) ∧
      ∀ n, 4 ≤ n → (standard.complete .privileged)^[n] "sh ip" = "show ip interface brief" := by
  intro p paths g line
  have hkeywords : ∀ q ∈ paths, ∀ k ∈ q.keywords, Word k := by decide
  have hg : g.Keywords Word := fun _ => hkeywords
  have hne : words line ≠ [] := by decide
  have hp : g.resolve .user (words line) = .unique p := by decide
  have hstandard := standard_keywords.mono fun _ hk => hk.toWord
  obtain ⟨hlimit, hread⟩ := complete_converges hg hne hp
  have hspelled : unwords (Path.canonical p.tokens (words line)) = "route 10.0.0.0? via" := by
    decide
  rw [hspelled] at hlimit
  have hbrief : standard.resolve .privileged (words "sh ip") =
      .unique ⟨[.keyword "show", .keyword "ip", .keyword "interface", .keyword "brief"],
        .showIpInterfaceBrief⟩ := by decide
  have hshow := (complete_converges hstandard (by decide) hbrief).1
  exact ⟨hg, hne, hp, hlimit, hread, hshow⟩

end Grammar

end RouterLab
