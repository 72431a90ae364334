import Mathlib.Data.List.DropRight
import RouterLab.History

/-!
A history keeps the last lines that were pushed, as many as its limit allows, and its cursor stays
on them or on the fresh line.  From the fresh line the way back meets the kept lines, the newest
first, and as many steps forward end on the fresh line again.
-/

namespace RouterLab.History

inductive Call where
  | push (line : String)
  | older
  | newer
  deriving DecidableEq, Repr

def call (h : History) : Call → History
  | .push line => h.push line
  | .older => h.older
  | .newer => h.newer

def after (h : History) (ks : List Call) : History :=
  ks.foldl call h

def Call.pushed? : Call → Option String
  | .push line => some line
  | .older | .newer => none

def pushed (ks : List Call) : List String :=
  ks.filterMap Call.pushed?

def recalled : History → List Call → List String
  | _, [] => []
  | h, .push line :: ks => recalled (h.push line) ks
  | h, .older :: ks => h.older.current :: recalled h.older ks
  | h, .newer :: ks => h.newer.current :: recalled h.newer ks

structure Keeps (h : History) (n : Nat) (lines : List String) : Prop where
  limit : h.limit = n
  entries : h.entries = lines.rtake n
  cursor : h.cursor ≤ h.entries.length

variable {h : History} {n : Nat} {lines : List String}

theorem keeps_empty (limit : Nat) : (empty limit).Keeps (max 1 limit) [] :=
  ⟨rfl, by simp [empty], Nat.zero_le _⟩

theorem entries_push (h : History) (line : String) :
    (h.push line).entries =
      if h.limit < (h.entries ++ [line]).length then (h.entries ++ [line]).tail
      else h.entries ++ [line] := rfl

theorem mem_of_mem_push {e line : String} (h' : e ∈ (h.push line).entries) :
    e ∈ h.entries ∨ e = line := by
  have he : e ∈ h.entries ++ [line] := by
    rw [entries_push] at h'
    split at h'
    · exact List.mem_of_mem_tail h'
    · exact h'
  simpa using he

theorem current_eq_empty_or_mem (h : History) : h.current = "" ∨ h.current ∈ h.entries := by
  rw [current]
  cases he : h.entries[h.cursor]? with
  | none => exact .inl rfl
  | some e => exact .inr (List.mem_of_getElem? he)

theorem drop_oldest (lines : List String) (n : Nat) :
    (if n < (lines.rtake (n + 1)).length then (lines.rtake (n + 1)).tail
      else lines.rtake (n + 1)) = lines.rtake n := by
  simp only [List.rtake, List.length_drop, List.tail_drop]
  split
  · congr 1
    omega
  · congr 1
    omega

theorem Keeps.push (hk : h.Keeps n lines) (line : String) :
    (h.push line).Keeps n (lines ++ [line]) := by
  refine ⟨hk.limit, ?_, Nat.le_of_eq (cursor_push h line)⟩
  rw [entries_push, hk.limit, hk.entries, ← List.rtake_concat_succ]
  exact drop_oldest (lines ++ [line]) n

theorem Keeps.older (hk : h.Keeps n lines) : h.older.Keeps n lines :=
  ⟨hk.limit, hk.entries, Nat.le_trans (Nat.sub_le _ 1) hk.cursor⟩

theorem newer_eq (hcursor : h.cursor ≤ h.entries.length) :
    h.newer = { h with cursor := min h.entries.length (h.cursor + 1) } := by
  have hmin : (if h.cursor < h.entries.length then h.cursor + 1 else h.cursor) =
      min h.entries.length (h.cursor + 1) := by
    split <;> omega
  rw [newer, hmin]

theorem Keeps.newer (hk : h.Keeps n lines) : h.newer.Keeps n lines := by
  refine ⟨hk.limit, hk.entries, ?_⟩
  rw [newer_eq hk.cursor]
  exact Nat.min_le_left _ _

theorem after_cons (h : History) (k : Call) (ks : List Call) :
    h.after (k :: ks) = (h.call k).after ks := rfl

theorem after_append (h : History) (ks ks' : List Call) :
    h.after (ks ++ ks') = (h.after ks).after ks' :=
  List.foldl_append

theorem Keeps.call (hk : h.Keeps n lines) (k : Call) :
    (h.call k).Keeps n (lines ++ pushed [k]) := by
  cases k with
  | push line => exact hk.push line
  | older => simpa [History.call, pushed, Call.pushed?, List.filterMap_cons] using hk.older
  | newer => simpa [History.call, pushed, Call.pushed?, List.filterMap_cons] using hk.newer

theorem Keeps.after (hk : h.Keeps n lines) (ks : List Call) :
    (h.after ks).Keeps n (lines ++ pushed ks) := by
  induction ks generalizing h lines with
  | nil =>
    rw [pushed, List.filterMap_nil, List.append_nil]
    exact hk
  | cons k ks ih =>
    have hpushed : pushed (k :: ks) = pushed [k] ++ pushed ks :=
      List.filterMap_append (l := [k])
    rw [after_cons, hpushed, ← List.append_assoc]
    exact ih (hk.call k)

theorem Keeps.exists_oldest {line : String} (hk : h.Keeps (n + 1) (lines ++ [line])) :
    ∃ oldest, h.entries.head? = some oldest := by
  have hne : h.entries ≠ [] := by
    rw [hk.entries, List.rtake_concat_succ]
    exact List.concat_ne_nil _ _
  exact ⟨_, List.head?_eq_some_head hne⟩

theorem after_olders (h : History) (j : Nat) :
    h.after (.replicate j .older) = { h with cursor := h.cursor - j } := by
  induction j generalizing h with
  | zero => rfl
  | succ j ih =>
    have hcursor : h.cursor - 1 - j = h.cursor - (j + 1) := by omega
    rw [List.replicate_succ, after_cons, ih, call, older, hcursor]

theorem after_newers (hcursor : h.cursor ≤ h.entries.length) (k : Nat) :
    h.after (.replicate k .newer) =
      { h with cursor := min h.entries.length (h.cursor + k) } := by
  induction k generalizing h with
  | zero =>
    have hstay : min h.entries.length (h.cursor + 0) = h.cursor := by omega
    rw [hstay]
    rfl
  | succ k ih =>
    have hsum : min h.entries.length (min h.entries.length (h.cursor + 1) + k) =
        min h.entries.length (h.cursor + (k + 1)) := by omega
    rw [List.replicate_succ, after_cons, call, newer_eq hcursor, ih (Nat.min_le_left _ _), hsum]

theorem recalled_olders (hcursor : h.cursor ≤ h.entries.length) (j : Nat) :
    h.recalled (.replicate j .older) =
      (h.entries.take h.cursor).reverse.take j ++
        .replicate (j - h.cursor) (h.entries.headD "") := by
  induction j generalizing h with
  | zero => simp [recalled]
  | succ j ih =>
    have hle : h.older.cursor ≤ h.older.entries.length := Nat.le_trans (Nat.sub_le _ 1) hcursor
    rw [List.replicate_succ, recalled, ih hle, entries_older]
    -- on the oldest line the cursor stays, and elsewhere it comes to the line before it
    cases hc : h.cursor with
    | zero =>
      have hold : h.older.cursor = 0 := by simp [older, hc]
      have hcurrent : h.older.current = h.entries.headD "" := by
        rw [current, hold, entries_older, List.headD_eq_head?_getD, List.head?_eq_getElem?]
      rw [hold, hcurrent]
      simp [List.replicate_succ]
    | succ c =>
      have hlt : c < h.entries.length := by omega
      have hold : h.older.cursor = c := by simp [older, hc]
      have hcurrent : h.older.current = h.entries[c] := by
        rw [current, hold, entries_older, List.getElem?_eq_getElem hlt, Option.getD_some]
      have hreverse : (h.entries.take (c + 1)).reverse =
          h.entries[c] :: (h.entries.take c).reverse := by
        rw [List.take_succ_eq_append_getElem hlt, List.reverse_concat]
      rw [hold, hcurrent, hreverse, List.take_succ_cons, List.cons_append, Nat.add_sub_add_right]

theorem Keeps.recalled_push (hk : h.Keeps (n + 1) lines) (line : String) :
    ∃ oldest, (h.push line).entries.head? = some oldest ∧
      ∀ j, (h.push line).recalled (.replicate j .older) =
        (h.push line).entries.reverse.take j ++
          .replicate (j - (h.push line).entries.length) oldest := by
  obtain ⟨oldest, holdest⟩ := (hk.push line).exists_oldest
  refine ⟨oldest, holdest, fun j => ?_⟩
  rw [recalled_olders (Nat.le_of_eq (cursor_push h line)), cursor_push, List.take_length,
    List.headD_eq_head?_getD, holdest, Option.getD_some]

theorem current_fresh (hfresh : h.cursor = h.entries.length) : h.current = "" := by
  rw [current, hfresh, List.getElem?_length, Option.getD_none]

theorem after_there_and_back (hfresh : h.cursor = h.entries.length) (j k : Nat) :
    h.after (.replicate j .older ++ .replicate k .newer) =
      { h with
        cursor := min h.entries.length (h.entries.length - min j h.entries.length + k) } := by
  have hback : h.cursor - j = h.entries.length - min j h.entries.length := by omega
  rw [after_append, after_olders, after_newers (by simp [hback]), hback]

theorem after_there_and_back_eq_self (hfresh : h.cursor = h.entries.length) {j k : Nat}
    (hk : min j h.entries.length ≤ k) :
    h.after (.replicate j .older ++ .replicate k .newer) = h := by
  have hcursor : min h.entries.length (h.entries.length - min j h.entries.length + k) =
      h.cursor := by omega
  rw [after_there_and_back hfresh, hcursor]

theorem recall_walks_kept_lines (limit : Nat) (ks : List Call) :
    let h := (empty limit).after ks
    h.entries = (pushed ks).rtake (max 1 limit) ∧
    h.cursor ≤ h.entries.length ∧
    (∀ line, let p := h.push line
      ∃ oldest, p.entries.head? = some oldest ∧
        ∀ j, p.recalled (.replicate j .older) =
          p.entries.reverse.take j ++ .replicate (j - p.entries.length) oldest) ∧
    (h.cursor = h.entries.length → ∀ j k,
      let r := h.after (.replicate j .older ++ .replicate k .newer)
      r = { h with
        cursor := min h.entries.length (h.entries.length - min j h.entries.length + k) } ∧
      (min j h.entries.length ≤ k → r = h ∧ r.current = "")) := by
  intro h
  have hkeeps : h.Keeps (max 1 limit) (pushed ks) := (keeps_empty limit).after ks
  refine ⟨hkeeps.entries, hkeeps.cursor, fun line => ?_, fun hfresh j k => ?_⟩
  · rw [← Nat.sub_add_cancel (Nat.le_max_left 1 limit)] at hkeeps
    exact hkeeps.recalled_push line
  · refine ⟨after_there_and_back hfresh j k, fun hk => ?_⟩
    have hsame := after_there_and_back_eq_self hfresh hk
    exact ⟨hsame, hsame.symm ▸ current_fresh hfresh⟩

theorem recall_walks_kept_lines_over_limit :
    let ks := [Call.push "enable", .push "conf t", .older, .push "show clock", .older, .older,
      .newer, .newer, .newer]
    let h := (empty 2).after ks
    h.cursor = h.entries.length ∧ min 3 h.entries.length ≤ 2 ∧
      h.entries = ["conf t", "show clock"] ∧ h.cursor ≤ h.entries.length ∧
      (h.push "exit").recalled [.older, .older, .older] =
        ["exit", "show clock", "show clock"] ∧
      h.after [.older, .older, .older, .newer] = { h with cursor := 1 } ∧
      h.after [.older, .older, .older, .newer, .newer] = h ∧
      (h.after [.older, .older, .older, .newer, .newer]).current = "" := by
  intro ks h
  have hfresh : h.cursor = h.entries.length := by decide
  have hback : min 3 h.entries.length ≤ 2 := by decide
  obtain ⟨hentries, hcursor, hpush, hwalk⟩ := recall_walks_kept_lines 2 ks
  obtain ⟨oldest, holdest, hrecalled⟩ := hpush "exit"
  have hkept : h.entries = ["conf t", "show clock"] := hentries
  obtain rfl : oldest = "show clock" := (Option.some.inj holdest).symm
  obtain ⟨hsame, hempty⟩ := (hwalk hfresh 3 2).2 hback
  exact ⟨hfresh, hback, hkept, hcursor, hrecalled 3, (hwalk hfresh 3 1).1, hsame, hempty⟩

end RouterLab.History
