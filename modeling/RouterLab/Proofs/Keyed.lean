import Mathlib.Data.List.Induction
import Mathlib.Data.List.Nodup

namespace RouterLab.Keyed

variable {α κ : Type} [BEq κ] [LawfulBEq κ] (key : α → κ) {xs : List α}

theorem find?_of_mem (h : (xs.map key).Nodup) {x : α} (hx : x ∈ xs) :
    xs.find? (key · == key x) = some x := by
  induction xs with
  | nil => cases hx
  | cons y xs ih =>
    rw [List.map_cons, List.nodup_cons] at h
    rcases List.mem_cons.mp hx with rfl | hmem
    · simp
    · have hne : key y ≠ key x := fun he => h.1 (he ▸ List.mem_map_of_mem hmem)
      simpa [hne] using ih h.2 hmem

theorem filter_eq_nil {k : κ} (h : k ∉ xs.map key) : xs.filter (key · == k) = [] := by
  simp only [List.filter_eq_nil_iff, beq_iff_eq]
  exact fun x hx hk => h (hk ▸ List.mem_map_of_mem hx)

theorem filter_of_mem (h : (xs.map key).Nodup) {x : α} (hx : x ∈ xs) :
    xs.filter (key · == key x) = [x] := by
  induction xs with
  | nil => cases hx
  | cons y xs ih =>
    rw [List.map_cons, List.nodup_cons] at h
    rcases List.mem_cons.mp hx with rfl | hmem
    · rw [List.filter_cons_of_pos (by simp), filter_eq_nil key h.1]
    · have hne : key y ≠ key x := fun he => h.1 (he ▸ List.mem_map_of_mem hmem)
      rw [List.filter_cons_of_neg (by simpa using hne), ih h.2 hmem]

theorem find?_set [DecidableEq κ] (h : (xs.map key).Nodup) {i : Nat} {x y : α}
    (hx : xs[i]? = some x) (hkey : key y = key x) (k : κ) :
    (xs.set i y).find? (key · == k) = if k = key x then some y else xs.find? (key · == k) := by
  induction xs generalizing i with
  | nil => simp at hx
  | cons z xs ih =>
    rw [List.map_cons, List.nodup_cons] at h
    cases i with
    | zero =>
      have hz : z = x := by simpa using hx
      by_cases hk : k = key x
      · simp [hkey, hk]
      · have hne : (key x == k) = false := by simpa using Ne.symm hk
        simp [hkey, hz, hk, hne]
    | succ i =>
      have hx' : xs[i]? = some x := by simpa using hx
      have hne : key z ≠ key x :=
        fun he => h.1 (he ▸ List.mem_map_of_mem (List.mem_of_getElem? hx'))
      rw [List.set_cons_succ, List.find?_cons, List.find?_cons, ih h.2 hx']
      by_cases hz : key z = k
      · simp [hz, hz ▸ hne]
      · have hz' : (key z == k) = false := by simpa using hz
        simp [hz']

theorem eq_of_find? (h : (xs.map key).Nodup) {ys : List α} (hkeys : ys.map key = xs.map key)
    (hfind : ∀ x ∈ xs, ys.find? (key · == key x) = some x) : ys = xs := by
  have hnodup : (ys.map key).Nodup := hkeys ▸ h
  apply List.ext_getElem
  · simpa using congrArg List.length hkeys
  · intro i hi hj
    have hkey : key ys[i] = key xs[i] := by
      have hat := congrArg (·[i]?) hkeys
      simpa [hi, hj] using hat
    have hself := find?_of_mem key hnodup (List.getElem_mem hi)
    rw [hkey, hfind _ (List.getElem_mem hj), Option.some.injEq] at hself
    exact hself.symm

section Firsts

theorem loop_concat (r : α → α → Bool) (xs kept : List α) (x : α) :
    List.eraseDupsBy.loop r (xs ++ [x]) kept =
      if (List.eraseDupsBy.loop r xs kept).any (r x) then List.eraseDupsBy.loop r xs kept
      else List.eraseDupsBy.loop r xs kept ++ [x] := by
  induction xs generalizing kept with
  | nil => cases h : kept.any (r x) <;> simp [List.eraseDupsBy.loop, h]
  | cons y xs ih =>
    rw [List.cons_append, List.eraseDupsBy.loop, List.eraseDupsBy.loop]
    split
    · exact ih kept
    · exact ih (y :: kept)

theorem eraseDupsBy_concat (r : α → α → Bool) (xs : List α) (x : α) :
    (xs ++ [x]).eraseDupsBy r =
      if (xs.eraseDupsBy r).any (r x) then xs.eraseDupsBy r else xs.eraseDupsBy r ++ [x] :=
  loop_concat r xs [] x

def firsts (xs : List α) : List α :=
  xs.eraseDupsBy fun x y => key x == key y

omit [LawfulBEq κ] in
theorem map_firsts (xs : List α) : (firsts key xs).map key = (xs.map key).eraseDups := by
  induction xs using List.reverseRecOn with
  | nil => rfl
  | append_singleton xs x ih =>
    have hany : (firsts key xs).any (key x == key ·) =
        ((xs.map key).eraseDups).any (key x == ·) := by
      rw [← ih, List.any_map, Function.comp_def]
    rw [List.map_append, List.map_singleton, List.eraseDups, firsts, eraseDupsBy_concat,
      eraseDupsBy_concat, ← firsts, ← List.eraseDups, hany]
    split
    · exact ih
    · rw [List.map_append, ih, List.map_singleton]

theorem mem_map_firsts {k : κ} : k ∈ (firsts key xs).map key ↔ k ∈ xs.map key := by
  rw [map_firsts, List.mem_eraseDups]

omit [LawfulBEq κ] in
theorem mem_of_mem_firsts {x : α} (h : x ∈ firsts key xs) : x ∈ xs := by
  induction xs using List.reverseRecOn with
  | nil => exact h
  | append_singleton xs y ih =>
    rw [firsts, eraseDupsBy_concat] at h
    split at h
    · exact List.mem_append_left _ (ih h)
    · exact (List.mem_append.mp h).elim (fun hold => List.mem_append_left _ (ih hold))
        (List.mem_append_right xs)

theorem firsts_concat_of_mem {x : α} (h : key x ∈ xs.map key) :
    firsts key (xs ++ [x]) = firsts key xs := by
  have hkept : (firsts key xs).any (key x == key ·) = true := by
    obtain ⟨y, hy, hxy⟩ := List.mem_map.mp ((mem_map_firsts key).mpr h)
    exact List.any_eq_true.mpr ⟨y, hy, by simp [hxy]⟩
  rw [firsts, eraseDupsBy_concat, ← firsts, if_pos hkept]

theorem firsts_concat_of_not_mem {x : α} (h : key x ∉ xs.map key) :
    firsts key (xs ++ [x]) = firsts key xs ++ [x] := by
  have hkept : ¬(firsts key xs).any (key x == key ·) = true := by
    intro hany
    obtain ⟨y, hy, hxy⟩ := List.any_eq_true.mp hany
    rw [beq_iff_eq] at hxy
    exact h ((mem_map_firsts key).mp (hxy ▸ List.mem_map_of_mem hy))
  rw [firsts, eraseDupsBy_concat, ← firsts, if_neg hkept]

theorem nodup_firsts (xs : List α) : ((firsts key xs).map key).Nodup := by
  induction xs using List.reverseRecOn with
  | nil => exact .nil
  | append_singleton xs x ih =>
    by_cases h : key x ∈ xs.map key
    · rwa [firsts_concat_of_mem key h]
    · rw [firsts_concat_of_not_mem key h, List.map_append, List.map_singleton,
        ← List.concat_eq_append]
      exact ih.concat fun hold => h ((mem_map_firsts key).mp hold)

theorem nodup_eraseDups (ks : List κ) : ks.eraseDups.Nodup := by
  have h := nodup_firsts id ks
  rwa [map_firsts, List.map_id] at h

theorem eraseDups_concat [DecidableEq κ] (ks : List κ) (k : κ) :
    (ks ++ [k]).eraseDups = if k ∈ ks then ks.eraseDups else ks.eraseDups ++ [k] := by
  by_cases h : k ∈ ks <;>
    simp [List.eraseDups_append, List.eraseDups_cons, List.removeAll, h]

theorem firsts_eq_filter (xs : List α) :
    firsts key xs =
      (xs.zipIdx.filter fun p => !(xs.take p.2).any (key · == key p.1)).map Prod.fst := by
  induction xs using List.reverseRecOn with
  | nil => rfl
  | append_singleton xs x ih =>
    have hold : (xs.zipIdx.filter fun p => !((xs ++ [x]).take p.2).any (key · == key p.1)) =
        xs.zipIdx.filter fun p => !(xs.take p.2).any (key · == key p.1) := by
      apply List.filter_congr
      intro p hp
      have hlt : p.2 < xs.length := by simpa using List.snd_lt_of_mem_zipIdx hp
      rw [List.take_append_of_le_length (Nat.le_of_lt hlt)]
    have hnew : xs.any (key · == key x) = true ↔ key x ∈ xs.map key := by
      simp only [List.any_eq_true, beq_iff_eq, List.mem_map]
    rw [List.zipIdx_append, List.filter_append, List.map_append, hold, ← ih]
    by_cases h : key x ∈ xs.map key
    · rw [firsts_concat_of_mem key h]
      simp [hnew.mpr h]
    · rw [firsts_concat_of_not_mem key h]
      simp [Bool.eq_false_iff.mpr (fun hany => h (hnew.mp hany))]

end Firsts

end RouterLab.Keyed
