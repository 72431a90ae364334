import RouterLab.Proofs.Text.Words

namespace RouterLab.Text

structure Trimmed (s : String) : Prop where
  first : ∀ c, s.toList.head? = some c → isBlank c = false
  last : ∀ c, s.toList.getLast? = some c → isBlank c = false

theorem mem_dropBlank {c : Char} {cs : List Char} (h : c ∈ dropBlank cs) : c ∈ cs :=
  (List.dropWhile_sublist isBlank).subset h

theorem mem_dropBlankEnd {c : Char} {cs : List Char} (h : c ∈ dropBlankEnd cs) : c ∈ cs := by
  obtain ⟨bs, -, hcs⟩ := dropBlankEnd_append cs
  rw [← hcs]
  exact List.mem_append_left bs h

theorem mem_trim {c : Char} {s : String} (h : c ∈ (trim s).toList) : c ∈ s.toList := by
  rw [trim, String.toList_ofList] at h
  exact mem_dropBlank (mem_dropBlankEnd h)

theorem isBlank_head?_dropBlank {c : Char} {cs : List Char} (h : (dropBlank cs).head? = some c) :
    isBlank c = false := by
  have hfirst := List.head?_dropWhile_not isBlank cs
  rw [dropBlank] at h
  rwa [h] at hfirst

theorem head?_dropBlankEnd {c : Char} (hc : isBlank c = false) (cs : List Char) :
    (dropBlankEnd (c :: cs)).head? = some c := by
  by_cases hcs : dropBlankEnd cs = []
  · simp [dropBlankEnd_cons_nil hcs, hc]
  · simp [dropBlankEnd_cons_cons hcs]

theorem head?_trim (s : String) : (trim s).toList.head? = (dropBlank s.toList).head? := by
  rw [trim, String.toList_ofList]
  cases h : dropBlank s.toList with
  | nil => rfl
  | cons c cs =>
    have hc : isBlank c = false := isBlank_head?_dropBlank (by rw [h, List.head?_cons])
    rw [head?_dropBlankEnd hc, List.head?_cons]

theorem trimmed_trim (s : String) : Trimmed (trim s) := by
  constructor
  · intro c hc
    rw [head?_trim] at hc
    exact isBlank_head?_dropBlank hc
  · intro c hc
    rw [trim, String.toList_ofList] at hc
    exact isBlank_getLast_dropBlankEnd hc

theorem Trimmed.dropBlank_eq {s : String} (h : Trimmed s) : dropBlank s.toList = s.toList := by
  cases hs : s.toList with
  | nil => rfl
  | cons c cs =>
    have hc : isBlank c = false := h.first c (by rw [hs, List.head?_cons])
    simp [dropBlank, hc]

theorem Trimmed.dropBlankEnd_eq {s : String} (h : Trimmed s) :
    dropBlankEnd s.toList = s.toList := by
  obtain ⟨bs, hbs, hcs⟩ := dropBlankEnd_append s.toList
  rcases List.eq_nil_or_concat bs with rfl | ⟨bs, b, rfl⟩
  · rwa [List.append_nil] at hcs
  · have hb : isBlank b = true := hbs b (by simp)
    have hlast : isBlank b = false := h.last b (by rw [← hcs]; simp)
    rw [hb] at hlast
    cases hlast

theorem Trimmed.trim_eq {s : String} (h : Trimmed s) : trim s = s := by
  rw [trim, h.dropBlank_eq, h.dropBlankEnd_eq, String.ofList_toList]

theorem dropBlank_append_blanks {bs : List Char} (hbs : ∀ b ∈ bs, isBlank b = true)
    (cs : List Char) : dropBlank (bs ++ cs) = dropBlank cs :=
  List.dropWhile_append_of_pos hbs

theorem dropBlankEnd_append_blanks (cs : List Char) {bs : List Char}
    (hbs : ∀ b ∈ bs, isBlank b = true) : dropBlankEnd (cs ++ bs) = dropBlankEnd cs := by
  induction cs with
  | nil =>
    induction bs with
    | nil => rfl
    | cons b bs ih =>
      have hrest : dropBlankEnd bs = [] := ih fun c hc => hbs c (List.mem_cons_of_mem b hc)
      rw [List.nil_append, dropBlankEnd_cons_nil hrest, if_pos (hbs b List.mem_cons_self)]
      rfl
  | cons c cs ih => rw [List.cons_append, dropBlankEnd, ih, dropBlankEnd]

theorem Trimmed.trim_between {s : String} (h : Trimmed s) {as bs : List Char}
    (has : ∀ a ∈ as, isBlank a = true) (hbs : ∀ b ∈ bs, isBlank b = true) :
    trim (String.ofList (as ++ (s.toList ++ bs))) = s := by
  rw [trim, String.toList_ofList, dropBlank_append_blanks has]
  cases hs : s.toList with
  | nil =>
    have hnone := dropBlank_append_blanks hbs []
    rw [List.append_nil] at hnone
    rw [List.nil_append, hnone]
    exact (String.toList_eq_nil_iff.mp hs).symm
  | cons c cs =>
    have hc : isBlank c = false := h.first c (by rw [hs, List.head?_cons])
    have hfirst : dropBlank (c :: cs ++ bs) = c :: cs ++ bs := by simp [dropBlank, hc]
    rw [hfirst, dropBlankEnd_append_blanks _ hbs, ← hs, h.dropBlankEnd_eq, String.ofList_toList]

end RouterLab.Text
