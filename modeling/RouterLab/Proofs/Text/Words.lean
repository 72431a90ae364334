import RouterLab.Text.Blank

namespace RouterLab.Text

structure Word (s : String) : Prop where
  ne_empty : s ≠ ""
  unbroken : ∀ c ∈ s.toList, isBlank c = false

/-- A word that does not turn the line it ends into a question. -/
structure PlainWord (s : String) : Prop extends Word s where
  asks_nothing : s.toList.getLast? ≠ some '?'

instance (s : String) : Decidable (Word s) :=
  decidable_of_iff (s ≠ "" ∧ (s.toList.all fun c => !isBlank c) = true)
    ⟨fun ⟨h, h'⟩ => ⟨h, by simpa using h'⟩, fun ⟨h, h'⟩ => ⟨h, by simpa using h'⟩⟩

instance (s : String) : Decidable (PlainWord s) :=
  decidable_of_iff (Word s ∧ s.toList.getLast? ≠ some '?')
    ⟨fun ⟨h, h'⟩ => ⟨h, h'⟩, fun ⟨h, h'⟩ => ⟨h, h'⟩⟩

theorem splitBlank_ne_nil {cs : List Char} (h : atGap cs = false) : splitBlank cs ≠ [] := by
  cases cs with
  | nil => simp [atGap] at h
  | cons c cs =>
    intro hn
    have hb : isBlank c = true := splitBlank_eq_nil_iff.mp hn c (by simp)
    simp [atGap, hb] at h

theorem splitBlank_cons_gap {c : Char} {cs : List Char} (hc : isBlank c = false)
    (hg : atGap cs = true) : splitBlank (c :: cs) = [c] :: splitBlank cs := by
  simp [splitBlank, hc, hg]

theorem splitBlank_cons_glue {c : Char} {cs : List Char} (hc : isBlank c = false)
    (hg : atGap cs = false) : splitBlank (c :: cs) = glue c (splitBlank cs) := by
  simp [splitBlank, hc, hg]

theorem glue_append (c : Char) {ws : List (List Char)} (h : ws ≠ []) (vs : List (List Char)) :
    glue c (ws ++ vs) = glue c ws ++ vs := by
  cases ws with
  | nil => exact absurd rfl h
  | cons w ws => rfl

theorem splitBlank_append_blank (cs : List Char) {b : Char} (hb : isBlank b = true)
    (ds : List Char) : splitBlank (cs ++ b :: ds) = splitBlank cs ++ splitBlank ds := by
  induction cs with
  | nil => exact splitBlank_cons_blank hb ds
  | cons c cs ih =>
    have hgap : atGap (cs ++ b :: ds) = atGap cs := by
      cases cs with
      | nil => exact hb
      | cons d cs => rfl
    rw [List.cons_append]
    cases hc : isBlank c with
    | true => rw [splitBlank_cons_blank hc, splitBlank_cons_blank hc, ih]
    | false =>
      cases hg : atGap cs with
      | true =>
        rw [splitBlank_cons_gap hc (hgap.trans hg), splitBlank_cons_gap hc hg, ih,
          List.cons_append]
      | false =>
        rw [splitBlank_cons_glue hc (hgap.trans hg), splitBlank_cons_glue hc hg, ih,
          glue_append c (splitBlank_ne_nil hg)]

theorem splitBlank_append_blanks (cs : List Char) {bs : List Char}
    (hbs : ∀ b ∈ bs, isBlank b = true) : splitBlank (cs ++ bs) = splitBlank cs := by
  cases bs with
  | nil => rw [List.append_nil]
  | cons b bs =>
    have hnil : splitBlank bs = [] :=
      splitBlank_eq_nil_iff.mpr fun c hc => hbs c (List.mem_cons_of_mem b hc)
    rw [splitBlank_append_blank cs (hbs b (by simp)) bs, hnil, List.append_nil]

theorem splitBlank_unbroken {w : List Char} (hne : w ≠ [])
    (hw : ∀ c ∈ w, isBlank c = false) : splitBlank w = [w] := by
  induction w with
  | nil => exact absurd rfl hne
  | cons c w ih =>
    have hc : isBlank c = false := hw c (by simp)
    cases w with
    | nil => exact splitBlank_cons_gap hc rfl
    | cons d w =>
      have hd : atGap (d :: w) = false := hw d (by simp)
      rw [splitBlank_cons_glue hc hd, ih (by simp) fun e he => hw e (List.mem_cons_of_mem c he)]
      rfl

theorem unbroken_of_mem_splitBlank {cs w : List Char} (h : w ∈ splitBlank cs) :
    w ≠ [] ∧ ∀ c ∈ w, isBlank c = false := by
  induction cs generalizing w with
  | nil => simp [splitBlank] at h
  | cons c cs ih =>
    cases hc : isBlank c with
    | true =>
      rw [splitBlank_cons_blank hc] at h
      exact ih h
    | false =>
      cases hg : atGap cs with
      | true =>
        rw [splitBlank_cons_gap hc hg] at h
        rcases List.mem_cons.mp h with rfl | hw
        · simpa using hc
        · exact ih hw
      | false =>
        obtain ⟨v, vs, hs⟩ := List.exists_cons_of_ne_nil (splitBlank_ne_nil hg)
        rw [splitBlank_cons_glue hc hg, hs] at h
        rcases List.mem_cons.mp h with rfl | hw
        · have hv := (ih (w := v) (by simp [hs])).2
          exact ⟨List.cons_ne_nil c v, by simpa [hc] using hv⟩
        · exact ih (by simp [hs, hw])

theorem splitBlank_concat (cs : List Char) {q : Char} (hq : isBlank q = false) :
    ∃ ws w, splitBlank (cs ++ [q]) = ws ++ [w ++ [q]] ∧ splitBlank cs = ws ++ splitBlank w := by
  induction cs with
  | nil => exact ⟨[], [], splitBlank_cons_gap hq rfl, rfl⟩
  | cons c cs ih =>
    obtain ⟨ws, w, hcat, hcs⟩ := ih
    rw [List.cons_append]
    cases hc : isBlank c with
    | true => exact ⟨ws, w, by rwa [splitBlank_cons_blank hc], by rwa [splitBlank_cons_blank hc]⟩
    | false =>
      cases hg : atGap (cs ++ [q]) with
      | true =>
        have hg' : atGap cs = true := by
          cases cs with
          | nil => rfl
          | cons d cs => exact hg
        refine ⟨[c] :: ws, w, ?_, ?_⟩
        · rw [splitBlank_cons_gap hc hg, hcat, List.cons_append]
        · rw [splitBlank_cons_gap hc hg', hcs, List.cons_append]
      | false =>
        cases ws with
        | cons v ws =>
          refine ⟨(c :: v) :: ws, w, ?_, ?_⟩
          · rw [splitBlank_cons_glue hc hg, hcat]
            rfl
          · have hg' : atGap cs = false := by
              cases cs with
              | nil => simp [splitBlank] at hcs
              | cons d cs => exact hg
            rw [splitBlank_cons_glue hc hg', hcs]
            rfl
        | nil =>
          -- one word up to `q`, which `c` makes longer
          have hmem : w ++ [q] ∈ splitBlank (cs ++ [q]) := by simp [hcat]
          have hw := (unbroken_of_mem_splitBlank hmem).2
          have hcw : ∀ e ∈ c :: w, isBlank e = false := by
            simp only [List.forall_mem_cons]
            exact ⟨hc, fun e he => hw e (by simp [he])⟩
          refine ⟨[], c :: w, ?_, ?_⟩
          · rw [splitBlank_cons_glue hc hg, hcat]
            rfl
          · rw [splitBlank_unbroken (List.cons_ne_nil c w) hcw]
            cases cs with
            | nil =>
              have hsingle : splitBlank [q] = [[q]] := splitBlank_cons_gap hq rfl
              have hnil : w = [] := by simpa [hsingle] using hcat
              rw [hnil]
              exact splitBlank_cons_gap hc rfl
            | cons d cs =>
              have hg' : atGap (d :: cs) = false := hg
              have hne : w ≠ [] := by
                rintro rfl
                exact splitBlank_ne_nil hg' hcs
              rw [splitBlank_cons_glue hc hg', hcs,
                splitBlank_unbroken hne fun e he => hw e (by simp [he])]
              rfl

theorem splitBlank_dropBlank (cs : List Char) : splitBlank (dropBlank cs) = splitBlank cs := by
  induction cs with
  | nil => rfl
  | cons c cs ih =>
    by_cases hc : isBlank c = true
    · rw [splitBlank_cons_blank hc, ← ih]
      simp [dropBlank, hc]
    · simp [dropBlank, hc]

theorem dropBlankEnd_cons_nil {cs : List Char} (h : dropBlankEnd cs = []) (c : Char) :
    dropBlankEnd (c :: cs) = if isBlank c then [] else [c] := by
  rw [dropBlankEnd, h]

theorem dropBlankEnd_cons_cons {cs : List Char} (h : dropBlankEnd cs ≠ []) (c : Char) :
    dropBlankEnd (c :: cs) = c :: dropBlankEnd cs := by
  obtain ⟨d, ds, hd⟩ := List.exists_cons_of_ne_nil h
  rw [dropBlankEnd, hd]

theorem dropBlankEnd_append (cs : List Char) :
    ∃ bs, (∀ b ∈ bs, isBlank b = true) ∧ dropBlankEnd cs ++ bs = cs := by
  induction cs with
  | nil => exact ⟨[], by simp, rfl⟩
  | cons c cs ih =>
    obtain ⟨bs, hbs, hcs⟩ := ih
    by_cases hd : dropBlankEnd cs = []
    · have hcs' : bs = cs := by simpa [hd] using hcs
      rw [dropBlankEnd_cons_nil hd, ← hcs']
      cases hc : isBlank c with
      | true => exact ⟨c :: bs, by simpa [hc] using hbs, rfl⟩
      | false => exact ⟨bs, hbs, rfl⟩
    · refine ⟨bs, hbs, ?_⟩
      rw [dropBlankEnd_cons_cons hd, List.cons_append, hcs]

theorem isBlank_getLast_dropBlankEnd {cs : List Char} {q : Char}
    (h : (dropBlankEnd cs).getLast? = some q) : isBlank q = false := by
  induction cs with
  | nil => simp [dropBlankEnd] at h
  | cons c cs ih =>
    by_cases hd : dropBlankEnd cs = []
    · rw [dropBlankEnd_cons_nil hd] at h
      cases hc : isBlank c with
      | true => simp [hc] at h
      | false =>
        have hq : c = q := by simpa [hc] using h
        rw [← hq, hc]
    · rw [dropBlankEnd_cons_cons hd, List.getLast?_cons_of_ne_nil hd] at h
      exact ih h

theorem splitBlank_trim (s : String) : splitBlank (trim s).toList = splitBlank s.toList := by
  obtain ⟨bs, hbs, hcs⟩ := dropBlankEnd_append (dropBlank s.toList)
  rw [← splitBlank_dropBlank s.toList, ← hcs, splitBlank_append_blanks _ hbs]
  simp [trim]

theorem words_trim (s : String) : words (trim s) = words s := by
  rw [words, words, splitBlank_trim]

theorem word_of_mem_words {line w : String} (h : w ∈ words line) : Word w := by
  obtain ⟨cs, hcs, rfl⟩ := List.mem_map.mp h
  obtain ⟨hne, hw⟩ := unbroken_of_mem_splitBlank hcs
  refine ⟨fun he => hne ?_, by simpa using hw⟩
  simpa using congrArg String.toList he

theorem words_eq_of_word {w : String} (h : Word w) : words w = [w] := by
  have hne : w.toList ≠ [] := fun he => h.ne_empty (by simpa using he)
  rw [words, splitBlank_unbroken hne h.unbroken]
  simp

theorem words_of_unbroken {s : String} (h : ∀ c ∈ s.toList, isBlank c = false) :
    words s = if s = "" then [] else [s] := by
  split
  · next hs => rw [hs, words_empty]
  · next hs => exact words_eq_of_word ⟨hs, h⟩

theorem words_append_blank (s t : String) {b : Char} (hb : isBlank b = true) :
    words (s ++ String.singleton b ++ t) = words s ++ words t := by
  simp [words, splitBlank_append_blank _ hb]

theorem unwords_cons_cons (w v : String) (ws : List String) :
    unwords (w :: v :: ws) = w ++ " " ++ unwords (v :: ws) := by
  simp [unwords, String.intercalate_cons_cons]

theorem mem_unwords {c : Char} {ws : List String} (h : c ∈ (unwords ws).toList) :
    c = ' ' ∨ ∃ w ∈ ws, c ∈ w.toList := by
  induction ws with
  | nil => simp [unwords] at h
  | cons w ws ih =>
    cases ws with
    | nil => exact .inr ⟨w, by simp, by simpa [unwords] using h⟩
    | cons v ws =>
      simp only [unwords_cons_cons, String.toList_append, List.mem_append] at h
      rcases h with (hw | hblank) | hrest
      · exact .inr ⟨w, by simp, hw⟩
      · exact .inl (by simpa using hblank)
      · rcases ih hrest with hblank | ⟨u, hu, hc⟩
        · exact .inl hblank
        · exact .inr ⟨u, List.mem_cons_of_mem w hu, hc⟩

theorem words_unwords {ws : List String} (h : ∀ w ∈ ws, Word w) : words (unwords ws) = ws := by
  induction ws with
  | nil => rfl
  | cons w ws ih =>
    have hw : words w = [w] := words_eq_of_word (h w (by simp))
    have ih' := ih fun v hv => h v (List.mem_cons_of_mem w hv)
    cases ws with
    | nil => simpa [unwords] using hw
    | cons v ws =>
      have hcut := words_append_blank w (unwords (v :: ws)) (b := ' ') (by decide)
      rw [unwords_cons_cons]
      rw [ih', hw] at hcut
      exact hcut

end RouterLab.Text
