import RouterLab.Address
import RouterLab.Proofs.Text.Words

namespace RouterLab.Address

theorem octets_of_ofChars? {cs : List Char} {x : Address} (h : ofChars? cs = some x) :
    ∃ a b c d, splitDots cs = [a, b, c, d] ∧ octet? a = some x.first ∧
      octet? b = some x.second ∧ octet? c = some x.third ∧ octet? d = some x.fourth := by
  unfold ofChars? at h
  split at h
  · next a b c d hs =>
    simp only [Option.bind_eq_bind, Option.bind_eq_some_iff, Option.pure_def,
      Option.some.injEq] at h
    obtain ⟨n, hn, k, hk, i, hi, j, hj, rfl⟩ := h
    exact ⟨a, b, c, d, hs, hn, hk, hi, hj⟩
  · cases h

theorem isDigit_of_digits {cs : List Char} {ds : List Nat} (h : cs.mapM digit? = some ds) :
    ∀ c ∈ cs, c.isDigit = true := by
  induction cs generalizing ds with
  | nil => simp
  | cons c cs ih =>
    simp only [List.mapM_cons, Option.bind_eq_bind, Option.bind_eq_some_iff] at h
    obtain ⟨n, hn, ns, hns, _⟩ := h
    have hc : c.isDigit = true := by
      by_cases hc : c.isDigit = true
      · exact hc
      · simp [digit?, hc] at hn
    simpa [hc] using ih hns

theorem isDigit_of_octet? {cs : List Char} {n : Fin 256} (h : octet? cs = some n) :
    ∀ c ∈ cs, c.isDigit = true := by
  simp only [octet?, Option.bind_eq_bind, Option.bind_eq_some_iff] at h
  obtain ⟨ds, hds, _⟩ := h
  exact isDigit_of_digits hds

theorem mem_splitDots {cs : List Char} {c : Char} (h : c ∈ cs) :
    c = '.' ∨ ∃ w ∈ splitDots cs, c ∈ w := by
  induction cs with
  | nil => cases h
  | cons d cs ih =>
    by_cases hd : d = '.'
    · rcases List.mem_cons.mp h with rfl | hc
      · exact .inl hd
      · rcases ih hc with hdot | ⟨w, hw, hcw⟩
        · exact .inl hdot
        · exact .inr ⟨w, by simp [splitDots, hd, hw], hcw⟩
    · obtain ⟨v, vs, hs⟩ := List.exists_cons_of_ne_nil (splitDots_ne_nil cs)
      have hcons : splitDots (d :: cs) = (d :: v) :: vs := by simp [splitDots, hd, hs]
      rw [hcons]
      rcases List.mem_cons.mp h with rfl | hc
      · exact .inr ⟨c :: v, by simp, by simp⟩
      · rcases ih hc with hdot | ⟨w, hw, hcw⟩
        · exact .inl hdot
        · rw [hs] at hw
          rcases List.mem_cons.mp hw with rfl | hw
          · exact .inr ⟨d :: w, by simp, List.mem_cons_of_mem d hcw⟩
          · exact .inr ⟨w, List.mem_cons_of_mem _ hw, hcw⟩

theorem digit_or_dot {cs : List Char} {x : Address} (h : ofChars? cs = some x) :
    ∀ c ∈ cs, c.isDigit = true ∨ c = '.' := by
  intro e he
  obtain ⟨a, b, c, d, hs, ha, hb, hc, hd⟩ := octets_of_ofChars? h
  rcases mem_splitDots he with hdot | ⟨w, hw, hew⟩
  · exact .inr hdot
  · rw [hs] at hw
    simp only [List.mem_cons, List.not_mem_nil, or_false] at hw
    rcases hw with rfl | rfl | rfl | rfl
    · exact .inl (isDigit_of_octet? ha e hew)
    · exact .inl (isDigit_of_octet? hb e hew)
    · exact .inl (isDigit_of_octet? hc e hew)
    · exact .inl (isDigit_of_octet? hd e hew)

theorem isBlank_of_isDigit {c : Char} (h : c.isDigit = true) : Text.isBlank c = false := by
  have hlo : 48 ≤ c.toNat := by
    simpa [Char.isDigit, UInt32.le_iff_toNat_le] using (Bool.and_eq_true_iff.mp h).1
  have hhi : c.toNat ≤ 57 := by
    simpa [Char.isDigit, UInt32.le_iff_toNat_le] using (Bool.and_eq_true_iff.mp h).2
  simp only [Text.isBlank, Bool.or_eq_false_iff, Bool.and_eq_false_iff, decide_eq_false_iff_not,
    beq_eq_false_iff_ne]
  omega

theorem plainWord_of_ofString? {s : String} {x : Address} (h : ofString? s = some x) :
    Text.PlainWord s := by
  have hchars : ∀ c ∈ s.toList, c.isDigit = true ∨ c = '.' := digit_or_dot h
  refine ⟨⟨?_, ?_⟩, ?_⟩
  · rintro rfl
    cases h
  · intro c hc
    rcases hchars c hc with hd | rfl
    · exact isBlank_of_isDigit hd
    · decide
  · intro hq
    rcases hchars '?' (List.mem_of_getLast? hq) with hd | hd
    · exact absurd hd (by decide)
    · exact absurd hd (by decide)

end RouterLab.Address
