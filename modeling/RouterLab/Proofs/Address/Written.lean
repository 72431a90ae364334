import Mathlib.Data.List.Induction
import RouterLab.Proofs.Address

/-!
The written form of an address.  An address is read from no other text, so two texts that stand
for the same address are the same text.
-/

namespace RouterLab.Address

def octetChars (n : Fin 256) : List Char :=
  Nat.toDigits 10 n

def octets (x : Address) : List (Fin 256) :=
  [x.first, x.second, x.third, x.fourth]

def text (x : Address) : String :=
  String.ofList (['.'].intercalate (x.octets.map octetChars))

def ofDigits (ds : List Nat) : Nat :=
  ds.foldl (fun n d => 10 * n + d) 0

theorem ofDigits_concat (ds : List Nat) (d : Nat) :
    ofDigits (ds ++ [d]) = 10 * ofDigits ds + d := by
  simp [ofDigits]

theorem digitChar_of_digit? {c : Char} {d : Nat} (h : digit? c = some d) :
    d < 10 ∧ d.digitChar = c := by
  have hall : ∀ n < 10, Nat.digitChar n = Char.ofNat (n + '0'.toNat) := by decide
  by_cases hc : c.isDigit = true
  · have hd : c.toNat - '0'.toNat = d := by simpa [digit?, hc] using h
    obtain ⟨hlo, hhi⟩ := Char.isDigit_iff_toNat.mp hc
    have hlt : d < 10 := by
      have h0 : '0'.toNat = 48 := rfl
      have h9 : '9'.toNat = 57 := rfl
      omega
    refine ⟨hlt, ?_⟩
    rw [hall d hlt, ← hd, Nat.sub_add_cancel hlo, Char.ofNat_toNat]
  · simp [digit?, hc] at h

theorem digitChars_of_digits {cs : List Char} {ds : List Nat} (h : cs.mapM digit? = some ds) :
    (∀ d ∈ ds, d < 10) ∧ ds.map Nat.digitChar = cs := by
  induction cs generalizing ds with
  | nil =>
    cases h
    exact ⟨nofun, rfl⟩
  | cons c cs ih =>
    simp only [List.mapM_cons, Option.bind_eq_bind, Option.bind_eq_some_iff, Option.pure_def,
      Option.some.injEq] at h
    obtain ⟨d, hd, ds, hds, rfl⟩ := h
    obtain ⟨hlt, hchar⟩ := digitChar_of_digit? hd
    obtain ⟨hrest, hchars⟩ := ih hds
    rw [List.forall_mem_cons, List.map_cons, hchar, hchars]
    exact ⟨⟨hlt, hrest⟩, rfl⟩

theorem toDigits_ofDigits {ds : List Nat} (hne : ds ≠ []) (hlt : ∀ d ∈ ds, d < 10)
    (hlead : ds.head? ≠ some 0) :
    0 < ofDigits ds ∧ Nat.toDigits 10 (ofDigits ds) = ds.map Nat.digitChar := by
  induction ds using List.reverseRecOn with
  | nil => exact absurd rfl hne
  | append_singleton ds d ih =>
    have hd : d < 10 := hlt d (by simp)
    cases ds with
    | nil =>
      have hpos : 0 < d := Nat.pos_of_ne_zero fun h0 => hlead (by simp [h0])
      exact ⟨by simpa [ofDigits] using hpos, by simp [ofDigits, Nat.toDigits_of_lt_base hd]⟩
    | cons e ds =>
      obtain ⟨hpos, hdigits⟩ :=
        ih (List.cons_ne_nil e ds) (fun k hk => hlt k (List.mem_append_left [d] hk))
          (by simpa using hlead)
      rw [ofDigits_concat]
      refine ⟨by omega, ?_⟩
      rw [← Nat.toDigits_append_toDigits (by decide) hpos hd, hdigits, List.map_append,
        Nat.toDigits_of_lt_base hd, List.map_singleton]

theorem octetChars_of_octet? {cs : List Char} {n : Fin 256} (h : octet? cs = some n) :
    octetChars n = cs := by
  simp only [octet?, Option.bind_eq_bind, Option.bind_eq_some_iff] at h
  obtain ⟨ds, hds, h⟩ := h
  obtain ⟨hlt, hchars⟩ := digitChars_of_digits hds
  split at h
  · next hn =>
    split at h
    · next hshape =>
      have hvalue : (n : Nat) = ofDigits ds := congrArg Fin.val (Option.some.inj h).symm
      obtain ⟨hpos, -, hone | hlead⟩ := hshape
      · obtain ⟨d, rfl⟩ := List.length_eq_one_iff.mp hone
        rw [octetChars, hvalue, ← hchars]
        exact (congrArg (Nat.toDigits 10) (by simp [ofDigits])).trans
          (Nat.toDigits_of_lt_base (hlt d (by simp)))
      · have hne : ds ≠ [] := List.ne_nil_of_length_pos hpos
        rw [octetChars, hvalue, (toDigits_ofDigits hne hlt hlead).2, hchars]
    · cases h
  · cases h

theorem octet?_octetChars (n : Fin 256) : octet? (octetChars n) = some n := by
  have hall : ∀ n : Fin 256, octet? (octetChars n) = some n := by decide +kernel
  exact hall n

theorem intercalate_splitDots (cs : List Char) : ['.'].intercalate (splitDots cs) = cs := by
  induction cs with
  | nil => rfl
  | cons c cs ih =>
    obtain ⟨w, ws, hs⟩ := List.exists_cons_of_ne_nil (splitDots_ne_nil cs)
    by_cases hc : c = '.'
    · rw [splitDots, if_pos hc, hs, List.intercalate_cons_cons, ← hs, ih, hc]
      rfl
    · rw [splitDots, if_neg hc, hs]
      rw [hs] at ih
      cases ws with
      | nil => simpa using ih
      | cons v ws =>
        rw [List.intercalate_cons_cons] at ih ⊢
        exact congrArg (c :: ·) ih

theorem splitDots_of_not_mem {w : List Char} (h : '.' ∉ w) : splitDots w = [w] := by
  induction w with
  | nil => rfl
  | cons c w ih =>
    rw [List.mem_cons, not_or] at h
    rw [splitDots, if_neg (Ne.symm h.1), ih h.2]

theorem splitDots_append {w : List Char} (h : '.' ∉ w) (cs : List Char) :
    splitDots (w ++ '.' :: cs) = w :: splitDots cs := by
  induction w with
  | nil => rw [List.nil_append, splitDots, if_pos rfl]
  | cons c w ih =>
    rw [List.mem_cons, not_or] at h
    rw [List.cons_append, splitDots, if_neg (Ne.symm h.1), ih h.2]

theorem splitDots_intercalate {ws : List (List Char)} (hne : ws ≠ [])
    (h : ∀ w ∈ ws, '.' ∉ w) : splitDots (['.'].intercalate ws) = ws := by
  induction ws with
  | nil => exact absurd rfl hne
  | cons w ws ih =>
    rw [List.forall_mem_cons] at h
    cases ws with
    | nil => simpa using splitDots_of_not_mem h.1
    | cons v ws =>
      rw [List.intercalate_cons_cons, List.append_assoc, List.singleton_append,
        splitDots_append h.1, ih (List.cons_ne_nil v ws) h.2]

theorem ofString?_eq_some_iff {s : String} {x : Address} :
    ofString? s = some x ↔ s = x.text := by
  constructor
  · intro h
    obtain ⟨a, b, c, d, hs, ha, hb, hc, hd⟩ := octets_of_ofChars? h
    have hchars := intercalate_splitDots s.toList
    rw [hs, ← octetChars_of_octet? ha, ← octetChars_of_octet? hb, ← octetChars_of_octet? hc,
      ← octetChars_of_octet? hd] at hchars
    have htext : ['.'].intercalate (x.octets.map octetChars) = s.toList := hchars
    rw [text, htext, String.ofList_toList]
  · rintro rfl
    have hdots : ∀ w ∈ x.octets.map octetChars, '.' ∉ w := by
      intro w hw hmem
      obtain ⟨n, -, rfl⟩ := List.mem_map.mp hw
      exact absurd (Nat.isDigit_of_mem_toDigits (by decide) (by decide) hmem) (by decide)
    rw [ofString?, text, String.toList_ofList, ofChars?,
      splitDots_intercalate (by simp [octets]) hdots]
    simp [octets, octet?_octetChars]

theorem text_unique {s t : String} {x : Address} (hs : ofString? s = some x)
    (ht : ofString? t = some x) : s = t := by
  rw [ofString?_eq_some_iff.mp hs, ofString?_eq_some_iff.mp ht]

example : (Address.mk 10 0 0 255).text = "10.0.0.255" := by decide

end RouterLab.Address
