import Mathlib.Data.List.Forall2
import RouterLab.Proofs.Device.Call
import RouterLab.Proofs.Keyed

namespace RouterLab

namespace Interface

/-- The same character, or the two cases of one ASCII letter. -/
def CaseAlike (c d : Char) : Prop :=
  c = d ∨ ('A' ≤ c ∧ c ≤ 'Z' ∧ d.toNat = c.toNat + 32) ∨
    ('A' ≤ d ∧ d ≤ 'Z' ∧ c.toNat = d.toNat + 32)

theorem caseAlike_iff_toNat {c d : Char} :
    CaseAlike c d ↔
      c.toNat = d.toNat ∨ (65 ≤ c.toNat ∧ c.toNat ≤ 90 ∧ d.toNat = c.toNat + 32) ∨
        (65 ≤ d.toNat ∧ d.toNat ≤ 90 ∧ c.toNat = d.toNat + 32) := by
  rw [Char.toNat_inj]
  rfl

theorem toNat_toLower (c : Char) :
    c.toLower.toNat = if 65 ≤ c.toNat ∧ c.toNat ≤ 90 then c.toNat + 32 else c.toNat := by
  unfold Char.toLower
  split
  · next h =>
    have hc : 65 ≤ c.toNat ∧ c.toNat ≤ 90 := h
    have hsum : (c.val + 32).toNat = (c.toNat + 32) % 2 ^ 32 := UInt32.toNat_add c.val 32
    rw [if_pos hc]
    exact hsum.trans (Nat.mod_eq_of_lt (by omega))
  · next h => exact (if_neg h).symm

theorem toLower_eq_toLower_iff {c d : Char} : c.toLower = d.toLower ↔ CaseAlike c d := by
  rw [← Char.toNat_inj, toNat_toLower, toNat_toLower, caseAlike_iff_toNat]
  split <;> split <;> omega

theorem CaseAlike.eq_of_not_ascii {c d : Char} (h : CaseAlike c d)
    (hascii : 128 ≤ c.toNat ∨ 128 ≤ d.toNat) : c = d := by
  rw [caseAlike_iff_toNat] at h
  rw [← Char.toNat_inj]
  omega

theorem sameName_iff_caseAlike {s t : String} :
    sameName s t = true ↔ s.toList.Forall₂ CaseAlike t.toList := by
  rw [sameName_iff, foldName, foldName, ← List.forall₂_eq_eq_eq, List.forall₂_map_left_iff,
    List.forall₂_map_right_iff]
  simp only [toLower_eq_toLower_iff]

end Interface

namespace Device

open Interface (CaseAlike foldName sameName)

theorem position?_eq_none_iff_not_mem {d : Device} {names : List String}
    (h : d.interfaces = (Keyed.firsts foldName names).map ({ name := · })) (name : String) :
    d.position? name = none ↔ foldName name ∉ names.map foldName := by
  rw [position?_eq_none_iff, h, ← Keyed.mem_map_firsts foldName]
  simp

theorem withInterfaces_eq (name : String) (kind : Kind) (extra : List String) :
    withInterfaces name kind extra =
      { new name kind with
        interfaces :=
          (Keyed.firsts foldName (kind.interfaceNames ++ extra)).map ({ name := · }) } := by
  induction extra using List.reverseRecOn with
  | nil => cases kind <;> rfl
  | append_singleton extra e ih =>
    have hlast : withInterfaces name kind (extra ++ [e]) =
        (withInterfaces name kind extra).addInterface e :=
      List.foldl_concat addInterface (new name kind) e extra
    have hnone := position?_eq_none_iff_not_mem (congrArg interfaces ih) e
    rw [hlast, ← List.append_assoc]
    cases hp : (withInterfaces name kind extra).position? e with
    | none =>
      rw [addInterface_of_none hp, Keyed.firsts_concat_of_not_mem foldName (hnone.mp hp), ih]
      simp
    | some p =>
      have hold : foldName e ∈ (kind.interfaceNames ++ extra).map foldName := by
        by_contra hnew
        rw [hnone.mpr hnew] at hp
        cases hp
      rw [addInterface_of_some hp, Keyed.firsts_concat_of_mem foldName hold, ih]

theorem name_withInterfaces (name : String) (kind : Kind) (extra : List String) :
    (withInterfaces name kind extra).name = name := by
  rw [withInterfaces_eq, new]

theorem hostname_withInterfaces (name : String) (kind : Kind) (extra : List String) :
    (withInterfaces name kind extra).hostname = name := by
  rw [withInterfaces_eq, new]

theorem level_withInterfaces (name : String) (kind : Kind) (extra : List String) :
    (withInterfaces name kind extra).level = .user := by
  rw [withInterfaces_eq, new]

theorem mem_withInterfaces {name : String} {kind : Kind} {extra : List String} {i : Interface}
    (h : i ∈ (withInterfaces name kind extra).interfaces) :
    ∃ n ∈ kind.interfaceNames ++ extra, i = { name := n } := by
  rw [withInterfaces_eq] at h
  obtain ⟨n, hn, rfl⟩ := List.mem_map.mp h
  exact ⟨n, Keyed.mem_of_mem_firsts foldName hn, rfl⟩

theorem nodup_withInterfaces (name : String) (kind : Kind) (extra : List String) :
    ((withInterfaces name kind extra).interfaces.map fun i => foldName i.name).Nodup := by
  rw [withInterfaces_eq, List.map_map]
  exact Keyed.nodup_firsts foldName _

theorem seeding_keeps_first_spellings (name : String) (kind : Kind) (extra : List String) :
    let d := withInterfaces name kind extra
    let kept := (kind.interfaceNames ++ extra).eraseDupsBy sameName
    d.interfaces = kept.map ({ name := ·, address := none, up := false }) ∧
    (∀ s, (d.interface? s).isSome = true ↔ ∃ n ∈ kept, sameName n s = true) ∧
    (∀ s i, d.interface? s = some i →
      sameName i.name s = true ∧ d.interfaces.filter (fun j => sameName j.name s) = [i]) ∧
    (∀ s t, sameName s t = true ↔ s.toList.Forall₂ CaseAlike t.toList) ∧
    ∀ s t, sameName s t = true → ∀ c e : Char, (c, e) ∈ s.toList.zip t.toList →
      128 ≤ c.toNat ∨ 128 ≤ e.toNat → c = e := by
  intro d kept
  have hinterfaces : d.interfaces = kept.map ({ name := · }) :=
    congrArg interfaces (withInterfaces_eq name kind extra)
  refine ⟨hinterfaces, fun s => ?_, fun s i hi => ?_, fun s t => Interface.sameName_iff_caseAlike,
    fun s t hst c e hce hascii => ?_⟩
  · rw [interface?, List.find?_isSome, hinterfaces]
    simp [Interface.isNamed]
  · have hname := List.find?_some hi
    have hmem : i ∈ d.interfaces := List.mem_of_find?_eq_some hi
    have hnodup := nodup_withInterfaces name kind extra
    have honly := Keyed.filter_of_mem (fun j : Interface => foldName j.name) hnodup hmem
    have hfold : foldName i.name = foldName s := Interface.sameName_iff.mp hname
    simp only [hfold] at honly
    exact ⟨hname, honly⟩
  · have halike := List.forall₂_iff_zip.mp (Interface.sameName_iff_caseAlike.mp hst)
    exact (halike.2 hce).eq_of_not_ascii hascii

theorem seeding_keeps_first_spellings_sharp_s :
    let extra := ["GIG0/0", "Straße0", "STRAßE0", "Éth0", "éth0", "straßE0"]
    let d := withInterfaces "R1" .router extra
    d.interfaces = ["Gig0/0", "Straße0", "Éth0", "éth0"].map ({ name := · }) ∧
    (d.interface? "sTRAßE0").isSome = true ∧ (d.interface? "STRASSE0").isSome = false ∧
    d.interface? "sTRAßE0" = some { name := "Straße0" } ∧
    d.interfaces.filter (fun j => sameName j.name "sTRAßE0") = [{ name := "Straße0" }] ∧
    sameName "Straße0" "sTRAßE0" = true ∧
    ('ß', 'ß') ∈ "Straße0".toList.zip "sTRAßE0".toList ∧ 128 ≤ 'ß'.toNat ∧ 'ß' = 'ß' ∧
    sameName "Éth0" "éth0" = false := by
  intro extra d
  obtain ⟨hinterfaces, hsome, hunique, -, hfold⟩ :=
    seeding_keeps_first_spellings "R1" .router extra
  have hkept : (Kind.interfaceNames .router ++ extra).eraseDupsBy sameName =
      ["Gig0/0", "Straße0", "Éth0", "éth0"] := by decide
  have hfound : d.interface? "sTRAßE0" = some { name := "Straße0" } := by decide
  have hsame : sameName "Straße0" "sTRAßE0" = true := by decide
  have hzip : ('ß', 'ß') ∈ "Straße0".toList.zip "sTRAßE0".toList := by decide
  rw [hkept] at hinterfaces hsome
  have hnone : (d.interface? "STRASSE0").isSome = false := by
    rw [Bool.eq_false_iff, ne_eq, hsome]
    decide
  have hacute : sameName "Éth0" "éth0" = false := by
    rw [Bool.eq_false_iff]
    intro h
    exact absurd (hfold _ _ h 'É' 'é' (by decide) (.inl (by decide))) (by decide)
  exact ⟨hinterfaces, (hsome _).mpr (by decide), hnone, hfound, (hunique _ _ hfound).2, hsame,
    hzip, by decide, hfold _ _ hsame _ _ hzip (.inl (by decide)), hacute⟩

end Device

end RouterLab
