import RouterLab.Device.Listing
import RouterLab.Proofs.Address
import RouterLab.Proofs.Device.Representation
import RouterLab.Proofs.Device.Table
import RouterLab.Proofs.Text.Lines

namespace RouterLab

open Text

structure Interface.Legible (i : Interface) : Prop where
  name : PlainWord i.name
  address : ∀ a, i.address = some a → (Address.ofString? a).isSome = true

theorem Interface.legible_new {name : String} (h : PlainWord name) :
    Interface.Legible { name := name } :=
  ⟨h, fun a ha => by cases ha⟩

namespace Device

structure Legible (d : Device) : Prop where
  hostname : PlainWord d.hostname
  interfaces : ∀ i ∈ d.interfaces, i.Legible

def Call.Legible : Call → Prop
  | .configure name | .rename name => PlainWord name
  | .assign address => (Address.ofString? address).isSome = true
  | _ => True

theorem plainWord_of_mem_interfaceNames {kind : Kind} {name : String}
    (h : name ∈ kind.interfaceNames) : PlainWord name := by
  have hall : ∀ n ∈ kind.interfaceNames, PlainWord n := by
    cases kind <;> decide
  exact hall name h

theorem Built.legible {name : String} {extra : List String} {d : Device}
    (h : Built name extra d) (hname : PlainWord name) (hextra : ∀ n ∈ extra, PlainWord n) :
    Legible d := by
  obtain ⟨kind, rfl⟩ := h.eq_withInterfaces
  refine ⟨by rwa [hostname_withInterfaces],
    forall_withInterfaces (fun n hn => ?_) (fun n hn => ?_) name⟩
  · exact Interface.legible_new (plainWord_of_mem_interfaceNames hn)
  · exact Interface.legible_new (hextra n hn)

theorem legible_edit {c : Call} (hc : c.Legible) {i : Interface} (h : i.Legible) :
    (c.edit i).Legible := by
  cases c with
  | assign address => exact ⟨h.name, fun a ha => Option.some.inj ha ▸ hc⟩
  | unassign => exact ⟨h.name, nofun⟩
  | setUp up => exact ⟨h.name, h.address⟩
  | _ => exact h

theorem Legible.call {d : Device} (h : Legible d) {c : Call} (hc : c.Legible) :
    Legible (d.call c) := by
  refine ⟨?_, forall_call h.interfaces ?_ fun _ => legible_edit hc⟩
  · rw [hostname_call]
    cases c with
    | rename hostname => exact hc
    | _ => exact h.hostname
  · rintro name rfl
    exact Interface.legible_new hc

theorem oneLine_append_word {s w : String} (hs : OneLine s) (hw : Word w) :
    OneLine (s ++ w) := by
  refine ⟨?_, ?_⟩
  · intro he
    have hnil : s = "" ∧ w = "" := by simpa using congrArg String.toList he
    exact hs.ne_empty hnil.1
  · intro c hc
    rw [String.toList_append] at hc
    rcases List.mem_append.mp hc with h | h
    · exact hs.unbroken c h
    · have hb := hw.unbroken c h
      exact ⟨fun he => by simp [he, isBlank] at hb, fun he => by simp [he, isBlank] at hb⟩

theorem oneLine_interfaceConfig {i : Interface} (hi : i.Legible) :
    ∀ l ∈ interfaceConfig i, OneLine l := by
  intro l hl
  simp only [interfaceConfig, List.mem_append, List.mem_cons, List.not_mem_nil, or_false] at hl
  rcases hl with (rfl | ha) | rfl | rfl
  · exact oneLine_append_word (by decide) hi.name.toWord
  · cases h : i.address with
    | none => simp [h] at ha
    | some a =>
      obtain ⟨x, hx⟩ := Option.isSome_iff_exists.mp (hi.address a h)
      have hl : l = " ip address " ++ a := by simpa [h] using ha
      rw [hl]
      exact oneLine_append_word (by decide) (Address.plainWord_of_ofString? hx).toWord
  · cases i.up <;> decide
  · decide

theorem Legible.lines_runningConfig {d : Device} (h : Legible d) :
    lines d.runningConfig = d.configLines := by
  apply lines_unlines
  intro l hl
  rcases List.mem_cons.mp hl with rfl | hl
  · exact oneLine_append_word (by decide) h.hostname.toWord
  · obtain ⟨i, hi, hl⟩ := List.mem_flatMap.mp hl
    exact oneLine_interfaceConfig (h.interfaces i hi) l hl

end Device

end RouterLab
