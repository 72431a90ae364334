import RouterLab.Network.Snapshot
import RouterLab.Proofs.Shell.Run

/-!
A snapshot names the interface under configuration but not its position in the table.  Still it
tells everything: the position is in the table, and no other interface has the name.
-/

namespace RouterLab

namespace Device

inductive InUse : Device → Prop
  | built {name : String} {extra : List String} {d : Device} : Built name extra d → InUse d
  | call {d : Device} (c : Call) : InUse d → InUse (d.call c)
  | line {sh : Shell} {net : Network} {name line : String} {d e : Device} :
    net.device? name = some d → (sh.step net (name, line)).device? name = some e →
    InUse d → InUse e

theorem InUse.sound {d : Device} (h : InUse d) : Sound d := by
  induction h with
  | built hb => exact hb.sound
  | call c _ ih => exact ih.call c
  | line hd he _ ih =>
    rw [Shell.device?_step, if_pos rfl, hd] at he
    cases he
    exact ih.obey _ _

theorem DistinctNames.position_unique {is : List Interface} (h : DistinctNames is) {p q : Nat}
    {i j : Interface} (hp : is[p]? = some i) (hq : is[q]? = some j) (hname : i.name = j.name) :
    p = q := by
  obtain ⟨hplt, rfl⟩ := List.getElem?_eq_some_iff.mp hp
  obtain ⟨hqlt, rfl⟩ := List.getElem?_eq_some_iff.mp hq
  have happart := List.pairwise_iff_getElem.mp h
  rcases Nat.lt_trichotomy p q with hlt | heq | hlt
  · exact absurd (congrArg Interface.foldName hname) (happart p q hplt hqlt hlt)
  · exact heq
  · exact absurd (congrArg Interface.foldName hname.symm) (happart q p hqlt hplt hlt)

theorem Sound.active?_of_level {d : Device} (h : Sound d) {p : Nat}
    (hl : d.level = .interfaceConfig p) : ∃ i, d.interfaces[p]? = some i ∧ d.active? = some i := by
  have hlt : p < d.interfaces.length := h.in_table p (by rw [hl]; rfl)
  exact ⟨d.interfaces[p], List.getElem?_eq_getElem hlt, by simp [active?, hl, Level.position?, hlt]⟩

theorem Sound.level_eq {d e : Device} (hd : Sound d) (he : Sound e)
    (hinterfaces : d.interfaces = e.interfaces) (hmode : d.mode = e.mode)
    (hactive : d.active?.map (·.name) = e.active?.map (·.name)) : d.level = e.level := by
  cases hl : d.level with
  | interfaceConfig p =>
    have hmode' : e.mode = .interfaceConfig := by
      rw [← hmode, mode, hl]
      rfl
    obtain ⟨q, hm⟩ := level_of_interfaceConfig hmode'
    obtain ⟨i, hi, hdi⟩ := hd.active?_of_level hl
    obtain ⟨j, hj, hej⟩ := he.active?_of_level hm
    have hname : i.name = j.name := by simpa [hdi, hej] using hactive
    rw [hm, hd.distinct.position_unique hi (hinterfaces ▸ hj) hname]
  | _ =>
    cases hm : e.level <;> simp [mode, hl, hm, Level.mode] at hmode ⊢

theorem Sound.eq_of_snapshot {d e : Device} (hd : Sound d) (he : Sound e)
    (h : d.snapshot = e.snapshot) : d = e := by
  obtain ⟨hname, hhostname, hkind, hmode, hactive, hinterfaces⟩ := Snapshot.mk.inj h
  have hlevel := hd.level_eq he hinterfaces hmode hactive
  cases d
  cases e
  simp only at hname hhostname hkind hinterfaces hlevel
  simp only [hname, hhostname, hkind, hinterfaces, hlevel]

theorem snapshot_determines {d e : Device} (hd : InUse d) (he : InUse e)
    (h : d.snapshot = e.snapshot) :
    d = e ∧ d.level.position? = e.level.position? ∧
    ∀ (sh : Shell) (before after : List Device) (links : List Link)
      (steps : List (String × String)),
      let around (x : Device) : Network := { devices := before ++ x :: after, links }
      sh.replies steps (around d) = sh.replies steps (around e) ∧
      (sh.after steps (around d)).snapshot = (sh.after steps (around e)).snapshot := by
  have hsame : d = e := hd.sound.eq_of_snapshot he.sound h
  subst hsame
  exact ⟨rfl, rfl, fun _ _ _ _ _ => ⟨rfl, rfl⟩⟩

theorem snapshot_determines_two_routes :
    let d := (withInterfaces "R1" .router ["Gig0/1"]).call (.configure "GIG0/1")
    let opened : Network := { devices := [(new "R1" .router).call .toGlobalConfig] }
    let around (x : Device) : Network := { devices := [.new "S1" .switch, x] }
    let steps := [("R1", "ip add 10.0.0.1"), ("R1", "no shut"), ("R1", "int Gig0/1")]
    ∃ e, (({} : Shell).step opened ("R1", "int Gig0/1")).device? "R1" = some e ∧
      InUse d ∧ InUse e ∧ d.snapshot = e.snapshot ∧
      d.level.position? = some 1 ∧ e.level.position? = some 1 ∧
      ({} : Shell).replies steps (around d) = ({} : Shell).replies steps (around e) := by
  intro d opened around steps
  have hd : InUse d := .call _ (.built (.withInterfaces .router _))
  have hopened : opened.device? "R1" = some ((new "R1" .router).call .toGlobalConfig) := by decide
  have hline : (({} : Shell).step opened ("R1", "int Gig0/1")).device? "R1" =
      some ⟨"R1", "R1", .router, [{ name := "Gig0/0" }, { name := "Gig0/1" }],
        .interfaceConfig 1⟩ := by decide
  have he : InUse ⟨"R1", "R1", .router, [{ name := "Gig0/0" }, { name := "Gig0/1" }],
      .interfaceConfig 1⟩ := .line hopened hline (.call _ (.built (.new .router)))
  have hsnapshot : d.snapshot = Device.snapshot ⟨"R1", "R1", .router,
      [{ name := "Gig0/0" }, { name := "Gig0/1" }], .interfaceConfig 1⟩ := by decide
  obtain ⟨-, hposition, hruns⟩ := snapshot_determines hd he hsnapshot
  exact ⟨_, hline, hd, he, hsnapshot, hposition, rfl, (hruns {} [.new "S1" .switch] [] [] steps).1⟩

end Device

end RouterLab
