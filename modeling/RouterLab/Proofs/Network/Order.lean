import RouterLab.Proofs.Device.Table
import RouterLab.Proofs.Shell.Run

/-!
An order on networks: one is below another that has all of its interfaces up that are up in the one,
and all of its addresses.  An interface that a device does not have counts as one that is down and
unaddressed, so adding it leads neither up nor down.
-/

namespace RouterLab

namespace Interface

structure Below (i j : Interface) : Prop where
  up : i.up = true → j.up = true
  address : ∀ a, i.address = some a → j.address = some a

theorem Below.refl (i : Interface) : i.Below i :=
  ⟨id, fun _ => id⟩

theorem Below.answers {i j : Interface} (h : i.Below j) {a : String} (ha : i.answers a = true) :
    j.answers a = true := by
  rw [answers_iff] at ha ⊢
  exact ⟨h.up ha.1, h.address a ha.2⟩

theorem below_of_blank (name : String) (j : Interface) : Below { name } j :=
  ⟨nofun, nofun⟩

theorem below_setUp (i : Interface) : i.Below { i with up := true } :=
  ⟨fun _ => rfl, fun _ => id⟩

theorem setDown_below (i : Interface) : Below { i with up := false } i :=
  ⟨nofun, fun _ => id⟩

theorem unaddressed_below (i : Interface) : Below { i with address := none } i :=
  ⟨id, nofun⟩

end Interface

namespace Device

def seen (d : Device) (name : String) : Interface :=
  (d.interface? name).getD { name }

def answers (d : Device) (a : String) : Bool :=
  d.interfaces.any (·.answers a)

structure Below (d e : Device) : Prop where
  hostname : e.hostname = d.hostname
  seen : ∀ name, (d.seen name).Below (e.seen name)
  answers : ∀ a, d.answers a = true → e.answers a = true

def Abreast (d e : Device) : Prop :=
  d.Below e ∧ e.Below d

theorem below_of_interfaces {d e : Device} (hhost : e.hostname = d.hostname)
    (h : e.interfaces = d.interfaces) : d.Below e := by
  refine ⟨hhost, fun name => ?_, fun a ha => ?_⟩
  · rw [Device.seen, Device.seen, interface?, interface?, h]
    exact .refl _
  · rwa [Device.answers, h]

theorem abreast_of_interfaces {d e : Device} (hhost : e.hostname = d.hostname)
    (h : e.interfaces = d.interfaces) : d.Abreast e :=
  ⟨below_of_interfaces hhost h, below_of_interfaces hhost.symm h.symm⟩

theorem Below.refl (d : Device) : d.Below d :=
  below_of_interfaces rfl rfl

theorem Abreast.refl (d : Device) : d.Abreast d :=
  ⟨.refl d, .refl d⟩

theorem seen_append_cons (d : Device) (before after : List Interface) (i : Interface)
    (name : String) :
    seen { d with interfaces := before ++ i :: after } name =
      (before.find? (·.isNamed name)).getD
        (if i.isNamed name then i else (after.find? (·.isNamed name)).getD { name }) := by
  cases hb : before.find? (·.isNamed name) with
  | some j => simp [seen, interface?, List.find?_append, hb]
  | none => cases hi : i.isNamed name <;> simp [seen, interface?, List.find?_append, hb, hi]

theorem onActive_eq {d : Device} (h : d.active?.isSome = true) :
    ∃ before i after, d.interfaces = before ++ i :: after ∧
      ∀ f, d.onActive f = { d with interfaces := before ++ f i :: after } := by
  obtain ⟨i, hi⟩ := Option.isSome_iff_exists.mp h
  obtain ⟨p, hp, hget⟩ := Option.bind_eq_some_iff.mp hi
  obtain ⟨hlt, rfl⟩ := List.getElem?_eq_some_iff.mp hget
  refine ⟨d.interfaces.take p, d.interfaces[p], d.interfaces.drop (p + 1), ?_, fun f => ?_⟩
  · rw [← List.drop_eq_getElem_cons, List.take_append_drop]
  · simp only [onActive, hp, List.modify_eq_take_cons_drop hlt]

theorem onActive_id (d : Device) : d.onActive id = d := by
  unfold onActive
  split
  · rw [List.modify_id]
  · rfl

theorem below_onActive (d : Device) {f g : Interface → Interface} (hf : ∀ i, (f i).name = i.name)
    (hg : ∀ i, (g i).name = i.name) (h : ∀ i, (f i).Below (g i)) :
    (d.onActive f).Below (d.onActive g) := by
  cases ha : d.active?.isSome with
  | false =>
    rw [Option.isSome_eq_false_iff, Option.isNone_iff_eq_none] at ha
    rw [onActive_of_none ha, onActive_of_none ha]
    exact .refl d
  | true =>
    obtain ⟨before, i, after, -, honActive⟩ := onActive_eq ha
    rw [honActive f, honActive g]
    -- The edited interface keeps its name, so a lookup stops at the same entry on both sides.
    refine ⟨rfl, fun name => ?_, fun a hanswers => ?_⟩
    · have hnamed : (f i).isNamed name = (g i).isNamed name := by
        rw [Interface.isNamed, Interface.isNamed, hf, hg]
      rw [seen_append_cons, seen_append_cons, hnamed]
      cases before.find? (·.isNamed name) with
      | some j => exact .refl j
      | none =>
        cases (g i).isNamed name with
        | true => exact h i
        | false => exact .refl _
    · simp only [Device.answers, List.any_append, List.any_cons, Bool.or_eq_true] at hanswers ⊢
      exact hanswers.imp_right (Or.imp_left (h i).answers)

theorem below_call_setUp (d : Device) : d.Below (d.call (.setUp true)) := by
  have hbelow : (d.onActive id).Below (d.onActive fun i => { i with up := true }) :=
    d.below_onActive (fun _ => rfl) (fun _ => rfl) Interface.below_setUp
  rwa [onActive_id, ← call_setUp] at hbelow

theorem call_setDown_below (d : Device) : (d.call (.setUp false)).Below d := by
  have hbelow : (d.onActive fun i => { i with up := false }).Below (d.onActive id) :=
    d.below_onActive (fun _ => rfl) (fun _ => rfl) Interface.setDown_below
  rwa [onActive_id, ← call_setUp] at hbelow

theorem call_unassign_below (d : Device) : (d.call .unassign).Below d := by
  have hbelow : (d.onActive fun i => { i with address := none }).Below (d.onActive id) :=
    d.below_onActive (fun _ => rfl) (fun _ => rfl) Interface.unaddressed_below
  rwa [onActive_id, ← call_unassign] at hbelow

theorem abreast_concat {d e : Device} {name : String} (hhost : e.hostname = d.hostname)
    (h : e.interfaces = d.interfaces ++ [{ name := name }]) : d.Abreast e := by
  have hanswers (a : String) : e.answers a = d.answers a := by
    simp [Device.answers, Interface.answers, h]
  have hseen (n : String) : (d.seen n).Below (e.seen n) ∧ (e.seen n).Below (d.seen n) := by
    cases hi : d.interface? n with
    | some i =>
      have hsame : e.seen n = d.seen n := by
        rw [Device.seen, Device.seen, interface?, h, List.find?_append, ← interface?, hi]
        rfl
      rw [hsame]
      exact ⟨.refl _, .refl _⟩
    | none =>
      -- What is found now, and was not there before, is as blank as nothing at all.
      have hd : d.seen n = { name := n } := by rw [Device.seen, hi, Option.getD_none]
      have he : ∃ m, e.seen n = { name := m } := by
        rw [Device.seen, interface?, h, List.find?_append, ← interface?, hi, Option.none_or,
          List.find?_singleton]
        split
        · exact ⟨name, rfl⟩
        · exact ⟨n, rfl⟩
      obtain ⟨m, he⟩ := he
      rw [hd, he]
      exact ⟨Interface.below_of_blank n _, Interface.below_of_blank m _⟩
  exact ⟨⟨hhost, fun n => (hseen n).1, fun a => (hanswers a).trans⟩,
    ⟨hhost.symm, fun n => (hseen n).2, fun a => (hanswers a).symm.trans⟩⟩

theorem abreast_configure (d : Device) (name : String) : d.Abreast (d.configure name) := by
  cases hp : d.position? name with
  | some p =>
    rw [configure_of_some hp]
    exact abreast_of_interfaces rfl rfl
  | none =>
    rw [configure_of_none hp]
    exact abreast_concat rfl rfl

/-- The operations that leave the hostname and the interfaces as they are, except that one of them
can add a blank interface. -/
def Call.Still (c : Call) : Prop :=
  ¬c.Edits ∧ ∀ hostname, c ≠ .rename hostname

theorem abreast_call {c : Call} (h : c.Still) (d : Device) : d.Abreast (d.call c) := by
  cases c with
  | toUser | toPrivileged | toGlobalConfig | leave => exact abreast_of_interfaces rfl rfl
  | configure name => exact abreast_configure d name
  | configureExisting name =>
    refine abreast_of_interfaces (hostname_call d _) ?_
    rw [call_configureExisting, interfaces_select]
  | rename hostname => exact absurd rfl (h.2 hostname)
  | assign | unassign | setUp => exact absurd trivial h.1

end Device

namespace Network

structure Below (net net' : Network) : Prop where
  device : ∀ name d, net.device? name = some d → ∃ e, net'.device? name = some e ∧ d.Below e
  reachable : ∀ caller a, net.reachable caller a = true → net'.reachable caller a = true

def Abreast (net net' : Network) : Prop :=
  net.Below net' ∧ net'.Below net

theorem Below.refl (net : Network) : net.Below net :=
  ⟨fun _ d hd => ⟨d, hd, .refl d⟩, fun _ _ => id⟩

theorem Abreast.refl (net : Network) : net.Abreast net :=
  ⟨.refl net, .refl net⟩

theorem reachable_iff_answers {net : Network} {caller a : String} :
    net.reachable caller a = true ↔
      ∃ d ∈ net.devices, d.name ≠ caller ∧ d.answers a = true := by
  simp [reachable, Device.answers]

theorem below_update {net : Network} {name : String} {f g : Device → Device}
    (hf : ∀ d, (f d).name = d.name) (hg : ∀ d, (g d).name = d.name)
    (h : ∀ d, net.device? name = some d → (f d).Below (g d)) :
    (net.update name f).Below (net.update name g) := by
  cases hd : net.device? name with
  | none =>
    have hsame (k : Device → Device) : net.update name k = net := by simp [update, hd]
    rw [hsame, hsame]
    exact .refl net
  | some d =>
    obtain ⟨before, after, -, -, hupdate⟩ := update_eq hd
    refine ⟨fun other e he => ?_, fun caller a ha => ?_⟩
    · rw [device?_update hf] at he
      rw [device?_update hg]
      by_cases ho : other = name
      · subst ho
        rw [if_pos rfl, hd] at he ⊢
        cases he
        exact ⟨g d, rfl, h d hd⟩
      · rw [if_neg ho] at he ⊢
        exact ⟨e, he, .refl e⟩
    · rw [reachable_iff_answers, hupdate f hf] at ha
      rw [reachable_iff_answers, hupdate g hg]
      obtain ⟨e, he, hne, hanswers⟩ := ha
      rcases List.mem_append.mp he with hbefore | hrest
      · exact ⟨e, List.mem_append_left _ hbefore, hne, hanswers⟩
      · rcases List.mem_cons.mp hrest with rfl | hafter
        · exact ⟨g d, by simp, by rwa [hg, ← hf], (h d hd).answers a hanswers⟩
        · exact ⟨e, by simp [hafter], hne, hanswers⟩

variable {net : Network} {name : String} {f : Device → Device}

theorem below_of_update (hf : ∀ d, (f d).name = d.name)
    (h : ∀ d, net.device? name = some d → d.Below (f d)) : net.Below (net.update name f) := by
  have hbelow := below_update (f := id) (fun _ => rfl) hf h
  rwa [update_id] at hbelow

theorem update_below (hf : ∀ d, (f d).name = d.name)
    (h : ∀ d, net.device? name = some d → (f d).Below d) : (net.update name f).Below net := by
  have hbelow := below_update (g := id) hf (fun _ => rfl) h
  rwa [update_id] at hbelow

theorem abreast_update (hf : ∀ d, (f d).name = d.name)
    (h : ∀ d, net.device? name = some d → d.Abreast (f d)) : net.Abreast (net.update name f) :=
  ⟨below_of_update hf fun d hd => (h d hd).1, update_below hf fun d hd => (h d hd).2⟩

end Network

end RouterLab
