import RouterLab.Network.Basic
import RouterLab.Proofs.Keyed

namespace RouterLab.Network

theorem name_of_device? {net : Network} {name : String} {d : Device}
    (h : net.device? name = some d) : d.name = name := by
  simpa using List.find?_some h

theorem apply_on_of_some {α : Type} {net : Network} {name : String} {d : Device}
    (h : net.device? name = some d) (op : Device.Op α) :
    (on name op).apply net = ((op.apply d).1, net.put (op.apply d).2) := by
  simp [on, h]

theorem apply_on_of_none {α : Type} {net : Network} {name : String}
    (h : net.device? name = none) (op : Device.Op α) :
    (on name op).apply net = (.error (.noDevice name), net) := by
  simp [on, h]

theorem place_self {ds : List Device} {d : Device}
    (h : ds.find? (·.name == d.name) = some d) : place d ds = ds := by
  induction ds with
  | nil => rfl
  | cons e ds ih =>
    rw [List.find?_cons] at h
    cases he : e.name == d.name with
    | true =>
      have hed : e = d := by simpa [he] using h
      simp [place, hed]
    | false =>
      simp [place, he, ih (by simpa [he] using h)]

theorem put_self {net : Network} {name : String} {d : Device}
    (h : net.device? name = some d) : net.put d = net := by
  have hname := name_of_device? h
  rw [put, place_self (by simpa [device?, hname] using h)]

theorem mem_place {d e : Device} {ds : List Device} (h : e ∈ place d ds) : e = d ∨ e ∈ ds := by
  induction ds with
  | nil => cases h
  | cons f ds ih =>
    rw [place] at h
    split at h
    · rcases List.mem_cons.mp h with rfl | hrest
      · exact .inl rfl
      · exact .inr (List.mem_cons_of_mem f hrest)
    · rcases List.mem_cons.mp h with rfl | hrest
      · exact .inr List.mem_cons_self
      · exact (ih hrest).imp_right (List.mem_cons_of_mem f)

theorem place_append {d e : Device} (hname : e.name = d.name) {before : List Device}
    (hbefore : ∀ f ∈ before, f.name ≠ d.name) (after : List Device) :
    place d (before ++ e :: after) = before ++ d :: after := by
  induction before with
  | nil => simp [place, hname]
  | cons f before ih =>
    rw [List.forall_mem_cons] at hbefore
    simp [place, hbefore.1, ih hbefore.2]

theorem put_eq {net : Network} {name : String} {d : Device} (hd : net.device? name = some d) :
    ∃ before after, net.devices = before ++ d :: after ∧ (∀ e ∈ before, e.name ≠ name) ∧
      ∀ e : Device, e.name = name → net.put e = { net with devices := before ++ e :: after } := by
  have hname := name_of_device? hd
  obtain ⟨-, before, after, hdevices, hbefore⟩ := List.find?_eq_some_iff_append.mp hd
  have hne : ∀ f ∈ before, f.name ≠ name := by simpa using hbefore
  refine ⟨before, after, hdevices, hne, fun e he => ?_⟩
  have hplace : place e net.devices = before ++ e :: after := by
    rw [hdevices]
    apply place_append (hname.trans he.symm)
    rwa [he]
  rw [put, hplace]

theorem find?_place (ds : List Device) (d : Device) (name : String) :
    (place d ds).find? (·.name == name) =
      if name = d.name then (ds.find? (·.name == name)).map fun _ => d
      else ds.find? (·.name == name) := by
  induction ds with
  | nil => simp [place]
  | cons e ds ih =>
    by_cases he : e.name = d.name
    · by_cases hn : name = d.name
      · simp [place, he, hn]
      · have hd : (d.name == name) = false := by simpa using Ne.symm hn
        simp [place, he, hn, hd]
    · by_cases hen : e.name = name
      · have hn : name ≠ d.name := fun hn => he (hen.trans hn)
        simp [place, hen, hn]
      · have hen' : (e.name == name) = false := by simpa using hen
        simp only [place, beq_iff_eq, he, if_false, List.find?_cons, hen', ih]

theorem device?_put (net : Network) (d : Device) (name : String) :
    (net.put d).device? name =
      if name = d.name then (net.device? name).map fun _ => d else net.device? name :=
  find?_place net.devices d name

theorem names_place (d : Device) (ds : List Device) :
    (place d ds).map (·.name) = ds.map (·.name) := by
  induction ds with
  | nil => rfl
  | cons e ds ih =>
    by_cases he : e.name = d.name
    · simp [place, he]
    · simp [place, he, ih]

@[simp] theorem names_put (net : Network) (d : Device) : (net.put d).names = net.names :=
  names_place d net.devices

theorem has_iff {net : Network} {name : String} : net.has name = true ↔ name ∈ net.names := by
  simp [has, device?, names]

theorem has_of_some {net : Network} {name : String} {d : Device}
    (h : net.device? name = some d) : net.has name = true := by
  rw [has, h, Option.isSome_some]

theorem has_of_none {net : Network} {name : String} (h : net.device? name = none) :
    net.has name = false := by
  rw [has, h, Option.isSome_none]

theorem has_congr {net net' : Network} (h : net'.names = net.names) (name : String) :
    net'.has name = net.has name := by
  rw [Bool.eq_iff_iff, has_iff, has_iff, h]

theorem device?_of_mem {net : Network} (h : net.names.Nodup) {d : Device}
    (hd : d ∈ net.devices) : net.device? d.name = some d :=
  Keyed.find?_of_mem Device.name h hd

theorem eq_of_device? {net net' : Network} (h : net.names.Nodup)
    (hnames : net'.names = net.names) (hlinks : net'.links = net.links)
    (hfind : ∀ d ∈ net.devices, net'.device? d.name = some d) : net' = net := by
  have hdevices := Keyed.eq_of_find? Device.name h hnames hfind
  cases net
  cases net'
  simp only at hdevices hlinks
  rw [hdevices, hlinks]

end RouterLab.Network
