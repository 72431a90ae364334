import RouterLab.Proofs.Device.Representation
import RouterLab.Proofs.Shell.Effect

namespace RouterLab

namespace Device

theorem name_callIf (d : Device) (c : Option Call) : (d.callIf c).name = d.name := by
  cases c with
  | none => rfl
  | some c => exact (extends_call d c).name

theorem kind_obey (sh : Shell) (line : String) (d : Device) : (d.obey sh line).kind = d.kind := by
  rw [obey]
  cases sh.request? d.mode line with
  | none => rfl
  | some c => exact (extends_call d c).kind

theorem name_obey (sh : Shell) (line : String) (d : Device) : (d.obey sh line).name = d.name :=
  name_callIf d _

theorem Sound.obey {d : Device} (h : Sound d) (sh : Shell) (line : String) :
    Sound (d.obey sh line) := by
  rw [Device.obey]
  cases sh.request? d.mode line with
  | none => exact h
  | some c => exact h.call c

end Device

theorem Network.device?_update {f : Device → Device} (hf : ∀ d, (f d).name = d.name)
    (net : Network) (name other : String) :
    (net.update name f).device? other =
      if other = name then (net.device? other).map f else net.device? other := by
  cases hd : net.device? name with
  | none =>
    by_cases ho : other = name
    · simp [update, hd, ho]
    · simp [update, hd, ho]
  | some d =>
    have hname : (f d).name = name := (hf d).trans (name_of_device? hd)
    simp only [update, hd, device?_put, hname]
    by_cases ho : other = name
    · simp [ho, hd]
    · simp [ho]

namespace Network

variable (net : Network) (name : String) (f : Device → Device)

@[simp] theorem names_update : (net.update name f).names = net.names := by
  unfold update
  split
  · exact names_put net _
  · rfl

@[simp] theorem links_update : (net.update name f).links = net.links := by
  unfold update
  split <;> rfl

end Network

namespace Network

variable {net : Network} {name : String} {f : Device → Device}

theorem update_eq {d : Device} (hd : net.device? name = some d) :
    ∃ before after, net.devices = before ++ d :: after ∧ (∀ e ∈ before, e.name ≠ name) ∧
      ∀ f : Device → Device, (∀ e, (f e).name = e.name) →
        net.update name f = { net with devices := before ++ f d :: after } := by
  obtain ⟨before, after, hdevices, hne, hput⟩ := put_eq hd
  refine ⟨before, after, hdevices, hne, fun f hf => ?_⟩
  rw [update, hd]
  exact hput (f d) ((hf d).trans (name_of_device? hd))

def identities (net : Network) : List (String × Device.Kind) :=
  net.devices.map fun d => (d.name, d.kind)

theorem map_devices_update {β : Type} {g : Device → β} (hname : ∀ d, (f d).name = d.name)
    (hg : ∀ d, g (f d) = g d) : (net.update name f).devices.map g = net.devices.map g := by
  cases hd : net.device? name with
  | none => simp [update, hd]
  | some d =>
    obtain ⟨before, after, hdevices, -, hupdate⟩ := update_eq hd
    rw [hupdate f hname, hdevices]
    simp [hg]

theorem identities_update (hname : ∀ d, (f d).name = d.name) (hkind : ∀ d, (f d).kind = d.kind) :
    (net.update name f).identities = net.identities :=
  map_devices_update hname fun d => by rw [hname, hkind]

theorem forall_update {P : Device → Prop} (h : ∀ d ∈ net.devices, P d)
    (hf : ∀ d, P d → P (f d)) : ∀ d ∈ (net.update name f).devices, P d := by
  cases hd : net.device? name with
  | none => simpa [update, hd] using h
  | some d =>
    intro e he
    simp only [update, hd, put] at he
    rcases mem_place he with rfl | hold
    · exact hf d (h d (List.mem_of_find?_eq_some hd))
    · exact h e hold

end Network

namespace Shell

/-- Steps are pairs of a device and a line. -/
def step (sh : Shell) (net : Network) (s : String × String) : Network :=
  ((sh.run s.1 s.2).apply net).2

def after (sh : Shell) (steps : List (String × String)) (net : Network) : Network :=
  steps.foldl sh.step net

def replies (sh : Shell) : List (String × String) → Network → List (Except CommandError String)
  | [], _ => []
  | s :: ss, net => ((sh.run s.1 s.2).apply net).1 :: replies sh ss (sh.step net s)

def linesFor (name : String) (steps : List (String × String)) : List String :=
  (steps.filter (·.1 == name)).map (·.2)

theorem after_cons (sh : Shell) (s : String × String) (ss : List (String × String))
    (net : Network) : sh.after (s :: ss) net = sh.after ss (sh.step net s) := by
  rw [after, List.foldl_cons, after]

theorem replies_cons (sh : Shell) (name line : String) (ss : List (String × String))
    (net : Network) :
    sh.replies ((name, line) :: ss) net =
      ((sh.run name line).apply net).1 :: sh.replies ss (sh.step net (name, line)) := by
  rw [replies]

theorem device?_step (sh : Shell) (net : Network) (s : String × String) (name : String) :
    (sh.step net s).device? name =
      if name = s.1 then (net.device? name).map (Device.obey sh s.2) else net.device? name := by
  rw [step, state_run, Network.device?_update (Device.name_obey sh s.2)]

theorem names_step (sh : Shell) (net : Network) (s : String × String) :
    (sh.step net s).names = net.names := by
  rw [step, state_run, Network.names_update]

theorem links_step (sh : Shell) (net : Network) (s : String × String) :
    (sh.step net s).links = net.links := by
  rw [step, state_run, Network.links_update]

theorem identities_step (sh : Shell) (net : Network) (s : String × String) :
    (sh.step net s).identities = net.identities := by
  rw [step, state_run]
  exact Network.identities_update (Device.name_obey sh s.2) (Device.kind_obey sh s.2)

theorem names_after (sh : Shell) (steps : List (String × String)) (net : Network) :
    (sh.after steps net).names = net.names := by
  induction steps generalizing net with
  | nil => rfl
  | cons s steps ih => rw [after_cons, ih, names_step]

theorem links_after (sh : Shell) (steps : List (String × String)) (net : Network) :
    (sh.after steps net).links = net.links := by
  induction steps generalizing net with
  | nil => rfl
  | cons s steps ih => rw [after_cons, ih, links_step]

theorem device?_after (sh : Shell) (steps : List (String × String)) (net : Network)
    (name : String) :
    (sh.after steps net).device? name =
      (net.device? name).map fun d =>
        (linesFor name steps).foldl (fun d line => d.obey sh line) d := by
  induction steps generalizing net with
  | nil => simp [after, linesFor]
  | cons s steps ih =>
    rw [after_cons, ih, device?_step]
    by_cases hs : name = s.1
    · simp [hs, linesFor, Option.map_map, Function.comp_def]
    · have hs' : (s.1 == name) = false := by simpa using Ne.symm hs
      simp [hs, hs', linesFor]

theorem after_invariant {sh : Shell} {P : Device → Prop}
    (hP : ∀ d line, P d → P (d.obey sh line)) {net : Network} {name : String} {d e : Device}
    (hd : net.device? name = some d) (hPd : P d) {steps : List (String × String)}
    (he : (sh.after steps net).device? name = some e) : P e := by
  rw [device?_after, hd, Option.map_some, Option.some.injEq] at he
  rw [← he]
  generalize linesFor name steps = ls
  clear he hd
  induction ls generalizing d with
  | nil => exact hPd
  | cons l ls ih =>
    rw [List.foldl_cons]
    exact ih (hP d l hPd)

end Shell

end RouterLab
