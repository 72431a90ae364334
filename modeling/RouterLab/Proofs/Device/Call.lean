import RouterLab.Device.Basic
import RouterLab.Proofs.Op

namespace RouterLab.Device

inductive Call where
  | toUser
  | toPrivileged
  | toGlobalConfig
  | leave
  | configure (name : String)
  | configureExisting (name : String)
  | rename (hostname : String)
  | assign (address : String)
  | unassign
  | setUp (up : Bool)
  deriving DecidableEq, Repr

def Call.op : Call → Op Unit
  | .toUser => modify Device.toUser
  | .toPrivileged => modify Device.toPrivileged
  | .toGlobalConfig => modify Device.toGlobalConfig
  | .leave => modify Device.leave
  | .configure name => modify (·.configure name)
  | .configureExisting name => Device.configureExisting name
  | .rename hostname => modify (·.rename hostname)
  | .assign address => Device.assign address
  | .unassign => Device.unassign
  | .setUp up => Device.setUp up

def call (d : Device) (c : Call) : Device :=
  (c.op.apply d).2

def onActive (d : Device) (f : Interface → Interface) : Device :=
  match d.level.position? with
  | some i => { d with interfaces := d.interfaces.modify i f }
  | none => d

def select (d : Device) (name : String) : Device :=
  match d.position? name with
  | some i => { d with level := .interfaceConfig i }
  | none => d

def Call.edit : Call → Interface → Interface
  | .assign address, i => { i with address := some address }
  | .unassign, i => { i with address := none }
  | .setUp up, i => { i with up }
  | _, i => i

def Call.Edits : Call → Prop
  | .assign _ | .unassign | .setUp _ => True
  | _ => False

theorem position?_lt {d : Device} {name : String} {i : Nat} (h : d.position? name = some i) :
    i < d.interfaces.length := by
  obtain ⟨hi, _⟩ := List.findIdx?_eq_some_iff_getElem.mp h
  exact hi

theorem position?_eq_none_iff {d : Device} {name : String} :
    d.position? name = none ↔
      ∀ i ∈ d.interfaces, Interface.foldName i.name ≠ Interface.foldName name := by
  simp [position?, List.findIdx?_eq_none_iff, Interface.isNamed, Interface.sameName]

theorem interface?_eq_none_iff {d : Device} {name : String} :
    d.interface? name = none ↔
      ∀ i ∈ d.interfaces, Interface.foldName i.name ≠ Interface.foldName name := by
  simp only [interface?, List.find?_eq_none, Interface.isNamed, Interface.sameName_iff, ne_eq]

theorem addInterface_of_none {d : Device} {name : String} (h : d.position? name = none) :
    d.addInterface name = { d with interfaces := d.interfaces ++ [{ name := name }] } := by
  simp [addInterface, h]

theorem addInterface_of_some {d : Device} {name : String} {i : Nat}
    (h : d.position? name = some i) : d.addInterface name = d := by
  simp [addInterface, h]

theorem configure_of_some {d : Device} {name : String} {i : Nat}
    (h : d.position? name = some i) :
    d.configure name = { d with level := .interfaceConfig i } := by
  simp [configure, h]

theorem configure_of_none {d : Device} {name : String} (h : d.position? name = none) :
    d.configure name =
      { d with
        interfaces := d.interfaces ++ [{ name := name }]
        level := .interfaceConfig d.interfaces.length } := by
  simp [configure, h, addInterface_of_none h]

theorem active?_eq_none_iff {d : Device} :
    d.active? = none ↔ ∀ i, d.level.position? = some i → d.interfaces.length ≤ i := by
  cases h : d.level.position? with
  | none => simp [active?, h]
  | some i => simp [active?, h]

theorem active?_onActive (d : Device) (f : Interface → Interface) :
    (d.onActive f).active? = d.active?.map f := by
  cases h : d.level.position? with
  | none => simp [active?, onActive, h]
  | some i => simp [active?, onActive, h, List.getElem?_modify]

theorem onActive_of_none {d : Device} (h : d.active? = none) (f : Interface → Interface) :
    d.onActive f = d := by
  cases hp : d.level.position? with
  | none => simp [onActive, hp]
  | some i =>
    have hle : d.interfaces.length ≤ i := active?_eq_none_iff.mp h i hp
    simp [onActive, hp, List.modify_eq_self hle]

theorem apply_modifyActive (f : Interface → Interface) (d : Device) :
    (modifyActive f).apply d =
      (if d.active?.isSome then .ok () else .error .noActiveInterface, d.onActive f) := by
  cases hp : d.level.position? with
  | none =>
    have ha : d.active? = none := by simp [active?, hp]
    simp [modifyActive, Op.apply_bind, hp, ha, onActive]
  | some i =>
    by_cases hi : i < d.interfaces.length
    · have ha : d.active?.isSome = true := by simp [active?, hp, hi]
      simp [modifyActive, Op.apply_bind, hp, hi, ha, onActive]
    · have ha : d.active? = none := by
        rw [active?_eq_none_iff]
        intro j hj
        rw [hp] at hj
        cases hj
        exact Nat.le_of_not_lt hi
      simp [modifyActive, Op.apply_bind, hp, hi, onActive_of_none ha, ha]

theorem apply_activeName (d : Device) :
    activeName.apply d =
      (match d.active? with
        | some i => .ok i.name
        | none => .error .noActiveInterface, d) := by
  cases h : d.active? with
  | none => simp [activeName, Op.apply_bind, h]
  | some i => simp [activeName, Op.apply_bind, h]

theorem apply_configureExisting (name : String) (d : Device) :
    (configureExisting name).apply d =
      (if (d.position? name).isSome then .ok () else .error (.noInterface name),
        d.select name) := by
  cases h : d.position? name with
  | none => simp [configureExisting, Op.apply_bind, h, select]
  | some i => simp [configureExisting, Op.apply_bind, h, select]

theorem call_configureExisting (d : Device) (name : String) :
    d.call (.configureExisting name) = d.select name := by
  rw [call, Call.op, apply_configureExisting]

theorem interfaces_select (d : Device) (name : String) :
    (d.select name).interfaces = d.interfaces := by
  unfold select
  split <;> rfl

theorem call_assign (d : Device) (address : String) :
    d.call (.assign address) = d.onActive fun i => { i with address := some address } := by
  rw [call, Call.op, assign, apply_modifyActive]

theorem call_unassign (d : Device) :
    d.call .unassign = d.onActive fun i => { i with address := none } := by
  rw [call, Call.op, unassign, apply_modifyActive]

theorem call_setUp (d : Device) (up : Bool) :
    d.call (.setUp up) = d.onActive fun i => { i with up } := by
  rw [call, Call.op, setUp, apply_modifyActive]

theorem Call.name_edit (c : Call) (i : Interface) : (c.edit i).name = i.name := by
  cases c <;> rfl

theorem call_of_edits {c : Call} (h : c.Edits) (d : Device) : d.call c = d.onActive c.edit := by
  cases c with
  | assign address => exact call_assign d address
  | unassign => exact call_unassign d
  | setUp up => exact call_setUp d up
  | _ => cases h

end RouterLab.Device
