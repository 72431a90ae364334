import RouterLab.Fault
import RouterLab.Interface
import RouterLab.Mode
import RouterLab.Op

/-!
Devices: an interface table and the level at which the operator stands.  Only the interface under
configuration can be changed.
-/

namespace RouterLab

inductive Device.Kind where
  | router
  | switch
  | bare
  deriving DecidableEq, Repr, Inhabited

namespace Device.Kind

def all : List Kind :=
  [.router, .switch, .bare]

def name : Kind → String
  | .router => "router"
  | .switch => "switch"
  | .bare => "bare"

def ofName? (s : String) : Option Kind :=
  all.find? fun k => k.name == s

theorem ofName?_name (k : Kind) : ofName? k.name = some k := by
  cases k <;> decide

def interfaceNames : Kind → List String
  | .router => ["Gig0/0"]
  | .switch => ["Fa0/1"]
  | .bare => []

end Device.Kind

inductive Device.Level where
  | user
  | privileged
  | globalConfig
  | interfaceConfig (position : Nat)
  deriving DecidableEq, Repr

namespace Device.Level

def mode : Level → Mode
  | .user => .user
  | .privileged => .privileged
  | .globalConfig => .globalConfig
  | .interfaceConfig _ => .interfaceConfig

def position? : Level → Option Nat
  | .interfaceConfig i => some i
  | _ => none

def outer : Level → Level
  | .user => .user
  | .privileged => .user
  | .globalConfig => .privileged
  | .interfaceConfig _ => .globalConfig

end Device.Level

structure Device where
  name : String
  hostname : String
  kind : Device.Kind
  interfaces : List Interface
  level : Device.Level := .user
  deriving DecidableEq, Repr

namespace Device

abbrev Op := RouterLab.Op Device CommandError

def position? (d : Device) (name : String) : Option Nat :=
  d.interfaces.findIdx? (·.isNamed name)

def interface? (d : Device) (name : String) : Option Interface :=
  d.interfaces.find? (·.isNamed name)

def addInterface (d : Device) (name : String) : Device :=
  if (d.position? name).isSome then d
  else { d with interfaces := d.interfaces ++ [{ name }] }

def new (name : String) (kind : Kind) : Device where
  name
  hostname := name
  kind
  interfaces := kind.interfaceNames.map ({ name := · })

def withInterfaces (name : String) (kind : Kind) (extra : List String) : Device :=
  extra.foldl addInterface (new name kind)

def mode (d : Device) : Mode :=
  d.level.mode

def prompt (d : Device) : String :=
  d.mode.prompt d.hostname

def active? (d : Device) : Option Interface :=
  d.level.position?.bind (d.interfaces[·]?)

def rename (d : Device) (hostname : String) : Device :=
  { d with hostname }

def toUser (d : Device) : Device :=
  { d with level := .user }

def toPrivileged (d : Device) : Device :=
  { d with level := .privileged }

def toGlobalConfig (d : Device) : Device :=
  { d with level := .globalConfig }

def leave (d : Device) : Device :=
  { d with level := d.level.outer }

def configure (d : Device) (name : String) : Device :=
  match d.position? name with
  | some i => { d with level := .interfaceConfig i }
  | none => { d.addInterface name with level := .interfaceConfig d.interfaces.length }

def configureExisting (name : String) : Op Unit := do
  match (← get).position? name with
  | some i => modify fun d => { d with level := .interfaceConfig i }
  | none => .fail (.noInterface name)

def activeName : Op String := do
  match (← get).active? with
  | some i => return i.name
  | none => .fail .noActiveInterface

def modifyActive (f : Interface → Interface) : Op Unit := do
  let d ← get
  match d.level.position? with
  | some i =>
    if i < d.interfaces.length then set { d with interfaces := d.interfaces.modify i f }
    else .fail .noActiveInterface
  | none => .fail .noActiveInterface

def assign (address : String) : Op Unit :=
  modifyActive fun i => { i with address := some address }

def unassign : Op Unit :=
  modifyActive fun i => { i with address := none }

def setUp (up : Bool) : Op Unit :=
  modifyActive fun i => { i with up }

end Device

end RouterLab
