import RouterLab.Device.Basic

namespace RouterLab.Device

structure Snapshot where
  name : String
  hostname : String
  kind : Kind
  mode : Mode
  active : Option String
  interfaces : List Interface
  deriving DecidableEq, Repr

def snapshot (d : Device) : Snapshot where
  name := d.name
  hostname := d.hostname
  kind := d.kind
  mode := d.mode
  active := d.active?.map (·.name)
  interfaces := d.interfaces

end RouterLab.Device
