import RouterLab.Datum.Slot
import RouterLab.Device.Snapshot

namespace RouterLab

def Mode.toDatum (m : Mode) : Datum :=
  .text m.name

def Mode.ofDatum? (k : Dialect) (d : Datum) : Option Mode :=
  (d.choice? k).bind ofName?

def Device.Kind.toDatum (k : Kind) : Datum :=
  .text k.name

def Device.Kind.ofDatum? (k : Dialect) (d : Datum) : Option Kind :=
  (d.choice? k).bind ofName?

namespace Interface

def toDatum (i : Interface) : Datum :=
  .record
    [("name", .text i.name),
     ("ip_address", .ofOption .text i.address),
     ("admin_up", .flag i.up)]

def ofDatum? (k : Dialect) (d : Datum) : Option Interface := do
  let [name, address, up] ← d.slots? k ["name", "ip_address", "admin_up"] | none
  return {
    name := ← name.required Datum.text?
    address := ← address.withDefault none (Datum.optional? Datum.text?)
    up := ← up.withDefault false Datum.flag? }

end Interface

namespace Device.Snapshot

def toDatum (s : Snapshot) : Datum :=
  .record
    [("name", .text s.name),
     ("hostname", .text s.hostname),
     ("kind", s.kind.toDatum),
     ("mode", s.mode.toDatum),
     ("active_interface", .ofOption .text s.active),
     ("interfaces", .list (s.interfaces.map Interface.toDatum))]

/-- A record may leave the active interface out; a list may not. -/
def active? : Slot → Option (Option String)
  | .given d => d.optional? Datum.text?
  | .absent => some none
  | .past => none

def ofDatum? (k : Dialect) (d : Datum) : Option Snapshot := do
  let [name, hostname, kind, mode, active, interfaces] ← d.slots? k
    ["name", "hostname", "kind", "mode", "active_interface", "interfaces"] | none
  return {
    name := ← name.required Datum.text?
    hostname := ← hostname.required Datum.text?
    kind := ← kind.required (Kind.ofDatum? k)
    mode := ← mode.required (Mode.ofDatum? k)
    active := ← active? active
    interfaces := ← interfaces.required (Datum.list? (Interface.ofDatum? k)) }

end Device.Snapshot

end RouterLab
