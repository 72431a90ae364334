import RouterLab.Device.Record
import RouterLab.Network.Snapshot

namespace RouterLab

namespace Link

def toDatum (l : Link) : Datum :=
  .record [("a", .text l.a), ("b", .text l.b)]

def ofDatum? (k : Dialect) (d : Datum) : Option Link := do
  let [a, b] ← d.slots? k ["a", "b"] | none
  return { a := ← a.required Datum.text?, b := ← b.required Datum.text? }

end Link

namespace Network.Snapshot

def toDatum (s : Snapshot) : Datum :=
  .record
    [("devices", .list (s.devices.map (·.toDatum))),
     ("links", .list (s.links.map (·.toDatum)))]

def ofDatum? (k : Dialect) (d : Datum) : Option Snapshot := do
  let [devices, links] ← d.slots? k ["devices", "links"] | none
  return {
    devices := ← devices.required (Datum.list? (Device.Snapshot.ofDatum? k))
    links := ← links.required (Datum.list? (Link.ofDatum? k)) }

end Network.Snapshot

end RouterLab
