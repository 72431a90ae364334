import RouterLab.Device.Record
import RouterLab.Lab.Basic

namespace RouterLab

namespace Check

def ofKind? : String → Option (List String × (String → String → Check))
  | "interface_up" => some (["device", "interface"], .interfaceUp)
  | "interface_addressed" => some (["device", "interface"], .interfaceAddressed)
  | "interface_configured" => some (["device", "interface"], .interfaceConfigured)
  | "hostname" => some (["device", "hostname"], .hostname)
  | "reachable" => some (["from", "address"], .reachable)
  | _ => none

def ofSlots? (make : String → String → Check) : List Slot → Option Check
  | [a, b] => do return make (← a.required Datum.text?) (← b.required Datum.text?)
  | _ => none

/-- The kind stands under `type`, or first in a list, which in every dialect holds no more than
the check. -/
def ofDatum? (k : Dialect) : Datum → Option Check
  | .record fields => do
    let kind ← (← Datum.slotOf fields "type").required Datum.text?
    let (names, make) ← ofKind? kind
    ofSlots? make (← Datum.slots? k names (.record fields))
  | .list (kind :: items) => do
    let (names, make) ← ofKind? (← kind.text?)
    ofSlots? make (← Datum.slots? { k with surplus := false } names (.list items))
  | _ => none

end Check

def Task.ofDatum? (k : Dialect) (d : Datum) : Option Task := do
  let [description, check] ← d.slots? k ["description", "check"] | none
  return {
    description := ← description.required Datum.text?
    check := ← check.required (Check.ofDatum? k) }

namespace Lab

def Node.ofDatum? (k : Dialect) (d : Datum) : Option Node := do
  let [name, kind, interfaces] ← d.slots? k ["name", "kind", "interfaces"] | none
  return {
    name := ← name.required Datum.text?
    kind := ← kind.withDefault .router (Device.Kind.ofDatum? k)
    interfaces := ← interfaces.withDefault [] (Datum.list? Datum.text?) }

def Settings.ofDatum? (k : Dialect) (d : Datum) : Option Settings := do
  let [strict, limit] ← d.slots? k ["strict_interfaces", "history_limit"] | none
  return {
    strict := ← strict.withDefault false Datum.flag?
    historyLimit := ← limit.withDefault History.defaultLimit Datum.count? }

def linkOfDatum? (k : Dialect) : Datum → Option (String × String)
  | .list (a :: b :: more) =>
    if more.isEmpty || k.surplus then do return (← a.text?, ← b.text?) else none
  | _ => none

def ofDatum? (k : Dialect) (d : Datum) : Option Lab := do
  let [name, description, settings, nodes, links, tasks] ← d.slots? k
    ["name", "description", "settings", "device", "links", "task"] | none
  return {
    name := ← name.required Datum.text?
    description := ← description.withDefault "" Datum.text?
    settings := ← settings.withDefault {} (Settings.ofDatum? k)
    nodes := ← nodes.withDefault [] (Datum.list? (Node.ofDatum? k))
    links := ← links.withDefault [] (Datum.list? (linkOfDatum? k))
    tasks := ← tasks.withDefault [] (Datum.list? (Task.ofDatum? k)) }

end Lab

end RouterLab
