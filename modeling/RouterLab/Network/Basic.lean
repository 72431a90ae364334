import RouterLab.Device.Basic

/-!
Networks: devices by name, in the order of their first addition, and unordered links.
-/

namespace RouterLab

structure Link where
  a : String
  b : String
  deriving DecidableEq, Repr

namespace Link

def same (l m : Link) : Bool :=
  (l.a == m.a && l.b == m.b) || (l.a == m.b && l.b == m.a)

def touches (l : Link) (name : String) : Bool :=
  l.a == name || l.b == name

theorem same_iff {l m : Link} :
    l.same m = true ↔ (l.a = m.a ∧ l.b = m.b) ∨ (l.a = m.b ∧ l.b = m.a) := by
  simp [same]

end Link

inductive PingReply where
  | reply (address : String)
  | unreachable (address : String)
  deriving DecidableEq, Repr

namespace PingReply

def isReply : PingReply → Bool
  | .reply _ => true
  | .unreachable _ => false

def text : PingReply → String
  | .reply a => "Reply from " ++ a ++ ": bytes=32 time=1ms TTL=64"
  | .unreachable a => "Destination " ++ a ++ " unreachable"

end PingReply

structure Network where
  devices : List Device := []
  links : List Link := []
  deriving DecidableEq, Repr

namespace Network

abbrev Op := RouterLab.Op Network CommandError

def names (net : Network) : List String :=
  net.devices.map (·.name)

def device? (net : Network) (name : String) : Option Device :=
  net.devices.find? (·.name == name)

def has (net : Network) (name : String) : Bool :=
  (net.device? name).isSome

def place (d : Device) : List Device → List Device
  | [] => []
  | e :: es => if e.name == d.name then d :: es else e :: place d es

def put (net : Network) (d : Device) : Network :=
  { net with devices := place d net.devices }

def add (net : Network) (d : Device) : Option Device × Network :=
  match net.device? d.name with
  | some old => (some old, net.put d)
  | none => (none, { net with devices := net.devices ++ [d] })

def connect (net : Network) (a b : String) : Network :=
  if net.links.any (·.same ⟨a, b⟩) then net
  else { net with links := net.links ++ [⟨a, b⟩] }

def on (name : String) (op : Device.Op α) : Op α :=
  ⟨fun net =>
    match net.device? name with
    | none => (.error (.noDevice name), net)
    | some d => ((op.apply d).1, net.put (op.apply d).2)⟩

def reachable (net : Network) (caller address : String) : Bool :=
  (net.devices.filter (·.name != caller)).any fun d => d.interfaces.any (·.answers address)

def ping (net : Network) (caller address : String) : PingReply :=
  if net.reachable caller address then .reply address else .unreachable address

theorem isReply_ping (net : Network) (caller address : String) :
    (net.ping caller address).isReply = net.reachable caller address := by
  cases h : net.reachable caller address <;> simp [ping, h, PingReply.isReply]

end Network

end RouterLab
