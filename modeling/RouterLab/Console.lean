import RouterLab.Session

namespace RouterLab

structure Console where
  network : Network
  shell : Shell
  sessions : List Session := []
  /-- The position of the session that lines go to. -/
  attached : Option Nat := none
  historyLimit : Nat := History.defaultLimit

namespace Console

abbrev Op := RouterLab.Op Console Fault

def new (network : Network) (shell : Shell) (historyLimit : Nat) : Console :=
  { network, shell, historyLimit }

def sessionOf? (c : Console) (device : String) : Option Session :=
  c.sessions.find? (·.device == device)

def session? (c : Console) : Option Session :=
  c.attached.bind (c.sessions[·]?)

def history? (c : Console) (device : String) : Option History :=
  (c.sessionOf? device).map (·.history)

def position? (c : Console) (device : String) : Option Nat :=
  c.sessions.findIdx? (·.device == device)

def turnTo (c : Console) (device : String) : Console :=
  match c.position? device with
  | some i => { c with attached := some i }
  | none =>
    { c with
      sessions := c.sessions ++ [.new device c.historyLimit]
      attached := some c.sessions.length }

def attach (device : String) : Op Unit := do
  let c ← get
  match c.network.device? device with
  | none => .fail (.unknownDevice device)
  | some d => set ({ c with network := c.network.put d.toUser }.turnTo device)

def require : Op Session := do
  match (← get).session? with
  | some s => return s
  | none => .fail .notAttached

def withSession (c : Console) (s : Session) : Console :=
  match c.attached with
  | some i => { c with sessions := c.sessions.set i s }
  | none => c

def submit (line : String) : Op String := do
  let s ← require
  let c ← get
  let (answer, s, net) := s.submit c.shell line c.network
  set ({ c with network := net }.withSession s)
  return answer

def complete (line : String) : Op String := do
  let s ← require
  let c ← get
  return s.complete c.shell line c.network

def older : Op String := do
  let s := (← require).older
  modify (·.withSession s)
  return s.history.current

def newer : Op String := do
  let s := (← require).newer
  modify (·.withSession s)
  return s.history.current

def prompt : Op String := do
  let s ← require
  return s.prompt (← get).network

end Console

end RouterLab
