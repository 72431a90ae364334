import RouterLab.Network.Basic

namespace RouterLab

inductive Check where
  | interfaceUp (device interface : String)
  | interfaceAddressed (device interface : String)
  | interfaceConfigured (device interface : String)
  | hostname (device hostname : String)
  | reachable (caller address : String)
  deriving DecidableEq, Repr

namespace Check

def interfaceMeets (net : Network) (device interface : String) (p : Interface → Bool) : Bool :=
  ((net.device? device).bind (·.interface? interface)).any p

def passes (net : Network) : Check → Bool
  | .interfaceUp device interface => interfaceMeets net device interface (·.up)
  | .interfaceAddressed device interface => interfaceMeets net device interface (·.address.isSome)
  | .interfaceConfigured device interface =>
    interfaceMeets net device interface fun i => i.up && i.address.isSome
  | .hostname device name => (net.device? device).any (·.hostname == name)
  | .reachable caller address => net.reachable caller address

def device : Check → String
  | .interfaceUp device _ => device
  | .interfaceAddressed device _ => device
  | .interfaceConfigured device _ => device
  | .hostname device _ => device
  | .reachable caller _ => caller

end Check

structure Task where
  description : String
  check : Check
  deriving DecidableEq, Repr

def Task.isDone (t : Task) (net : Network) : Bool :=
  t.check.passes net

end RouterLab
