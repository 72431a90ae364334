import RouterLab.Device.Snapshot
import RouterLab.Network.Basic

namespace RouterLab.Network

structure Snapshot where
  devices : List Device.Snapshot
  links : List Link
  deriving DecidableEq, Repr

def snapshot (net : Network) : Snapshot where
  devices := net.devices.map (·.snapshot)
  links := net.links

end RouterLab.Network
