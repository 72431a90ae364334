import RouterLab.Device.Basic
import RouterLab.Text.Blank
import RouterLab.Text.Column

namespace RouterLab.Device

open Text

structure Row where
  name : String
  address : String
  status : String
  deriving DecidableEq, Repr

def Row.line (r : Row) : String :=
  padded 22 r.name ++ " " ++ padded 15 r.address ++ " " ++ r.status

def brief (d : Device) : List Row :=
  d.interfaces.map fun i => ⟨i.name, i.addressText, i.status⟩

def briefHeader : Row :=
  ⟨"Interface", "IP-Address", "Status"⟩

def briefTable (d : Device) : String :=
  unlines ((briefHeader :: d.brief).map Row.line)

def interfaceConfig (i : Interface) : List String :=
  ["interface " ++ i.name] ++
    (match i.address with
      | some a => [" ip address " ++ a]
      | none => []) ++
    [if i.up then " no shutdown" else " shutdown", " exit"]

def configLines (d : Device) : List String :=
  ("hostname " ++ d.hostname) :: d.interfaces.flatMap interfaceConfig

/-- Lines that would configure a fresh device like this one. -/
def runningConfig (d : Device) : String :=
  unlines d.configLines

def describe (i : Interface) : String :=
  i.name ++ " is " ++ (if i.up then "up" else "administratively down") ++
    "\n  Internet address is " ++ i.addressText

def showInterface (d : Device) (name : String) : Except CommandError String :=
  match d.interface? name with
  | some i => .ok (describe i)
  | none => .error (.noInterface name)

end RouterLab.Device
