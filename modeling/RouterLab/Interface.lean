/-!
Interfaces of a device.  Their names are compared without regard to the case of ASCII letters.
-/

namespace RouterLab

structure Interface where
  name : String
  address : Option String := none
  up : Bool := false
  deriving DecidableEq, Repr

namespace Interface

/-- Folds ASCII letters only: `é` and `É` stay apart. -/
def foldName (s : String) : List Char :=
  s.toList.map Char.toLower

def sameName (s t : String) : Bool :=
  foldName s == foldName t

theorem sameName_iff {s t : String} : sameName s t = true ↔ foldName s = foldName t := by
  simp [sameName]

def isNamed (i : Interface) (name : String) : Bool :=
  sameName i.name name

def addressText (i : Interface) : String :=
  i.address.getD "unassigned"

def status (i : Interface) : String :=
  if i.up then "up" else "down"

def answers (i : Interface) (address : String) : Bool :=
  i.up && i.address == some address

theorem answers_iff {i : Interface} {a : String} :
    i.answers a = true ↔ i.up = true ∧ i.address = some a := by
  simp [answers]

end Interface

end RouterLab
