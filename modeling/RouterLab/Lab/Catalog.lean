import RouterLab.Lab.Basic

namespace RouterLab.Lab

def routingBasics : Lab where
  name := "Routing Basics"
  description := "Address both ends of a router-to-router link and bring it up."
  nodes := [{ name := "R1" }, { name := "R2" }]
  links := [("R1", "R2")]
  tasks :=
    [⟨"Configure IP on R1 and enable interface", .interfaceConfigured "R1" "Gig0/0"⟩,
     ⟨"Configure IP on R2 and enable interface", .interfaceConfigured "R2" "Gig0/0"⟩]

def routerSwitch : Lab where
  name := "Basic Router-Switch Network"
  description := "Two routers joined through a pair of switches."
  nodes :=
    [{ name := "R1" }, { name := "S1", kind := .switch }, { name := "S2", kind := .switch },
     { name := "R2" }]
  links := [("R1", "S1"), ("S1", "S2"), ("S2", "R2")]
  tasks :=
    [⟨"Configure IP on R1 Gig0/0 and bring it up", .interfaceConfigured "R1" "Gig0/0"⟩,
     ⟨"Configure IP on R2 Gig0/0 and bring it up", .interfaceConfigured "R2" "Gig0/0"⟩]

def vlanBasics : Lab where
  name := "Basic VLAN Setup"
  description := "Bring up the access port on both switches."
  nodes := [{ name := "S1", kind := .switch }, { name := "S2", kind := .switch }]
  links := [("S1", "S2")]
  tasks :=
    [⟨"Bring up interface Fa0/1 on S1", .interfaceUp "S1" "Fa0/1"⟩,
     ⟨"Bring up interface Fa0/1 on S2", .interfaceUp "S2" "Fa0/1"⟩]

def catalog : List (String × Lab) :=
  [("routing-basics", routingBasics),
   ("router-switch", routerSwitch),
   ("vlan-basics", vlanBasics)]

def catalogNames : List String :=
  catalog.map (·.1)

def inCatalog? (name : String) : Option Lab :=
  catalog.lookup name

theorem catalog_sound : ∀ entry ∈ catalog, entry.2.defect? = none := by
  decide

end RouterLab.Lab
