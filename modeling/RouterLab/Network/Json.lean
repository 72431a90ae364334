import RouterLab.Json.Format
import RouterLab.Network.Record

namespace RouterLab

open Json (Format)

def Interface.ofJson? (text : String) (f : Format := .standard) : Option Interface := do
  ofDatum? f.dialect (← f.read text)

def Device.Snapshot.toJson (s : Snapshot) (f : Format := .standard) : String :=
  f.compact s.toDatum

def Device.Snapshot.ofJson? (text : String) (f : Format := .standard) : Option Snapshot := do
  ofDatum? f.dialect (← f.read text)

def Network.Snapshot.toJson (s : Snapshot) (f : Format := .standard) : String :=
  f.pretty s.toDatum

def Network.Snapshot.ofJson? (text : String) (f : Format := .standard) : Option Snapshot := do
  ofDatum? f.dialect (← f.read text)

end RouterLab
