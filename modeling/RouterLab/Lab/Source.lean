import RouterLab.Lab.Catalog
import RouterLab.Lab.Record
import RouterLab.Toml.Document

namespace RouterLab

inductive Lab.LoadError where
  | malformed
  | defective (lab : String) (defect : Lab.Defect)
  | notText (path : String)
  | unknown (name : String)
  | notInCatalog (name : String)
  deriving DecidableEq, Repr

namespace Lab

def LoadError.reason : LoadError → String
  | .malformed => "lab: <toml>"
  | .defective lab defect => "lab " ++ lab ++ ": " ++ defect.text
  | .notText path => path ++ ": stream did not contain valid UTF-8"
  | .unknown name =>
    "unknown lab " ++ Text.quoted name ++ " (built-in: " ++ ", ".intercalate catalogNames ++ ")"
  | .notInCatalog name => "unknown built-in lab: " ++ name

def LoadError.fault (e : LoadError) : Fault :=
  .config e.reason

def validate (lab : Lab) : Except LoadError Unit :=
  match lab.defect? with
  | none => .ok ()
  | some defect => .error (.defective lab.name defect)

def ofToml (document : String) : Except LoadError Lab :=
  match (Toml.read document).bind (ofDatum? Toml.dialect) with
  | none => .error .malformed
  | some lab => do
    lab.validate
    return lab

def ofBytes (path : String) (bytes : ByteArray) : Except LoadError Lab :=
  match String.fromUTF8? bytes with
  | none => .error (.notText path)
  | some document => ofToml document

def ofCatalog (name : String) : Except LoadError Lab :=
  match inCatalog? name with
  | some lab => .ok lab
  | none => .error (.notInCatalog name)

def load (file? : String → Option ByteArray) (name : String) : Except LoadError Lab :=
  match inCatalog? name with
  | some lab => .ok lab
  | none =>
    match file? name with
    | some bytes => ofBytes name bytes
    | none => .error (.unknown name)

end Lab

end RouterLab
