import RouterLab.Console
import RouterLab.Lab.Progress
import RouterLab.Text.Quoted

namespace RouterLab

structure Lab.Node where
  name : String
  kind : Device.Kind := .router
  interfaces : List String := []
  deriving DecidableEq, Repr

def Lab.Node.build (n : Node) : Device :=
  .withInterfaces n.name n.kind n.interfaces

structure Lab.Settings where
  strict : Bool := false
  historyLimit : Nat := History.defaultLimit
  deriving DecidableEq, Repr

structure Lab where
  name : String
  description : String := ""
  settings : Lab.Settings := {}
  nodes : List Lab.Node := []
  links : List (String × String) := []
  tasks : List Task := []
  deriving DecidableEq, Repr

inductive Lab.Defect where
  | duplicate (device : String)
  | strayLink (a b missing : String)
  | strayTask (description device : String)
  deriving DecidableEq, Repr

namespace Lab

def Defect.text : Defect → String
  | .duplicate device => "duplicate device " ++ device
  | .strayLink a b missing => "link " ++ a ++ "-" ++ b ++ " names unknown device " ++ missing
  | .strayTask description device =>
    "task " ++ Text.quoted description ++ " names unknown device " ++ device

def nodeNames (lab : Lab) : List String :=
  lab.nodes.map (·.name)

def firstRepeat (seen : List String) : List String → Option String
  | [] => none
  | n :: ns => if seen.contains n then some n else firstRepeat (n :: seen) ns

def linkDefect? (names : List String) (l : String × String) : Option Defect :=
  if !names.contains l.1 then some (.strayLink l.1 l.2 l.1)
  else if !names.contains l.2 then some (.strayLink l.1 l.2 l.2)
  else none

def taskDefect? (names : List String) (t : Task) : Option Defect :=
  if names.contains t.check.device then none
  else some (.strayTask t.description t.check.device)

def defect? (lab : Lab) : Option Defect :=
  ((firstRepeat [] lab.nodeNames).map .duplicate).or
    ((lab.links.findSome? (linkDefect? lab.nodeNames)).or
      (lab.tasks.findSome? (taskDefect? lab.nodeNames)))

def build (lab : Lab) : Network :=
  let devices := lab.nodes.foldl (fun net n => (net.add n.build).2) {}
  lab.links.foldl (fun net l => net.connect l.1 l.2) devices

def shell (lab : Lab) : Shell where
  strict := lab.settings.strict

def console (lab : Lab) : Except Fault Console :=
  let c := Console.new lab.build lab.shell lab.settings.historyLimit
  match lab.nodes with
  | [] => .ok c
  | n :: _ =>
    match (Console.attach n.name).apply c with
    | (.ok (), c) => .ok c
    | (.error e, _) => .error e

def progress (lab : Lab) (net : Network) : Progress :=
  .ofTasks lab.tasks net

end Lab

end RouterLab
