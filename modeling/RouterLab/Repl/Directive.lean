import RouterLab.Lab.Basic
import RouterLab.Network.Json

/-!
Lines that begin with a colon are for the console itself and not for the attached device.
-/

namespace RouterLab

inductive Directive where
  | connect (device : String)
  | devices
  | complete (text : String)
  | prev
  | next
  | history
  | progress
  | snapshot
  | quit
  | help
  | unknown (text : String)
  deriving DecidableEq, Repr

namespace Directive

/-- `arg` is what follows the word; `rest` is the whole line after its colon. -/
def ofWord (word arg rest : String) : Directive :=
  if (word = "connect" ∨ word = "c") ∧ arg ≠ "" then .connect arg
  else if word = "devices" ∨ word = "d" then .devices
  else if word = "complete" ∨ word = "tab" then .complete arg
  else if word = "prev" ∨ word = "up" then .prev
  else if word = "next" ∨ word = "down" then .next
  else if word = "history" then .history
  else if word = "progress" ∨ word = "p" then .progress
  else if word = "snapshot" then .snapshot
  else if word = "quit" ∨ word = "q" then .quit
  else if word = "help" ∨ word = "h" then .help
  else .unknown rest

def ofLine? (line : String) : Option Directive :=
  match Text.dropBlank line.toList with
  | ':' :: rest =>
    let word := rest.takeWhile fun c => !Text.isBlank c
    let arg := Text.trim (String.ofList (rest.drop word.length))
    some (ofWord (String.ofList word) arg (String.ofList rest))
  | _ => none

end Directive

inductive Effect where
  | print (text : String)
  | edit (text : String)
  | quit
  deriving DecidableEq, Repr

namespace Directive

def helpText : String :=
  Text.unlines
    [":connect <device>   attach to a device",
     ":devices            list devices",
     ":complete <text>    tab-complete in the current mode",
     ":prev / :next       recall history",
     ":history            show this device's history",
     ":progress           lab task status",
     ":snapshot           network state as JSON",
     ":quit               leave"]

def deviceLine (attached : Option String) (d : Device) : String :=
  (if attached = some d.name then "* " else "  ") ++ Text.padded 8 d.name ++ " " ++
    Text.padded 8 d.hostname ++ " " ++ d.mode.shown

def deviceLines (c : Console) : List String :=
  c.network.devices.map (deviceLine (c.session?.map (·.device)))

def entryLine (number : Nat) (entry : String) : String :=
  (Text.Column.mk 4 .right none).fit (toString number) ++ "  " ++ entry

def historyLines (c : Console) : List String :=
  match c.session? with
  | some s => s.history.entries.mapIdx fun i entry => entryLine (i + 1) entry
  | none => []

def taskLine (net : Network) (t : Task) : String :=
  (if t.isDone net then "[x] " else "[ ] ") ++ t.description

def progressLines (lab : Lab) (net : Network) : List String :=
  lab.tasks.map (taskLine net) ++ [(lab.progress net).text]

def run (lab : Lab) : Directive → Console.Op Effect
  | .connect device => do
    Console.attach device
    return .print ("Connected to " ++ device)
  | .devices => return .print (Text.unlines (deviceLines (← get)))
  | .complete text => return .edit (← Console.complete text)
  | .prev => return .edit (← Console.older)
  | .next => return .edit (← Console.newer)
  | .history => return .print (Text.unlines (historyLines (← get)))
  | .progress => return .print (Text.unlines (progressLines lab (← get).network))
  | .snapshot => return .print (← get).network.snapshot.toJson
  | .quit => return .quit
  | .help => return .print helpText
  | .unknown text => return .print ("Unknown console command :" ++ text ++ " (try :help)")

end Directive

end RouterLab
