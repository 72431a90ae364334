import RouterLab.Address
import RouterLab.Device.Listing
import RouterLab.Grammar.Standard
import RouterLab.Network.Basic

/-!
Running lines on devices.  A line is asked of the grammar in the mode of its device; a unique
reading with all its arguments is carried out there.
-/

namespace RouterLab

inductive Request where
  | blank
  | help (ws : List String)
  | command (ws : List String)
  deriving DecidableEq, Repr

def Request.ofLine (line : String) : Request :=
  let text := (Text.trim line).toList
  match text.getLast? with
  | none => .blank
  | some '?' => .help (Text.words (String.ofList text.dropLast))
  | some _ => .command (Text.words line)

structure Shell where
  grammar : Grammar := .standard
  /-- Whether `interface` refuses names that the device does not have. -/
  strict : Bool := false

namespace Shell

def noFurtherOptions : String :=
  "No further options."

def help (sh : Shell) (m : Mode) (ws : List String) : String :=
  match sh.grammar.suggestions m ws with
  | [] => noFurtherOptions
  | s :: ss => Text.unwords (s :: ss)

def first : List String → Except CommandError String
  | [] => .error .incomplete
  | w :: _ => .ok w

def address (text : String) : Except CommandError String :=
  match Address.ofString? text with
  | some _ => .ok text
  | none => .error (.badAddress text)

def enterInterface (sh : Shell) (name : String) : Device.Op Unit :=
  if sh.strict then Device.configureExisting name
  else modify (·.configure name)

def perform (sh : Shell) (args : List String) : Mode → Action → Device.Op String
  | .user, .enable => do
    modify Device.toPrivileged
    return "Entered privileged mode"
  | .privileged, .disable | .privileged, .exit => do
    modify Device.toUser
    return "Exited privileged mode"
  | .privileged, .configureTerminal => do
    modify Device.toGlobalConfig
    return "Entered configuration mode"
  | .privileged, .showIpInterfaceBrief => return (← get).briefTable
  | .privileged, .showRunningConfig => return (← get).runningConfig
  | .privileged, .showInterface => do (← get).showInterface (← first args)
  | .privileged, .hostname | .globalConfig, .hostname => do
    let name ← first args
    modify (·.rename name)
    return ""
  | .globalConfig, .interface => do
    sh.enterInterface (← first args)
    return "Entered interface configuration mode (" ++ (← Device.activeName) ++ ")"
  | .globalConfig, .exit => do
    modify Device.leave
    return "Exited config mode"
  | .globalConfig, .endConfig | .interfaceConfig, .endConfig => do
    modify Device.toPrivileged
    return ""
  | .interfaceConfig, .ipAddress => do
    let address ← address (← first args)
    let name ← Device.activeName
    Device.assign address
    return "IP address " ++ address ++ " assigned to " ++ name
  | .interfaceConfig, .noIpAddress => do
    Device.unassign
    return "IP address removed from " ++ (← Device.activeName)
  | .interfaceConfig, .noShutdown => do
    Device.setUp true
    return (← Device.activeName) ++ " is now up"
  | .interfaceConfig, .shutdown => do
    Device.setUp false
    return (← Device.activeName) ++ " is now administratively down"
  | .interfaceConfig, .exit => do
    modify Device.leave
    return "Exited interface mode"
  | _, _ => .fail .notImplemented

def carryOut (sh : Shell) (device : String) (m : Mode) (action : Action) (args : List String) :
    Network.Op String := do
  match m, action with
  | .privileged, .ping =>
    let address ← address (← first args)
    return ((← get).ping device address).text
  | _, _ => Network.on device (sh.perform args m action)

def command (sh : Shell) (device : String) (m : Mode) (ws : List String) : Network.Op String := do
  match sh.grammar.resolve m ws with
  | .none => .fail .unresolved
  | .ambiguous => .fail .ambiguous
  | .unique p => sh.carryOut device m p.action (← p.arguments ws)

def modeOf (device : String) : Network.Op Mode := do
  match (← get).device? device with
  | some d => return d.mode
  | none => .fail (.noDevice device)

def run (sh : Shell) (device line : String) : Network.Op String := do
  match Request.ofLine line with
  | .blank => return ""
  | .help ws => return sh.help (← modeOf device) ws
  | .command ws => sh.command device (← modeOf device) ws

def reply (sh : Shell) (device line : String) (net : Network) : String × Network :=
  match (sh.run device line).apply net with
  | (.ok text, net) => (text, net)
  | (.error e, net) => (e.message, net)

end Shell

end RouterLab
