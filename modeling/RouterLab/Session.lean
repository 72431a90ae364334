import RouterLab.History
import RouterLab.Shell

namespace RouterLab

structure Session where
  device : String
  history : History
  deriving DecidableEq, Repr

namespace Session

def new (device : String) (limit : Nat) : Session where
  device
  history := .empty limit

def submit (s : Session) (sh : Shell) (line : String) (net : Network) :
    String × Session × Network :=
  let text := Text.trim line
  if text = "" then ("", s, net)
  else
    let (answer, net) := sh.reply s.device text net
    (answer, { s with history := s.history.push text }, net)

def complete (s : Session) (sh : Shell) (line : String) (net : Network) : String :=
  match net.device? s.device with
  | some d => sh.grammar.complete d.mode line
  | none => line

def older (s : Session) : Session :=
  { s with history := s.history.older }

def newer (s : Session) : Session :=
  { s with history := s.history.newer }

def prompt (s : Session) (net : Network) : String :=
  match net.device? s.device with
  | some d => d.prompt
  | none => s.device ++ ">"

end Session

end RouterLab
