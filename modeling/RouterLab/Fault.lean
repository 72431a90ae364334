namespace RouterLab

inductive CommandError where
  | ambiguous
  | unresolved
  | incomplete
  | invalidTarget (what : String)
  | noActiveInterface
  | notImplemented
  deriving DecidableEq, Repr

namespace CommandError

def message : CommandError → String
  | .ambiguous => "% Ambiguous command"
  | .unresolved => "% Invalid input detected at '^' marker."
  | .incomplete => "% Incomplete command."
  | .invalidTarget what => "% Invalid " ++ what
  | .noActiveInterface => "% No interface selected"
  | .notImplemented => "% Command not implemented"

def noDevice (name : String) : CommandError :=
  .invalidTarget ("device " ++ name)

def noInterface (name : String) : CommandError :=
  .invalidTarget ("interface " ++ name)

def badAddress (text : String) : CommandError :=
  .invalidTarget ("address " ++ text)

end CommandError

inductive Fault where
  | config (reason : String)
  | unknownDevice (name : String)
  | notAttached
  | io (reason : String)
  deriving DecidableEq, Repr

def Fault.message : Fault → String
  | .config reason => "config error: " ++ reason
  | .unknownDevice name => "unknown device: " ++ name
  | .notAttached => "no device attached"
  | .io reason => "I/O error: " ++ reason

end RouterLab
