import RouterLab.Fault
import RouterLab.Mode
import RouterLab.Text.Blank

/-!
Grammars: for each mode a table of command paths.  Resolution, completion and help all read the
same table.
-/

namespace RouterLab

inductive Action where
  | enable
  | disable
  | configureTerminal
  | showIpInterfaceBrief
  | showInterface
  | showRunningConfig
  | ping
  | hostname
  | interface
  | ipAddress
  | noIpAddress
  | shutdown
  | noShutdown
  | exit
  | endConfig
  | reload
  deriving DecidableEq, Repr

inductive Token where
  | keyword (text : String)
  | argument (name : String)
  deriving DecidableEq, Repr

namespace Token

def accepts : Token → String → Bool
  | .keyword text, word => word != "" && word.toList.isPrefixOf text.toList
  | .argument _, _ => true

def text : Token → String
  | .keyword text => text
  | .argument name => "<" ++ name ++ ">"

end Token

structure Path where
  tokens : List Token
  action : Action
  deriving DecidableEq, Repr

namespace Path

def accepts : List Token → List String → Bool
  | _, [] => true
  | [], _ :: _ => false
  | t :: ts, w :: ws => t.accepts w && accepts ts ws

def fits (p : Path) (ws : List String) : Bool :=
  accepts p.tokens ws

def slots : List Token → List String → Except CommandError (List String)
  | [], _ => .ok []
  | .keyword _ :: ts, ws => slots ts ws.tail
  | .argument _ :: _, [] => .error .incomplete
  | .argument _ :: ts, w :: ws => (slots ts ws).map (w :: ·)

def arguments (p : Path) (ws : List String) : Except CommandError (List String) :=
  slots p.tokens ws

def spelling (p : Path) : String :=
  Text.unwords (p.tokens.map Token.text)

/-- Spells out the typed keywords and the one keyword that comes next. -/
def expand : List Token → List String → List String
  | [], _ => []
  | .keyword text :: ts, _ :: ws => text :: expand ts ws
  | .argument _ :: ts, w :: ws => w :: expand ts ws
  | .keyword text :: _, [] => [text]
  | .argument _ :: _, [] => []

end Path

inductive Resolution where
  | unique (path : Path)
  | ambiguous
  | none
  deriving DecidableEq, Repr

structure Grammar where
  paths : Mode → List Path

namespace Grammar

def candidates (g : Grammar) (m : Mode) (ws : List String) : List Path :=
  (g.paths m).filter (·.fits ws)

def resolve (g : Grammar) (m : Mode) (ws : List String) : Resolution :=
  match g.candidates m ws with
  | [] => .none
  | [p] => .unique p
  | _ :: _ :: _ => .ambiguous

def complete (g : Grammar) (m : Mode) (line : String) : String :=
  match Text.words line with
  | [] => line
  | w :: ws =>
    match g.resolve m (w :: ws) with
    | .unique p => Text.unwords (Path.expand p.tokens (w :: ws))
    | _ => line

def suggestions (g : Grammar) (m : Mode) (ws : List String) : List String :=
  ((g.candidates m ws).filterMap fun p => p.tokens[ws.length]?.map Token.text).eraseDups

end Grammar

end RouterLab
