import RouterLab.Text.Column

namespace RouterLab

inductive Mode where
  | user
  | privileged
  | globalConfig
  | interfaceConfig
  deriving DecidableEq, Repr, Inhabited

namespace Mode

def all : List Mode :=
  [.user, .privileged, .globalConfig, .interfaceConfig]

def rank : Mode → Nat
  | .user => 0
  | .privileged => 1
  | .globalConfig => 2
  | .interfaceConfig => 3

instance : Ord Mode :=
  ⟨fun m n => compare m.rank n.rank⟩

instance : LE Mode :=
  ⟨fun m n => m.rank ≤ n.rank⟩

instance (m n : Mode) : Decidable (m ≤ n) :=
  inferInstanceAs (Decidable (m.rank ≤ n.rank))

def name : Mode → String
  | .user => "user"
  | .privileged => "privileged"
  | .globalConfig => "global_config"
  | .interfaceConfig => "interface_config"

def ofName? (s : String) : Option Mode :=
  all.find? fun m => m.name == s

theorem ofName?_name (m : Mode) : ofName? m.name = some m := by
  cases m <;> decide

/-- Any column may be asked for; without one the name stands as it is. -/
def shown (m : Mode) (k : Text.Column := { width := 0 }) : String :=
  k.fit m.name

theorem shown_eq_name (m : Mode) : m.shown = m.name := by
  cases m <;> decide

example : Mode.user.shown { width := 8 } ++ "|" = "user    |" := by decide

def suffix : Mode → String
  | .user => ">"
  | .privileged => "#"
  | .globalConfig => "(config)#"
  | .interfaceConfig => "(config-if)#"

def prompt (m : Mode) (hostname : String) : String :=
  hostname ++ m.suffix

end Mode

end RouterLab
