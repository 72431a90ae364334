import RouterLab.Grammar.Basic

namespace RouterLab.Grammar

def userPaths : List Path :=
  [⟨[.keyword "enable"], .enable⟩]

def privilegedPaths : List Path :=
  [⟨[.keyword "configure", .keyword "terminal"], .configureTerminal⟩,
   ⟨[.keyword "show", .keyword "ip", .keyword "interface", .keyword "brief"],
    .showIpInterfaceBrief⟩,
   ⟨[.keyword "show", .keyword "interface", .argument "name"], .showInterface⟩,
   ⟨[.keyword "show", .keyword "running-config"], .showRunningConfig⟩,
   ⟨[.keyword "ping", .argument "ip"], .ping⟩,
   ⟨[.keyword "hostname", .argument "name"], .hostname⟩,
   ⟨[.keyword "disable"], .disable⟩,
   ⟨[.keyword "exit"], .exit⟩,
   ⟨[.keyword "reload"], .reload⟩]

def globalConfigPaths : List Path :=
  [⟨[.keyword "interface", .argument "name"], .interface⟩,
   ⟨[.keyword "hostname", .argument "name"], .hostname⟩,
   ⟨[.keyword "exit"], .exit⟩,
   ⟨[.keyword "end"], .endConfig⟩]

def interfaceConfigPaths : List Path :=
  [⟨[.keyword "ip", .keyword "address", .argument "ip"], .ipAddress⟩,
   ⟨[.keyword "no", .keyword "shutdown"], .noShutdown⟩,
   ⟨[.keyword "no", .keyword "ip", .keyword "address"], .noIpAddress⟩,
   ⟨[.keyword "shutdown"], .shutdown⟩,
   ⟨[.keyword "exit"], .exit⟩,
   ⟨[.keyword "end"], .endConfig⟩]

def standard : Grammar where
  paths
    | .user => userPaths
    | .privileged => privilegedPaths
    | .globalConfig => globalConfigPaths
    | .interfaceConfig => interfaceConfigPaths

end RouterLab.Grammar
