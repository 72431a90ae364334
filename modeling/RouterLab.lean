import RouterLab.Main
import RouterLab.Proofs.Shell.Atomicity
import RouterLab.Proofs.Shell.Completion
import RouterLab.Proofs.Shell.Replay
import RouterLab.Proofs.Shell.Independence
import RouterLab.Proofs.Console.Call
import RouterLab.Proofs.Grammar.Agreement
import RouterLab.Proofs.Lab.Build
import RouterLab.Proofs.Shell.Refusal
import RouterLab.Proofs.Console.Safety
import RouterLab.Proofs.Console.Records
import RouterLab.Proofs.Shell.Ping
import RouterLab.Proofs.Shell.Confinement
import RouterLab.Proofs.Network.Json
import RouterLab.Proofs.Lab.Validation
import RouterLab.Proofs.Lab.Grading
import RouterLab.Proofs.Device.Snapshot
import RouterLab.Proofs.Shell.Strictness
import RouterLab.Proofs.Repl.Directive
import RouterLab.Proofs.Repl.Loop
import RouterLab.Proofs.Repl.Recall
import RouterLab.Proofs.Grammar.Convergence
import RouterLab.Proofs.Network.Reachable
import RouterLab.Proofs.Shell.Outcome
import RouterLab.Proofs.Lab.Movement
import RouterLab.Proofs.Device.Brief
import RouterLab.Proofs.Shell.Marked
import RouterLab.Proofs.Repl.Frame
import RouterLab.Proofs.Repl.Connect
import RouterLab.Proofs.Network.Run
import RouterLab.Proofs.Network.Links
import RouterLab.Proofs.Device.Seeding
import RouterLab.Proofs.Json.Format
