import RouterLab.Lab.Source
import RouterLab.Repl.Directive

namespace RouterLab

structure Repl where
  lab : Lab
  console : Console
  /-- Text that was recalled or completed and waits for the rest of its line. -/
  pending : String := ""

namespace Repl

inductive Next where
  | goOn
  | leave
  deriving DecidableEq, Repr

def dropLineEnd (cs : List Char) : List Char :=
  (cs.reverse.dropWhile fun c => c == '\n' || c == '\r').reverse

def isDirective (typed : String) : Bool :=
  (Text.dropBlank typed.toList).head? == some ':'

def lineOf (pending typed : String) : String :=
  if isDirective typed then typed else pending ++ typed

def printed (text : String) : String :=
  if text = "" then "" else text ++ "\n"

def promptText (r : Repl) : String :=
  match (Console.prompt.apply r.console).1 with
  | .ok prompt => prompt ++ " " ++ r.pending
  | .error _ => "netsim> " ++ r.pending

def direct (r : Repl) (d : Directive) : String × Repl × Next :=
  match (d.run r.lab).apply r.console with
  | (.ok (.print text), console) => (printed text, { r with console, pending := "" }, .goOn)
  | (.ok (.edit text), console) => ("", { r with console, pending := text }, .goOn)
  | (.ok .quit, console) => ("", { r with console, pending := "" }, .leave)
  | (.error e, console) => (e.message ++ "\n", { r with console, pending := "" }, .goOn)

def submit (r : Repl) (line : String) : String × Repl × Next :=
  match (Console.submit line).apply r.console with
  | (.ok answer, console) => (printed answer, { r with console, pending := "" }, .goOn)
  | (.error e, console) =>
    (e.message ++ " (use :connect <device>)\n", { r with console, pending := "" }, .goOn)

def enter (r : Repl) (input : String) : String × Repl × Next :=
  let line := lineOf r.pending (String.ofList (dropLineEnd input.toList))
  match Directive.ofLine? line with
  | some d => r.direct d
  | none => r.submit line

def greeting (lab : Lab) : String :=
  lab.name ++ "\n" ++ printed lab.description

def start (lab : Lab) : Except Fault Repl := do
  return { lab, console := ← lab.console }

end Repl

structure Transcript where
  out : String
  err : String := ""
  code : Nat := 0
  deriving DecidableEq, Repr

namespace Transcript

def failed (out message : String) : Transcript where
  out
  err := "Error: " ++ message ++ "\n"
  code := 1

def splitLines : List UInt8 → List (List UInt8)
  | [] => []
  | b :: bs =>
    if b = 10 then [b] :: splitLines bs
    else match splitLines bs with
      | [] => [[b]]
      | l :: ls => (b :: l) :: ls

def badInput : String :=
  "stream did not contain valid UTF-8"

def ofLines (r : Repl) (out : String) : List (List UInt8) → Transcript
  | [] => { out := out ++ r.promptText }
  | l :: ls =>
    match String.fromUTF8? ⟨l.toArray⟩ with
    | none => failed (out ++ r.promptText) badInput
    | some input =>
      let (answer, r', next) := r.enter input
      let out := out ++ r.promptText ++ answer
      match next with
      | .goOn => ofLines r' out ls
      | .leave => { out }

def ofLoadError : Lab.LoadError → Transcript
  | .malformed =>
    { out := "", err := "Error: " ++ (Lab.LoadError.fault .malformed).message, code := 1 }
  | e => failed "" e.fault.message

def defaultLab : String :=
  "routing-basics"

def ofLab (lab : Lab) (input : List UInt8) : Transcript :=
  match Repl.start lab with
  | .ok r => ofLines r (Repl.greeting lab) (splitLines input)
  | .error e => failed "" e.message

def run (file? : String → Option ByteArray) (name : Option String) (input : List UInt8) :
    Transcript :=
  match Lab.load file? (name.getD defaultLab) with
  | .ok lab => ofLab lab input
  | .error e => ofLoadError e

end Transcript

end RouterLab
