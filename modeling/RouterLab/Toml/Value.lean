import RouterLab.Toml.Scalar
import RouterLab.Toml.Text
import RouterLab.Toml.Tree

namespace RouterLab.Toml

open Reader

/-- Neither brackets nor dots may go as deep as this. -/
def depthLimit : Nat :=
  80

structure Key where
  path : List String
  last : String
  deriving DecidableEq, Repr

def isBareChar (c : Char) : Bool :=
  c.isAlphanum || c == '_' || c == '-'

def keyPart : Reader String := do
  match ← peek with
  | some '"' => let _ ← next; basicText
  | some '\'' => let _ ← next; literalText
  | _ =>
    let cs ← takeWhile isBareChar
    guard (!cs.isEmpty)
    return String.ofList cs

def spacedPart : Reader String := do
  spaces
  let part ← keyPart
  spaces
  return part

def morePart : Reader (Option String) := do
  if (← peek) = some '.' then
    skip 1
    return some (← spacedPart)
  else return none

def key : Reader Key := do
  let parts := (← spacedPart) :: (← collect morePart)
  guard (parts.length < depthLimit)
  return ⟨parts.dropLast, parts.getLastD ""⟩

def Entries.add (es : Entries) (k : Key) (d : Datum) : Option Entries :=
  insert k.last d .dotted k.path es

def pair (value : Reader Datum) : Reader (Key × Datum) := do
  let k ← key
  expect '='
  spaces
  return (k, ← value)

def arrayItem (value : Reader Datum) : Reader (Option Datum) := do
  gaps
  if (← peek) = some ']' then
    skip 1
    return none
  else
    let d ← value
    gaps
    match ← peek with
    | some ',' => skip 1
    | some ']' => pure ()
    | _ => failure
    return some d

def morePair (value : Reader Datum) : Reader (Option (Key × Datum)) := do
  spaces
  match ← next with
  | ',' => return some (← pair value)
  | '\x7d' => return none
  | _ => failure

def inlineTable (value : Reader Datum) : Reader Datum := do
  spaces
  if (← peek) = some '\x7d' then
    skip 1
    return .record []
  else
    let pairs := (← pair value) :: (← collect (morePair value))
    let es : Entries ← pairs.foldlM (fun (es : Entries) p => es.add p.1 p.2) []
    return .record (fieldsOf es)

def valueAround (inner : Option (Reader Datum)) : Reader Datum := do
  match ← peek, inner with
  | some '"', _ | some '\'', _ => return .text (← quotedText)
  | some '[', some inner => skip 1; return .list (← collect (arrayItem inner))
  | some '\x7b', some inner => skip 1; inlineTable inner
  | some '[', none | some '\x7b', none => failure
  | _, _ => scalar

def value : Nat → Reader Datum
  | 0 => valueAround none
  | depth + 1 => valueAround (some (value depth))

end RouterLab.Toml
