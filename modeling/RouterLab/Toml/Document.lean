import RouterLab.Datum.Slot
import RouterLab.Toml.Value

namespace RouterLab.Toml

open Reader

inductive Statement where
  | pair (key : Key) (value : Datum)
  | table (key : Key)
  | item (key : Key)

def header : Reader Statement := do
  if (← peek) = some '[' then
    skip 1
    let k ← key
    expect ']'
    expect ']'
    return .item k
  else
    let k ← key
    expect ']'
    return .table k

def statement : Reader (Option Statement) := do
  gaps
  match ← peek with
  | none => return none
  | some '[' =>
    skip 1
    let s ← header
    lineEnd
    return some s
  | some _ =>
    let (k, d) ← pair (value (depthLimit - 1))
    lineEnd
    return some (.pair k d)

structure Draft where
  root : Entries := []
  current : List String := []

def Draft.extend (t : Draft) : Statement → Option Draft
  | .pair k d => do
    let root ← descend (fun es => Entries.add es k d) t.current t.root
    return { t with root }
  | .table k => do
    return ⟨← descend (declare k.last) k.path t.root, k.path ++ [k.last]⟩
  | .item k => do
    return ⟨← descend (declareItem k.last) k.path t.root, k.path ++ [k.last]⟩

def dropMark : List Char → List Char
  | '\uFEFF' :: cs => cs
  | cs => cs

def read (s : String) : Option Datum := do
  let (statements, _) ← (collect statement).run (dropMark s.toList)
  let draft ← statements.foldlM Draft.extend {}
  return .record (fieldsOf draft.root)

def dialect : Dialect where
  surplus := true
  isUnit
    | .record [] | .list [] => true
    | _ => false

end RouterLab.Toml
