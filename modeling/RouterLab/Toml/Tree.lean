import RouterLab.Datum.Basic

/-!
The tree that the statements of a TOML document build up.  Each key is given once: where a table
came from decides who may still add to it.
-/

namespace RouterLab.Toml

inductive Origin where
  /-- On the way to a header's table. -/
  | implied
  /-- Named by the dots of a key. -/
  | dotted
  | declared
  deriving DecidableEq, Repr

inductive Node where
  | leaf (value : Datum)
  | table (origin : Origin) (entries : List (String × Node))
  | tables (items : List (List (String × Node)))

abbrev Entries := List (String × Node)

def alter (key : String) (f : Option Node → Option Node) : Entries → Option Entries
  | [] => (f none).map fun n => [(key, n)]
  | (k, n) :: rest =>
    if k == key then (f (some n)).map fun n => (k, n) :: rest
    else (alter key f rest).map ((k, n) :: ·)

def onLast (f : Entries → Option Entries) : List Entries → Option (List Entries)
  | [] => none
  | [es] => (f es).map fun es => [es]
  | es :: rest => (onLast f rest).map (es :: ·)

def descend (f : Entries → Option Entries) : List String → Entries → Option Entries
  | [], es => f es
  | key :: path, es =>
    alter key
      (fun
        | none => (descend f path []).map (.table .implied)
        | some (.leaf _) => none
        | some (.table o es) => (descend f path es).map (.table o)
        | some (.tables items) => (onLast (descend f path) items).map .tables)
      es

def declare (key : String) : Entries → Option Entries :=
  alter key fun
    | none => some (.table .declared [])
    | some (.table .implied es) => some (.table .declared es)
    | some _ => none

def declareItem (key : String) : Entries → Option Entries :=
  alter key fun
    | none => some (.tables [[]])
    | some (.tables items) => some (.tables (items ++ [[]]))
    | some _ => none

def define (key : String) (d : Datum) : Entries → Option Entries :=
  alter key fun
    | none => some (.leaf d)
    | some _ => none

/-- Adds a value under a dotted key.  The last table on the way must itself come from dots; the
table that the key starts from counts as one that does. -/
def insert (key : String) (d : Datum) : Origin → List String → Entries → Option Entries
  | o, [], es => if o = .dotted then define key d es else none
  | _, k :: path, es =>
    alter k
      (fun
        | none => (insert key d .dotted path []).map (.table .dotted)
        | some (.leaf _) | some (.table .declared _) => none
        | some (.table o es) => (insert key d o path es).map (.table o)
        | some (.tables items) => (onLast (insert key d .declared path) items).map .tables)
      es

mutual

def Node.toDatum : Node → Datum
  | .leaf d => d
  | .table _ es => .record (fieldsOf es)
  | .tables items => .list (recordsOf items)

def fieldsOf : Entries → List (String × Datum)
  | [] => []
  | (key, n) :: es => (key, n.toDatum) :: fieldsOf es

def recordsOf : List Entries → List Datum
  | [] => []
  | es :: rest => .record (fieldsOf es) :: recordsOf rest

end

end RouterLab.Toml
