import RouterLab.Datum.Basic

/-!
Data to values.  A structure may be given as a record of its fields or as the list of them in
order; a plain choice may be given by its name or as a record with that one field.  `none` refuses.
-/

namespace RouterLab

/-- What the formats of documents do not agree on. -/
structure Dialect where
  /-- Whether a list may run on past the fields it gives. -/
  surplus : Bool
  /-- What a choice given as a record may hold under its name. -/
  isUnit : Datum → Bool

inductive Slot where
  | given (value : Datum)
  | absent
  /-- A list that ends before the field. -/
  | past
  deriving Repr

namespace Slot

def required (f : Datum → Option α) : Slot → Option α
  | .given d => f d
  | .absent | .past => none

def withDefault (default : α) (f : Datum → Option α) : Slot → Option α
  | .given d => f d
  | .absent | .past => some default

end Slot

namespace Datum

def slotOf (fields : List (String × Datum)) (name : String) : Option Slot :=
  match fields.filter (·.1 == name) with
  | [] => some .absent
  | [(_, d)] => some (.given d)
  | _ => none

def slotsInOrder : List String → List Datum → List Slot
  | [], _ => []
  | _ :: names, [] => .past :: slotsInOrder names []
  | _ :: names, d :: ds => .given d :: slotsInOrder names ds

def slots? (k : Dialect) (names : List String) : Datum → Option (List Slot)
  | .record fields => names.mapM (slotOf fields)
  | .list items =>
    if items.length ≤ names.length || k.surplus then some (slotsInOrder names items) else none
  | .moment _ => some (names.map fun _ => .absent)
  | _ => none

def choice? (k : Dialect) : Datum → Option String
  | .text name => some name
  | .record [(name, d)] => if k.isUnit d then some name else none
  | _ => none

def text? : Datum → Option String
  | .text s => some s
  | _ => none

def flag? : Datum → Option Bool
  | .flag b => some b
  | _ => none

def count? : Datum → Option Nat
  | .integer (.ofNat n) => if n < Nat.pow 2 64 then some n else none
  | _ => none

def list? (f : Datum → Option α) : Datum → Option (List α)
  | .list items => items.mapM f
  | _ => none

def optional? (f : Datum → Option α) : Datum → Option (Option α)
  | .null => some none
  | d => (f d).map some

def ofOption (f : α → Datum) : Option α → Datum
  | none => .null
  | some a => f a

end Datum

end RouterLab
