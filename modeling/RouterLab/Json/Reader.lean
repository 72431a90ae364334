import RouterLab.Datum.Basic
import RouterLab.Json.Token

/-!
JSON text to data.  The reader goes through the tokens once, with the lists and records that are
still open on a stack.
-/

namespace RouterLab.Json

/-- An open list or record, with what was read of it in reverse. -/
inductive Frame where
  | items (read : List Datum)
  | fields (read : List (Option String × Datum)) (key : Option String)
  deriving Repr

inductive Want where
  | value
  | valueOrClose
  | key
  | keyOrClose
  | colon
  | commaOrClose
  deriving DecidableEq, Repr

inductive Reader where
  | within (stack : List Frame) (want : Want)
  | done (value : Datum)
  deriving Repr

namespace Reader

def recordOf (fields : List (Option String × Datum)) : Datum :=
  match fields.mapM fun f => f.1.map (·, f.2) with
  | some fields => .record fields
  | none => .unreadable

def deliver (d : Datum) : List Frame → Reader
  | [] => .done d
  | .items read :: stack => .within (.items (d :: read) :: stack) .commaOrClose
  | .fields read key :: stack => .within (.fields ((key, d) :: read) none :: stack) .commaOrClose

def beginValue (stack : List Frame) : Token → Option Reader
  | .openList => some (.within (.items [] :: stack) .valueOrClose)
  | .openRecord => some (.within (.fields [] none :: stack) .keyOrClose)
  | .null => some (deliver .null stack)
  | .flag b => some (deliver (.flag b) stack)
  | .integer n => some (deliver (.integer n) stack)
  | .decimal literal => some (deliver (.decimal literal) stack)
  | .text (some s) => some (deliver (.text s) stack)
  | .text none => some (deliver .unreadable stack)
  | _ => none

def beginField : List Frame → Token → Option Reader
  | .fields read _ :: stack, .text key => some (.within (.fields read key :: stack) .colon)
  | _, _ => none

def close : List Frame → Token → Option Reader
  | .items read :: stack, .closeList => some (deliver (.list read.reverse) stack)
  | .fields read _ :: stack, .closeRecord => some (deliver (recordOf read.reverse) stack)
  | _, _ => none

def proceed : List Frame → Token → Option Reader
  | .items read :: stack, .comma => some (.within (.items read :: stack) .value)
  | .fields read key :: stack, .comma => some (.within (.fields read key :: stack) .key)
  | stack, t => close stack t

def step : Reader → Token → Option Reader
  | .done _, _ => none
  | .within stack .value, t => beginValue stack t
  | .within stack .valueOrClose, t =>
    if t = .closeList then close stack t else beginValue stack t
  | .within stack .key, t => beginField stack t
  | .within stack .keyOrClose, t =>
    if t = .closeRecord then close stack t else beginField stack t
  | .within stack .colon, t => if t = .colon then some (.within stack .value) else none
  | .within stack .commaOrClose, t => proceed stack t

def finish : Reader → Option Datum
  | .done d => some d
  | .within _ _ => none

end Reader

def ofTokens? (ts : List Token) : Option Datum := do
  (← ts.foldlM Reader.step (.within [] .value)).finish

def read (s : String) : Option Datum := do
  ofTokens? (← scan s.toList)

end RouterLab.Json
