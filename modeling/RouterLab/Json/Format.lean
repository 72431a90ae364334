import RouterLab.Datum.Slot
import RouterLab.Json.Layout
import RouterLab.Json.Reader

namespace RouterLab.Json

/-- All that values know of the text they are exchanged in: two layouts, and a reader for both. -/
structure Format where
  compact : Datum → String
  pretty : Datum → String
  read : String → Option Datum
  dialect : Dialect

def dialect : Dialect where
  surplus := false
  isUnit
    | .null => true
    | _ => false

def Format.standard : Format where
  compact := Json.compact
  pretty := Json.pretty
  read := Json.read
  dialect := Json.dialect

end RouterLab.Json
