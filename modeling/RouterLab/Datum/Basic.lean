namespace RouterLab

inductive Datum where
  | null
  | flag (value : Bool)
  | integer (value : Int)
  | decimal (literal : String)
  | text (value : String)
  /-- A date, a time of day, or both. -/
  | moment (literal : String)
  | list (items : List Datum)
  /-- The fields as written, repeated ones included. -/
  | record (fields : List (String × Datum))
  /-- Well formed, but holds text that is no Unicode text. -/
  | unreadable
  deriving Repr, Inhabited

end RouterLab
