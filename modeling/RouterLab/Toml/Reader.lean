namespace RouterLab.Toml

abbrev Reader := StateT (List Char) Option

namespace Reader

def peek : Reader (Option Char) := do
  return (← get).head?

def next : Reader Char := do
  match ← get with
  | [] => failure
  | c :: cs => set cs; return c

def expect (c : Char) : Reader Unit := do
  guard ((← next) = c)

def takeWhile (p : Char → Bool) : Reader (List Char) := do
  let cs ← get
  set (cs.dropWhile p)
  return cs.takeWhile p

def skip (n : Nat) : Reader Unit :=
  modify (·.drop n)

def collectWithin (step : Reader (Option α)) : Nat → Reader (List α)
  | 0 => failure
  | n + 1 => do
    match ← step with
    | none => return []
    | some a => return a :: (← collectWithin step n)

/-- Repeats a step until it gives nothing.  A step that gives something reads at least one
character, so the length of the text bounds their number. -/
def collect (step : Reader (Option α)) : Reader (List α) := do
  collectWithin step ((← get).length + 1)

end Reader

def isSpace (c : Char) : Bool :=
  c == ' ' || c == '\t'

def isBeyondAscii (c : Char) : Bool :=
  0x80 ≤ c.toNat

def isCommentChar (c : Char) : Bool :=
  c == '\t' || (0x20 ≤ c.toNat && c.toNat ≤ 0x7E) || isBeyondAscii c

def spaces : Reader Unit :=
  modify (·.dropWhile isSpace)

def afterNewline? : List Char → Option (List Char)
  | '\n' :: cs => some cs
  | '\r' :: '\n' :: cs => some cs
  | _ => none

def dropGaps (inComment : Bool) : List Char → List Char
  | [] => []
  | '\n' :: cs => dropGaps false cs
  | '\r' :: '\n' :: cs => dropGaps false cs
  | c :: cs =>
    if inComment then
      if isCommentChar c then dropGaps true cs else c :: cs
    else if isSpace c then dropGaps false cs
    else if c = '#' then dropGaps true cs
    else c :: cs

def gaps : Reader Unit :=
  modify (dropGaps false)

def lineEnd : Reader Unit := do
  spaces
  if (← Reader.peek) = some '#' then
    modify (·.dropWhile isCommentChar)
  match ← get with
  | [] => return
  | cs =>
    match afterNewline? cs with
    | some cs => set cs
    | none => failure

end RouterLab.Toml
