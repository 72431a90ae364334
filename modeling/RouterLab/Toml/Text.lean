import RouterLab.Json.Token
import RouterLab.Toml.Reader

namespace RouterLab.Toml

open Reader

def isBasicChar (c : Char) : Bool :=
  isCommentChar c && c != '"' && c != '\\'

def isLiteralChar (c : Char) : Bool :=
  isCommentChar c && c != '\''

def codePoint (n : Nat) : Reader Char := do
  let cs := (← get).take n
  guard (cs.length = n)
  skip n
  let ds ← (cs.mapM Json.hexDigit? : Option (List Nat))
  let code := ds.foldl (fun v d => 16 * v + d) 0
  guard code.isValidChar
  return Char.ofNat code

def escaped : Reader Char := do
  match ← next with
  | 'b' => return '\x08'
  | 'f' => return '\x0c'
  | 'n' => return '\n'
  | 'r' => return '\r'
  | 't' => return '\t'
  | '"' => return '"'
  | '\\' => return '\\'
  | 'u' => codePoint 4
  | 'U' => codePoint 8
  | _ => failure

def basicPiece : Reader (Option Char) := do
  match ← next with
  | '"' => return none
  | '\\' => return some (← escaped)
  | c =>
    guard (isBasicChar c)
    return some c

def literalPiece : Reader (Option Char) := do
  match ← next with
  | '\'' => return none
  | c =>
    guard (isLiteralChar c)
    return some c

def basicText : Reader String := do
  return String.ofList (← collect basicPiece)

def literalText : Reader String := do
  return String.ofList (← collect literalPiece)

/-- Up to two quotes may stand before the closing three. -/
def quotes (q : Char) (n : Nat) : Reader (Option (List Char)) := do
  guard (n ≤ 5)
  if n < 3 then
    skip n
    return some (List.replicate n q)
  else if n = 3 then
    skip 3
    return none
  else
    skip (n - 3)
    return some (List.replicate (n - 3) q)

def dropIndent : List Char → List Char
  | [] => []
  | '\r' :: '\n' :: cs => dropIndent cs
  | c :: cs => if isSpace c || c = '\n' then dropIndent cs else c :: cs

def linesPiece (q : Char) (piece : Reader (List Char)) : Reader (Option (List Char)) := do
  let n := ((← get).takeWhile (· == q)).length
  if n > 0 then quotes q n
  else
    match afterNewline? (← get) with
    | some cs =>
      set cs
      return some ['\n']
    | none => return some (← piece)

def basicLinesPiece : Reader (List Char) := do
  match ← next with
  | '\\' =>
    match ← peek with
    | some c =>
      if isSpace c || c = '\n' || c = '\r' then
        spaces
        match afterNewline? (← get) with
        | some cs =>
          set (dropIndent cs)
          return []
        | none => failure
      else return [← escaped]
    | none => failure
  | c =>
    guard (isBasicChar c)
    return [c]

def literalLinesPiece : Reader (List Char) := do
  let c ← next
  guard (isLiteralChar c)
  return [c]

def textLines (q : Char) (piece : Reader (List Char)) : Reader String := do
  match afterNewline? (← get) with
  | some cs => set cs
  | none => pure ()
  return String.ofList (← collect (linesPiece q piece)).flatten

def quotedText : Reader String := do
  match ← get with
  | '"' :: '"' :: '"' :: cs => set cs; textLines '"' basicLinesPiece
  | '\'' :: '\'' :: '\'' :: cs => set cs; textLines '\'' literalLinesPiece
  | '"' :: cs => set cs; basicText
  | '\'' :: cs => set cs; literalText
  | _ => failure

end RouterLab.Toml
