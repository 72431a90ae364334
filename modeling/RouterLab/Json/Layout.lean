import RouterLab.Datum.Basic
import RouterLab.Json.Token

/-!
Data to JSON text, on one line or indented.  Both layouts write the same tokens.
-/

namespace RouterLab.Json

def hexChars (n : Nat) : List Char :=
  ['0', '0', (n / 16).digitChar, (n % 16).digitChar]

def escape (c : Char) : List Char :=
  if c = '"' then ['\\', '"']
  else if c = '\\' then ['\\', '\\']
  else if c.toNat = 0x08 then ['\\', 'b']
  else if c.toNat = 0x09 then ['\\', 't']
  else if c.toNat = 0x0A then ['\\', 'n']
  else if c.toNat = 0x0C then ['\\', 'f']
  else if c.toNat = 0x0D then ['\\', 'r']
  else if c.toNat < 0x20 then '\\' :: 'u' :: hexChars c.toNat
  else [c]

def textChars (s : String) : List Char :=
  '"' :: s.toList.flatMap escape ++ ['"']

def intChars : Int → List Char
  | .ofNat n => Nat.toDigits 10 n
  | .negSucc n => '-' :: Nat.toDigits 10 (n + 1)

namespace Token

def chars : Token → List Char
  | .openList => ['[']
  | .closeList => [']']
  | .openRecord => ['\x7b']
  | .closeRecord => ['\x7d']
  | .comma => [',']
  | .colon => [':']
  | .null => ['n', 'u', 'l', 'l']
  | .flag true => ['t', 'r', 'u', 'e']
  | .flag false => ['f', 'a', 'l', 's', 'e']
  | .integer n => intChars n
  | .decimal literal => literal.toList
  | .text (some s) => textChars s
  | .text none => ['"', '\\', 'u', 'd', '8', '0', '0', '"']

def opens : Token → Bool
  | .openList | .openRecord => true
  | _ => false

def closes : Token → Bool
  | .closeList | .closeRecord => true
  | _ => false

end Token

mutual

def tokens : Datum → List Token
  | .null => [.null]
  | .flag b => [.flag b]
  | .integer n => [.integer n]
  | .decimal literal => [.decimal literal]
  | .text s => [.text (some s)]
  | .moment literal => [.text (some literal)]
  | .unreadable => [.text none]
  | .list items => .openList :: itemTokens items ++ [.closeList]
  | .record fields => .openRecord :: fieldTokens fields ++ [.closeRecord]

def itemTokens : List Datum → List Token
  | [] => []
  | [d] => tokens d
  | d :: ds => tokens d ++ .comma :: itemTokens ds

def fieldTokens : List (String × Datum) → List Token
  | [] => []
  | [(k, d)] => .text (some k) :: .colon :: tokens d
  | (k, d) :: fs => .text (some k) :: .colon :: tokens d ++ .comma :: fieldTokens fs

end

def newline (depth : Nat) : List Char :=
  '\n' :: List.replicate (2 * depth) ' '

def depthBetween (t u : Token) (depth : Nat) : Nat :=
  (if t.opens then depth + 1 else depth) - (if u.closes then 1 else 0)

def gap (t u : Token) (depth : Nat) : List Char :=
  if t.opens && u.closes then []
  else if t.opens || u.closes || t == .comma then newline (depthBetween t u depth)
  else if t == .colon then [' ']
  else []

def indented (depth : Nat) : List Token → List Char
  | [] => []
  | [t] => t.chars
  | t :: u :: ts => t.chars ++ gap t u depth ++ indented (depthBetween t u depth) (u :: ts)

def compact (d : Datum) : String :=
  String.ofList ((tokens d).flatMap Token.chars)

def pretty (d : Datum) : String :=
  String.ofList (indented 0 (tokens d))

end RouterLab.Json
