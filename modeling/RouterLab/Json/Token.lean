/-!
JSON as a sequence of tokens.  White space falls away here, and so does the choice between
writing a character and escaping it.
-/

namespace RouterLab.Json

inductive Token where
  | openList
  | closeList
  | openRecord
  | closeRecord
  | comma
  | colon
  | null
  | flag (value : Bool)
  | integer (value : Int)
  | decimal (literal : String)
  /-- No string where an escape names half of a surrogate pair without the other half. -/
  | text (value : Option String)
  deriving DecidableEq, Repr

/-! ### Words: literals and numbers -/

def isWordChar (c : Char) : Bool :=
  c.isAlphanum || c == '+' || c == '-' || c == '.'

def isExponent : List Char → Bool
  | [] => true
  | c :: cs =>
    let ds := match cs with
      | '+' :: ds | '-' :: ds => ds
      | ds => ds
    (c == 'e' || c == 'E') && !ds.isEmpty && ds.all Char.isDigit

def isFraction : List Char → Bool
  | '.' :: cs => !(cs.takeWhile Char.isDigit).isEmpty && isExponent (cs.dropWhile Char.isDigit)
  | cs => isExponent cs

def isWhole : List Char → Bool
  | [] => false
  | ['0'] => true
  | d :: _ => d != '0'

def natOfDigits (ds : List Char) : Nat :=
  ds.foldl (fun n d => 10 * n + (d.toNat - '0'.toNat)) 0

/-- A minus sign before a lone zero makes it a decimal. -/
def number? (cs : List Char) : Option Token :=
  let negative := cs.head? == some '-'
  let body := if negative then cs.tail else cs
  let whole := body.takeWhile Char.isDigit
  let rest := body.dropWhile Char.isDigit
  if isWhole whole && isFraction rest then
    if rest.isEmpty && !(negative && whole == ['0']) then
      some (.integer (if negative then - (natOfDigits whole : Int) else natOfDigits whole))
    else some (.decimal (String.ofList cs))
  else none

def word? (cs : List Char) : Option Token :=
  if cs = ['n', 'u', 'l', 'l'] then some .null
  else if cs = ['t', 'r', 'u', 'e'] then some (.flag true)
  else if cs = ['f', 'a', 'l', 's', 'e'] then some (.flag false)
  else number? cs

/-! ### Text -/

def isHighHalf (n : Nat) : Bool :=
  0xD800 ≤ n && n < 0xDC00

def isLowHalf (n : Nat) : Bool :=
  0xDC00 ≤ n && n < 0xE000

def joinHalves : List Nat → Option (List Char)
  | [] => some []
  | n :: ns =>
    if isHighHalf n then
      match ns with
      | [] => none
      | m :: ms =>
        if isLowHalf m then
          (joinHalves ms).map (Char.ofNat (0x10000 + (n - 0xD800) * 0x400 + (m - 0xDC00)) :: ·)
        else none
    else if isLowHalf n then none
    else (joinHalves ns).map (Char.ofNat n :: ·)

def hexDigit? (c : Char) : Option Nat :=
  if c.isDigit then some (c.toNat - '0'.toNat)
  else if 'a' ≤ c ∧ c ≤ 'f' then some (c.toNat - 'a'.toNat + 10)
  else if 'A' ≤ c ∧ c ≤ 'F' then some (c.toNat - 'A'.toNat + 10)
  else none

def shortEscape? (c : Char) : Option Nat :=
  if c = '"' then some 0x22
  else if c = '\\' then some 0x5C
  else if c = '/' then some 0x2F
  else if c = 'b' then some 0x08
  else if c = 'f' then some 0x0C
  else if c = 'n' then some 0x0A
  else if c = 'r' then some 0x0D
  else if c = 't' then some 0x09
  else none

/-! ### Scanning -/

/-- Where the scanner stands.  What was read of a token is kept in reverse. -/
inductive Place where
  | between
  | word (read : List Char)
  | text (read : List Nat)
  | escape (read : List Nat)
  | hex (read : List Nat) (left : Nat) (value : Nat)
  deriving DecidableEq, Repr

structure Scanner where
  place : Place := .between
  tokens : List Token := []
  deriving DecidableEq, Repr

namespace Scanner

def emit (s : Scanner) (t : Token) : Scanner :=
  ⟨.between, t :: s.tokens⟩

def goTo (s : Scanner) (p : Place) : Scanner :=
  ⟨p, s.tokens⟩

def begin (s : Scanner) (c : Char) : Option Scanner :=
  if c = ' ' ∨ c = '\n' ∨ c = '\t' ∨ c = '\r' then some (s.goTo .between)
  else if c = '[' then some (s.emit .openList)
  else if c = ']' then some (s.emit .closeList)
  else if c = '\x7b' then some (s.emit .openRecord)
  else if c = '\x7d' then some (s.emit .closeRecord)
  else if c = ',' then some (s.emit .comma)
  else if c = ':' then some (s.emit .colon)
  else if c = '"' then some (s.goTo (.text []))
  else if isWordChar c then some (s.goTo (.word [c]))
  else none

def step (s : Scanner) (c : Char) : Option Scanner :=
  match s.place with
  | .between => s.begin c
  | .word read =>
    if isWordChar c then some (s.goTo (.word (c :: read)))
    else do (s.emit (← word? read.reverse)).begin c
  | .text read =>
    if c = '"' then some (s.emit (.text ((joinHalves read.reverse).map String.ofList)))
    else if c = '\\' then some (s.goTo (.escape read))
    else if c.toNat < 0x20 then none
    else some (s.goTo (.text (c.toNat :: read)))
  | .escape read =>
    if c = 'u' then some (s.goTo (.hex read 4 0))
    else do return s.goTo (.text ((← shortEscape? c) :: read))
  | .hex read left value => do
    let value := 16 * value + (← hexDigit? c)
    if left ≤ 1 then return s.goTo (.text (value :: read))
    else return s.goTo (.hex read (left - 1) value)

def finish (s : Scanner) : Option (List Token) :=
  match s.place with
  | .between => some s.tokens.reverse
  | .word read => do return (s.emit (← word? read.reverse)).tokens.reverse
  | _ => none

end Scanner

def scan (cs : List Char) : Option (List Token) := do
  (← cs.foldlM Scanner.step {}).finish

end RouterLab.Json
