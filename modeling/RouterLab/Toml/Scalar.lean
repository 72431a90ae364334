import RouterLab.Datum.Basic
import RouterLab.Json.Token
import RouterLab.Toml.Moment
import RouterLab.Toml.Reader

namespace RouterLab.Toml

def ungroup? (p : Char → Bool) : List Char → Option (List Char)
  | [] => none
  | [d] => if p d then some [d] else none
  | d :: '_' :: ds => if p d then (ungroup? p ds).map (d :: ·) else none
  | d :: e :: ds => if p d then (ungroup? p (e :: ds)).map (d :: ·) else none

def natOfDigits (base : Nat) (ds : List Char) : Nat :=
  ds.foldl (fun v d => base * v + (Json.hexDigit? d).getD 0) 0

def wholeDigits? (cs : List Char) : Option (List Char) := do
  let ds ← ungroup? Char.isDigit cs
  if ds.head? = some '0' && cs.length > 1 then none else some ds

def splitSign : List Char → Bool × List Char
  | '-' :: cs => (true, cs)
  | '+' :: cs => (false, cs)
  | cs => (false, cs)

def isBinDigit (c : Char) : Bool :=
  c == '0' || c == '1'

def isOctDigit (c : Char) : Bool :=
  '0' ≤ c && c ≤ '7'

def isHexDigit (c : Char) : Bool :=
  (Json.hexDigit? c).isSome

def magnitude? : List Char → Option Nat
  | '0' :: 'x' :: cs => (ungroup? isHexDigit cs).map (natOfDigits 16)
  | '0' :: 'o' :: cs => (ungroup? isOctDigit cs).map (natOfDigits 8)
  | '0' :: 'b' :: cs => (ungroup? isBinDigit cs).map (natOfDigits 2)
  | cs => (wholeDigits? cs).map (natOfDigits 10)

/-- An integer of 64 bits.  Only decimal ones may have a sign. -/
def integer? (cs : List Char) : Option Int :=
  match cs with
  | '-' :: cs => do
    let n := natOfDigits 10 (← wholeDigits? cs)
    if n ≤ Nat.pow 2 63 then some (-n) else none
  | '+' :: cs => do
    let n := natOfDigits 10 (← wholeDigits? cs)
    if n < Nat.pow 2 63 then some n else none
  | cs => do
    let n ← magnitude? cs
    if n < Nat.pow 2 63 then some n else none

/-- A number in decimal notation: `mantissa` times ten to the `exponent`. -/
structure Scientific where
  mantissa : Nat
  exponent : Int

/-- From here on binary64 rounds to infinity. -/
def overflowBound : Nat :=
  (Nat.pow 2 54 - 1) * Nat.pow 2 970

/-- Numbers of more than 320 or fewer than 300 places are settled without working them out. -/
def Scientific.overflows (s : Scientific) : Bool :=
  let places := ((Nat.toDigits 10 s.mantissa).length : Int) + s.exponent
  if s.mantissa = 0 || places < 300 then false
  else if places > 320 then true
  else
    match s.exponent with
    | .ofNat e => overflowBound ≤ s.mantissa * Nat.pow 10 e
    | .negSucc e => overflowBound * Nat.pow 10 (e + 1) ≤ s.mantissa

def isExponentMark (c : Char) : Bool :=
  c == 'e' || c == 'E'

def exponent? : List Char → Option Int
  | [] => some 0
  | _ :: cs => do
    let (negative, ds) := splitSign cs
    let n := natOfDigits 10 (← ungroup? Char.isDigit ds)
    return if negative then -n else n

def scientific? (cs : List Char) : Option Scientific := do
  let front := cs.takeWhile fun c => !isExponentMark c
  let back := cs.dropWhile fun c => !isExponentMark c
  let whole ← wholeDigits? (front.takeWhile (· != '.'))
  let fraction ←
    match front.dropWhile (· != '.') with
    | [] => if back.isEmpty then none else some []
    | _ :: ds => ungroup? Char.isDigit ds
  let e ← exponent? back
  return ⟨natOfDigits 10 (whole ++ fraction), e - fraction.length⟩

/-- Positive numbers that are too large are refused, negative ones are not. -/
def isDecimal (cs : List Char) : Bool :=
  let (negative, body) := splitSign cs
  body = ['i', 'n', 'f'] || body = ['n', 'a', 'n'] ||
    match scientific? body with
    | some s => negative || !s.overflows
    | none => false

def scalar? (cs : List Char) : Option Datum :=
  if cs = ['t', 'r', 'u', 'e'] then some (.flag true)
  else if cs = ['f', 'a', 'l', 's', 'e'] then some (.flag false)
  else match integer? cs with
    | some n => some (.integer n)
    | none =>
      if isDecimal cs then some (.decimal (String.ofList cs))
      else if isMoment cs then some (.moment (String.ofList cs))
      else none

def isScalarChar (c : Char) : Bool :=
  c.isAlphanum || c == '_' || c == '-' || c == '+' || c == '.' || c == ':'

def scalar : Reader Datum := do
  let cs ← Reader.takeWhile isScalarChar
  match ← get with
  | ' ' :: d :: _ =>
    if isDate cs && d.isDigit then
      Reader.skip 1
      let time ← Reader.takeWhile isScalarChar
      scalar? (cs ++ 'T' :: time)
    else scalar? cs
  | _ => scalar? cs

end RouterLab.Toml
