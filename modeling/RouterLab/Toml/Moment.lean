namespace RouterLab.Toml

def numeral? (n : Nat) (cs : List Char) : Option Nat :=
  if cs.length = n && cs.all Char.isDigit then
    some (cs.foldl (fun v d => 10 * v + (d.toNat - '0'.toNat)) 0)
  else none

def isLeapYear (year : Nat) : Bool :=
  year % 4 == 0 && (year % 100 != 0 || year % 400 == 0)

def daysIn (year : Nat) : Nat → Nat
  | 2 => if isLeapYear year then 29 else 28
  | 4 | 6 | 9 | 11 => 30
  | _ => 31

def isDate (cs : List Char) : Bool :=
  match cs with
  | [y1, y2, y3, y4, '-', m1, m2, '-', d1, d2] =>
    match numeral? 4 [y1, y2, y3, y4], numeral? 2 [m1, m2], numeral? 2 [d1, d2] with
    | some y, some m, some d => 1 ≤ m && m ≤ 12 && 1 ≤ d && d ≤ daysIn y m
    | _, _, _ => false
  | _ => false

def isHourMinute : List Char → Bool
  | [h1, h2, ':', m1, m2] =>
    match numeral? 2 [h1, h2], numeral? 2 [m1, m2] with
    | some h, some m => h ≤ 23 && m ≤ 59
    | _, _ => false
  | _ => false

/-- A leap second may follow the sixtieth. -/
def isSecond (cs : List Char) : Bool :=
  match numeral? 2 (cs.take 2) with
  | some s =>
    s ≤ 60 &&
      match cs.drop 2 with
      | [] => true
      | '.' :: ds => !ds.isEmpty && ds.all Char.isDigit
      | _ => false
  | none => false

def isTime (cs : List Char) : Bool :=
  isHourMinute (cs.take 5) && (cs.drop 5).head? == some ':' && isSecond (cs.drop 6)

def isZone : List Char → Bool
  | [] | ['Z'] | ['z'] => true
  | '+' :: cs | '-' :: cs => isHourMinute cs
  | _ => false

def isZoneSign (c : Char) : Bool :=
  c == 'Z' || c == 'z' || c == '+' || c == '-'

def isZonedTime (cs : List Char) : Bool :=
  isTime (cs.takeWhile fun c => !isZoneSign c) && isZone (cs.dropWhile fun c => !isZoneSign c)

def isMoment (cs : List Char) : Bool :=
  isTime cs ||
    isDate (cs.take 10) &&
      match cs.drop 10 with
      | [] => true
      | 'T' :: time | 't' :: time => isZonedTime time
      | _ => false

end RouterLab.Toml
