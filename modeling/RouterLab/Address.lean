namespace RouterLab

structure Address where
  first : Fin 256
  second : Fin 256
  third : Fin 256
  fourth : Fin 256
  deriving DecidableEq, Repr

namespace Address

def digit? (c : Char) : Option Nat :=
  if c.isDigit then some (c.toNat - '0'.toNat) else none

def octet? (cs : List Char) : Option (Fin 256) := do
  let ds ← cs.mapM digit?
  let n := ds.foldl (fun n d => 10 * n + d) 0
  if h : n < 256 then
    if 1 ≤ ds.length ∧ ds.length ≤ 3 ∧ (ds.length = 1 ∨ ds.head? ≠ some 0) then some ⟨n, h⟩
    else none
  else none

def splitDots : List Char → List (List Char)
  | [] => [[]]
  | c :: cs =>
    if c = '.' then [] :: splitDots cs
    else match splitDots cs with
      | [] => [[c]]
      | w :: ws => (c :: w) :: ws

def ofChars? (cs : List Char) : Option Address :=
  match splitDots cs with
  | [a, b, c, d] => do return ⟨← octet? a, ← octet? b, ← octet? c, ← octet? d⟩
  | _ => none

def ofString? (s : String) : Option Address :=
  ofChars? s.toList

theorem splitDots_ne_nil (cs : List Char) : splitDots cs ≠ [] := by
  cases cs with
  | nil => simp [splitDots]
  | cons c cs =>
    rw [splitDots]
    split
    · simp
    · split <;> simp

end Address

end RouterLab
