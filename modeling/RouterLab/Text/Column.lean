/-!
Columns of a table.  A width is a least width, counted in characters: longer text is kept whole
unless the column has a limit.
-/

namespace RouterLab.Text

inductive Align where
  | left
  | right
  | middle
  deriving DecidableEq, Repr

structure Column where
  width : Nat
  align : Align := .left
  limit : Option Nat := none
  deriving DecidableEq, Repr

def spaces (n : Nat) : List Char :=
  List.replicate n ' '

/-- Blanks before and after; of an odd number in the middle the extra one comes after. -/
def Align.around : Align → Nat → Nat × Nat
  | .left, n => (0, n)
  | .right, n => (n, 0)
  | .middle, n => (n / 2, n - n / 2)

def Column.clip (k : Column) (cs : List Char) : List Char :=
  match k.limit with
  | none => cs
  | some n => cs.take n

def Column.fit (k : Column) (s : String) : String :=
  let cs := k.clip s.toList
  let gap := k.align.around (k.width - cs.length)
  String.ofList (spaces gap.1 ++ cs ++ spaces gap.2)

def padded (width : Nat) (s : String) : String :=
  Column.fit (.mk width .left none) s

end RouterLab.Text
