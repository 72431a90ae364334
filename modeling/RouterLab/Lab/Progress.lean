import RouterLab.Lab.Task

namespace RouterLab

structure Progress where
  passed : Nat
  total : Nat
  deriving DecidableEq, Repr

namespace Progress

def ofTasks (ts : List Task) (net : Network) : Progress where
  passed := ts.countP (·.isDone net)
  total := ts.length

/-- Divided and scaled in binary64, a half rounded up, and nothing to do counted as all done. -/
def percent (p : Progress) : Nat :=
  if p.total = 0 then 100
  else
    let share := p.passed.toUInt64.toFloat / p.total.toUInt64.toFloat
    (share * 100).round.toUInt32.toNat

def isComplete (p : Progress) : Bool :=
  p.passed == p.total

def text (p : Progress) : String :=
  "Completed: " ++ toString p.percent ++ "%"

theorem passed_le_total (ts : List Task) (net : Network) :
    (ofTasks ts net).passed ≤ (ofTasks ts net).total :=
  List.countP_le_length

end Progress

end RouterLab
