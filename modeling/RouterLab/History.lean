/-!
Lines that were entered, and a cursor that walks them.  At the end of the lines the cursor stands
on the fresh line, which is empty.
-/

namespace RouterLab

structure History where
  entries : List String := []
  cursor : Nat := 0
  limit : Nat
  deriving DecidableEq, Repr

namespace History

def defaultLimit : Nat :=
  100

def empty (limit : Nat) : History where
  limit := max 1 limit

def push (h : History) (line : String) : History :=
  let entries := h.entries ++ [line]
  let kept := if h.limit < entries.length then entries.tail else entries
  { h with entries := kept, cursor := kept.length }

def current (h : History) : String :=
  h.entries[h.cursor]?.getD ""

def older (h : History) : History :=
  { h with cursor := h.cursor - 1 }

def newer (h : History) : History :=
  { h with cursor := if h.cursor < h.entries.length then h.cursor + 1 else h.cursor }

@[simp] theorem entries_older (h : History) : h.older.entries = h.entries := rfl

@[simp] theorem entries_newer (h : History) : h.newer.entries = h.entries := rfl

theorem cursor_push (h : History) (line : String) :
    (h.push line).cursor = (h.push line).entries.length := rfl

end History

end RouterLab
