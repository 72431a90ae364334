import RouterLab.Text.Blank

namespace RouterLab.Text

def lead (c : Char) : List (List Char) → List (List Char)
  | [] => [[c]]
  | l :: ls => (c :: l) :: ls

/-- A line ends at a line feed, with a carriage return right before it if there is one.  The last
line may go without. -/
def splitLines : List Char → List (List Char)
  | [] => []
  | '\n' :: cs => [] :: splitLines cs
  | '\r' :: '\n' :: cs => [] :: splitLines cs
  | c :: cs => lead c (splitLines cs)

def lines (s : String) : List String :=
  (splitLines s.toList).map String.ofList

structure OneLine (l : String) : Prop where
  ne_empty : l ≠ ""
  unbroken : ∀ c ∈ l.toList, c ≠ '\n' ∧ c ≠ '\r'

instance (l : String) : Decidable (OneLine l) :=
  decidable_of_iff (l ≠ "" ∧ (l.toList.all fun c => c != '\n' && c != '\r') = true)
    ⟨fun ⟨h, h'⟩ => ⟨h, by simpa using h'⟩, fun ⟨h, h'⟩ => ⟨h, by simpa using h'⟩⟩

theorem splitLines_cons {c : Char} (hc : c ≠ '\n' ∧ c ≠ '\r') (cs : List Char) :
    splitLines (c :: cs) = lead c (splitLines cs) := by
  rw [splitLines]
  · exact hc.1
  · intro ds hr
    exact absurd hr hc.2

theorem splitLines_append {l : List Char} (hl : ∀ c ∈ l, c ≠ '\n' ∧ c ≠ '\r')
    (rest : List Char) : splitLines (l ++ '\n' :: rest) = l :: splitLines rest := by
  induction l with
  | nil => rw [List.nil_append, splitLines]
  | cons c l ih =>
    rw [List.cons_append, splitLines_cons (hl c (by simp)),
      ih fun d hd => hl d (List.mem_cons_of_mem c hd)]
    rfl

theorem splitLines_unbroken {l : List Char} (hne : l ≠ [])
    (hl : ∀ c ∈ l, c ≠ '\n' ∧ c ≠ '\r') : splitLines l = [l] := by
  induction l with
  | nil => exact absurd rfl hne
  | cons c l ih =>
    rw [splitLines_cons (hl c (by simp))]
    cases l with
    | nil => rfl
    | cons d l =>
      rw [ih (by simp) fun e he => hl e (List.mem_cons_of_mem c he)]
      rfl

theorem unlines_cons_cons (l k : String) (ls : List String) :
    unlines (l :: k :: ls) = l ++ "\n" ++ unlines (k :: ls) := by
  simp [unlines, String.intercalate_cons_cons]

theorem lines_unlines {ls : List String} (h : ∀ l ∈ ls, OneLine l) :
    lines (unlines ls) = ls := by
  induction ls with
  | nil => rfl
  | cons l ls ih =>
    have hl : OneLine l := h l (by simp)
    have ih' := ih fun k hk => h k (List.mem_cons_of_mem l hk)
    cases ls with
    | nil =>
      have hne : l.toList ≠ [] := fun he => hl.ne_empty (by simpa using he)
      simp [lines, unlines, splitLines_unbroken hne hl.unbroken]
    | cons k ls =>
      have hcut : (unlines (l :: k :: ls)).toList =
          l.toList ++ '\n' :: (unlines (k :: ls)).toList := by
        simp [unlines_cons_cons]
      rw [lines, hcut, splitLines_append hl.unbroken, List.map_cons, String.ofList_toList]
      exact congrArg (List.cons l) ih'

end RouterLab.Text
