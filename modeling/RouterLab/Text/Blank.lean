/-!
White space, and the cutting of text at it.  `splitBlank` is the one reading of a line that the
rest of the library uses: a line is its words.
-/

namespace RouterLab.Text

/-- The Unicode property White_Space, which has 25 characters. -/
def isBlank (c : Char) : Bool :=
  let n := c.toNat
  (0x09 ≤ n && n ≤ 0x0D) || n == 0x20 || n == 0x85 || n == 0xA0 || n == 0x1680 ||
    (0x2000 ≤ n && n ≤ 0x200A) || n == 0x2028 || n == 0x2029 || n == 0x202F || n == 0x205F ||
    n == 0x3000

def glue (c : Char) : List (List Char) → List (List Char)
  | [] => [[c]]
  | w :: ws => (c :: w) :: ws

def atGap : List Char → Bool
  | [] => true
  | c :: _ => isBlank c

def splitBlank : List Char → List (List Char)
  | [] => []
  | c :: cs =>
    if isBlank c then splitBlank cs
    else if atGap cs then [c] :: splitBlank cs
    else glue c (splitBlank cs)

theorem splitBlank_cons_blank {c : Char} (h : isBlank c = true) (cs : List Char) :
    splitBlank (c :: cs) = splitBlank cs := by
  rw [splitBlank, if_pos h]

theorem splitBlank_eq_nil_iff {cs : List Char} :
    splitBlank cs = [] ↔ ∀ c ∈ cs, isBlank c = true := by
  induction cs with
  | nil => simp [splitBlank]
  | cons c cs ih =>
    by_cases hc : isBlank c = true
    · simp [splitBlank_cons_blank hc, ih, hc]
    · by_cases hg : atGap cs = true
      · simp [splitBlank, hc, hg]
      · cases hs : splitBlank cs <;> simp [splitBlank, hc, hg, hs, glue]

def dropBlank (cs : List Char) : List Char :=
  cs.dropWhile isBlank

def dropBlankEnd : List Char → List Char
  | [] => []
  | c :: cs =>
    match dropBlankEnd cs with
    | [] => if isBlank c then [] else [c]
    | d :: ds => c :: d :: ds

def words (line : String) : List String :=
  (splitBlank line.toList).map String.ofList

def unwords (ws : List String) : String :=
  " ".intercalate ws

def unlines (ls : List String) : String :=
  "\n".intercalate ls

def trimStart (s : String) : String :=
  String.ofList (dropBlank s.toList)

def trim (s : String) : String :=
  String.ofList (dropBlankEnd (dropBlank s.toList))

@[simp] theorem words_empty : words "" = [] := rfl

end RouterLab.Text
