import Mathlib.Data.List.Chain
import RouterLab.Proofs.Json.Scanning

/-!
What a layout writes is scanned to the tokens it was written from, because no word is followed by
another one.
-/

namespace RouterLab.Json

def isSpace (c : Char) : Bool :=
  c == ' ' || c == '\n'

theorem eq_of_isSpace {c : Char} (hc : isSpace c = true) : c = ' ' ∨ c = '\n' := by
  simpa [isSpace] using hc

theorem isWordChar_of_isSpace {c : Char} (hc : isSpace c = true) : isWordChar c = false := by
  rcases eq_of_isSpace hc with rfl | rfl <;> rfl

theorem breaks_nil : Breaks [] :=
  nofun

theorem breaks_chars {u : Token} (hu : u.isWord = false) (cs : List Char) :
    Breaks (u.chars ++ cs) := by
  obtain ⟨c, rest, hchars, hc⟩ := Token.chars_of_not_isWord hu
  rw [hchars]
  rintro d ⟨rfl⟩
  exact hc

theorem Breaks.spaces {cs blanks : List Char} (h : Breaks cs)
    (hblanks : ∀ c ∈ blanks, isSpace c = true) : Breaks (blanks ++ cs) := by
  cases blanks with
  | nil => exact h
  | cons b blanks =>
    rintro c ⟨rfl⟩
    exact isWordChar_of_isSpace (hblanks b List.mem_cons_self)

inductive Writes : List Token → List Char → Prop where
  | nil : Writes [] []
  | space {ts : List Token} {c : Char} {cs : List Char} (hc : isSpace c = true)
      (h : Writes ts cs) : Writes ts (c :: cs)
  | token {t : Token} {ts : List Token} {cs : List Char} (he : t.isExact = true)
      (hbreak : t.isWord = true → Breaks cs) (h : Writes ts cs) : Writes (t :: ts) (t.chars ++ cs)

namespace Writes

variable {ts : List Token} {cs : List Char}

theorem spaces (h : Writes ts cs) {blanks : List Char}
    (hblanks : ∀ c ∈ blanks, isSpace c = true) : Writes ts (blanks ++ cs) := by
  induction blanks with
  | nil => exact h
  | cons b blanks ih =>
    rw [List.forall_mem_cons] at hblanks
    exact .space hblanks.1 (ih hblanks.2)

theorem rest (h : Writes ts cs) (read : List Token) :
    Scanner.rest ⟨.between, read⟩ cs = some (read.reverse ++ ts) := by
  induction h generalizing read with
  | nil => simp [Scanner.rest, Scanner.finish]
  | space hc _ ih =>
    rw [Scanner.rest_cons, ← ih]
    rcases eq_of_isSpace hc with rfl | rfl <;> rfl
  | token he hbreak _ ih =>
    rw [Scanner.rest_chars he hbreak, ih, List.reverse_cons, List.append_assoc,
      List.singleton_append]

theorem scan (h : Writes ts cs) : scan cs = some ts :=
  h.rest []

end Writes

def Apart (t u : Token) : Prop :=
  t.isWord = true → u.isWord = false

section

variable {t u : Token} {ts : List Token}

theorem isSpace_gap (t u : Token) (depth : Nat) : ∀ c ∈ gap t u depth, isSpace c = true := by
  have hnewline (depth : Nat) : ∀ c ∈ newline depth, isSpace c = true := by
    intro c hc
    rcases List.mem_cons.mp hc with rfl | hc
    · rfl
    · rw [List.eq_of_mem_replicate hc]
      rfl
  unfold gap
  split_ifs
  · simp
  · exact hnewline _
  · simp [isSpace]
  · simp

theorem writes_flatMap (he : ∀ t ∈ ts, t.isExact = true) (hapart : ts.IsChain Apart) :
    Writes ts (ts.flatMap Token.chars) := by
  induction ts with
  | nil => exact .nil
  | cons t ts ih =>
    rw [List.forall_mem_cons] at he
    rw [List.isChain_cons] at hapart
    rw [List.flatMap_cons]
    refine .token he.1 (fun hw => ?_) (ih he.2 hapart.2)
    cases ts with
    | nil => exact breaks_nil
    | cons u ts => exact breaks_chars (hapart.1 u rfl hw) _

theorem breaks_indented (hu : u.isWord = false) (depth : Nat) :
    Breaks (indented depth (u :: ts)) := by
  cases ts with
  | nil => simpa [indented] using breaks_chars hu []
  | cons v ts =>
    rw [indented, List.append_assoc]
    exact breaks_chars hu _

theorem writes_indented (he : ∀ t ∈ ts, t.isExact = true) (hapart : ts.IsChain Apart)
    (depth : Nat) : Writes ts (indented depth ts) := by
  induction ts generalizing depth with
  | nil => exact .nil
  | cons t ts ih =>
    rw [List.forall_mem_cons] at he
    cases ts with
    | nil => simpa [indented] using Writes.token he.1 (fun _ => breaks_nil) .nil
    | cons u ts =>
      have hgap := isSpace_gap t u depth
      rw [List.isChain_cons_cons] at hapart
      rw [indented, List.append_assoc]
      -- A word ends at the gap, or at the next token where there is none.
      refine .token he.1 (fun hw => ?_) ((ih he.2 hapart.2 _).spaces hgap)
      exact (breaks_indented (hapart.1 hw) _).spaces hgap

end

end RouterLab.Json
