import Mathlib.Data.List.Basic
import Mathlib.Data.List.TakeWhile
import RouterLab.Json.Layout

/-!
The scanner takes the characters of a token for that token.  A token that is no word ends by
itself; a word ends where the next character belongs to none.
-/

namespace RouterLab.Json

/-! ### Text -/

theorem joinHalves_toNat (cs : List Char) : joinHalves (cs.map Char.toNat) = some cs := by
  induction cs with
  | nil => rfl
  | cons c cs ih =>
    have hvalid : c.toNat < 0xD800 ∨ 0xDFFF < c.toNat ∧ c.toNat < 0x110000 := c.valid
    have hhigh : isHighHalf c.toNat = false := by
      simp only [isHighHalf, Bool.and_eq_false_iff, decide_eq_false_iff_not]
      omega
    have hlow : isLowHalf c.toNat = false := by
      simp only [isLowHalf, Bool.and_eq_false_iff, decide_eq_false_iff_not]
      omega
    rw [List.map_cons]
    unfold joinHalves
    simp [hhigh, hlow, ih]

theorem hexDigit?_digitChar : ∀ n < 16, hexDigit? n.digitChar = some n := by
  decide

namespace Scanner

theorem foldlM_hexChars {n : Nat} (hn : n < 0x100) (read : List Nat) (ts : List Token) :
    (hexChars n).foldlM step ⟨.hex read 4 0, ts⟩ = some ⟨.text (n :: read), ts⟩ := by
  have hhi : hexDigit? (n / 16).digitChar = some (n / 16) := hexDigit?_digitChar _ (by omega)
  have hlo : hexDigit? (n % 16).digitChar = some (n % 16) := hexDigit?_digitChar _ (by omega)
  have hzero : hexDigit? '0' = some 0 := rfl
  simp [hexChars, step, goTo, hhi, hlo, hzero, Nat.div_add_mod]

theorem foldlM_shortEscape {c : Char} {n : Nat} (h : shortEscape? c = some n) (read : List Nat)
    (ts : List Token) :
    ['\\', c].foldlM step ⟨.text read, ts⟩ = some ⟨.text (n :: read), ts⟩ := by
  have hu : c ≠ 'u' := by
    rintro rfl
    cases h
  simp [step, goTo, hu, h]

theorem foldlM_escape (c : Char) (read : List Nat) (ts : List Token) :
    (escape c).foldlM step ⟨.text read, ts⟩ = some ⟨.text (c.toNat :: read), ts⟩ := by
  unfold escape
  split_ifs with hquote hslash h8 h9 hA hC hD hcontrol
  · subst hquote
    exact foldlM_shortEscape rfl read ts
  · subst hslash
    exact foldlM_shortEscape rfl read ts
  · exact h8 ▸ foldlM_shortEscape rfl read ts
  · exact h9 ▸ foldlM_shortEscape rfl read ts
  · exact hA ▸ foldlM_shortEscape rfl read ts
  · exact hC ▸ foldlM_shortEscape rfl read ts
  · exact hD ▸ foldlM_shortEscape rfl read ts
  · have hhex := foldlM_hexChars (n := c.toNat) (by omega) read ts
    simpa [step, goTo] using hhex
  · simp [step, goTo, hquote, hslash, hcontrol]

theorem foldlM_escapes (cs : List Char) (read : List Nat) (ts : List Token) :
    (cs.flatMap escape).foldlM step ⟨.text read, ts⟩ =
      some ⟨.text ((cs.map Char.toNat).reverse ++ read), ts⟩ := by
  induction cs generalizing read with
  | nil => rfl
  | cons c cs ih =>
    rw [List.flatMap_cons, List.foldlM_append, foldlM_escape, Option.bind_eq_bind,
      Option.bind_some, ih, List.map_cons, List.reverse_cons, List.append_assoc,
      List.singleton_append]

theorem foldlM_textChars (s : String) (ts : List Token) :
    (textChars s).foldlM step ⟨.between, ts⟩ = some ⟨.between, .text (some s) :: ts⟩ := by
  have hopen : step ⟨.between, ts⟩ '"' = some ⟨.text [], ts⟩ := rfl
  have hclose (read : List Nat) :
      step ⟨.text read, ts⟩ '"' =
        some ⟨.between, .text ((joinHalves read.reverse).map String.ofList) :: ts⟩ := rfl
  simp [textChars, List.foldlM_append, hopen, foldlM_escapes, hclose, joinHalves_toNat]

end Scanner

/-! ### Words -/

theorem natOfDigits_toDigits (n : Nat) : natOfDigits (Nat.toDigits 10 n) = n :=
  Nat.ofDigitChars_ten_toDigits

theorem isDigit_toDigits {n : Nat} {c : Char} (hc : c ∈ Nat.toDigits 10 n) : c.isDigit = true :=
  Nat.isDigit_of_mem_toDigits (by decide) (by decide) hc

theorem head?_toDigits {n : Nat} (hn : n ≠ 0) : (Nat.toDigits 10 n).head? ≠ some '0' := by
  -- Without its last digit the number is smaller and begins alike.
  induction n using Nat.strongRecOn with
  | ind n ih =>
    by_cases hlt : n < 10
    · simpa [Nat.toDigits_of_lt_base hlt] using hn
    · have hdigits := Nat.toDigits_of_base_le (b := 10) (n := n) (by decide) (by omega)
      have hrest := ih (n / 10) (by omega) (by omega)
      rw [hdigits, List.head?_append_of_ne_nil _ Nat.toDigits_ne_nil]
      exact hrest

theorem isWhole_toDigits (n : Nat) : isWhole (Nat.toDigits 10 n) = true := by
  by_cases hn : n = 0
  · subst hn
    rfl
  · have hhead := head?_toDigits hn
    obtain ⟨d, ds, hds⟩ := List.exists_cons_of_ne_nil (Nat.toDigits_ne_nil (n := n) (b := 10))
    rw [hds, List.head?_cons, ne_eq, Option.some.injEq] at hhead
    rw [hds]
    unfold isWhole
    split <;> simp_all

theorem toDigits_ne_zero {n : Nat} (hn : n ≠ 0) : Nat.toDigits 10 n ≠ ['0'] := by
  intro h
  exact head?_toDigits hn (by rw [h, List.head?_cons])

theorem takeWhile_toDigits (n : Nat) :
    (Nat.toDigits 10 n).takeWhile Char.isDigit = Nat.toDigits 10 n :=
  List.takeWhile_eq_self_iff.mpr fun _ => isDigit_toDigits

theorem dropWhile_toDigits (n : Nat) : (Nat.toDigits 10 n).dropWhile Char.isDigit = [] :=
  List.dropWhile_eq_nil_iff.mpr fun _ => isDigit_toDigits

theorem number?_intChars (n : Int) : number? (intChars n) = some (.integer n) := by
  cases n with
  | ofNat n =>
    have hsign : ((Nat.toDigits 10 n).head? == some '-') = false := by
      rw [beq_eq_false_iff_ne]
      intro h
      exact absurd (isDigit_toDigits (List.mem_of_head? h)) (by decide)
    simp [intChars, number?, hsign, takeWhile_toDigits, dropWhile_toDigits, isWhole_toDigits,
      natOfDigits_toDigits, isFraction, isExponent]
  | negSucc n =>
    have hzero : Nat.toDigits 10 (n + 1) ≠ ['0'] := toDigits_ne_zero (by omega)
    simp [intChars, number?, takeWhile_toDigits, dropWhile_toDigits, isWhole_toDigits,
      natOfDigits_toDigits, isFraction, isExponent, hzero]
    omega

namespace Token

def isWord : Token → Bool
  | .null | .flag _ | .integer _ | .decimal _ => true
  | _ => false

/-- Any text may stand in a decimal, whether it is a number or not. -/
def isExact : Token → Bool
  | .decimal _ => false
  | _ => true

variable {t : Token}

theorem wordChars_of_isWord (he : t.isExact = true) (hw : t.isWord = true) :
    ∀ c ∈ t.chars, isWordChar c = true := by
  have hdigits (n : Nat) : ∀ c ∈ Nat.toDigits 10 n, isWordChar c = true := by
    intro c hc
    simp [isWordChar, Char.isAlphanum, isDigit_toDigits hc]
  cases t with
  | null => exact List.all_eq_true.mp rfl
  | flag b => cases b <;> exact List.all_eq_true.mp rfl
  | integer n =>
    cases n with
    | ofNat n => exact hdigits n
    | negSucc n => exact List.forall_mem_cons.mpr ⟨rfl, hdigits (n + 1)⟩
  | decimal => cases he
  | _ => cases hw

theorem word?_of_isWord (he : t.isExact = true) (hw : t.isWord = true) :
    word? t.chars = some t := by
  cases t with
  | null => rfl
  | flag b => cases b <;> rfl
  | integer n =>
    have hnumber := number?_intChars n
    have hne {cs : List Char} (hcs : number? cs = none) : intChars n ≠ cs := by
      rintro rfl
      rw [hnumber] at hcs
      cases hcs
    rw [chars, word?, if_neg (hne rfl), if_neg (hne rfl), if_neg (hne rfl), hnumber]
  | decimal => cases he
  | _ => cases hw

theorem chars_ne_nil_of_isWord (he : t.isExact = true) (hw : t.isWord = true) :
    t.chars ≠ [] := by
  intro hnil
  have hword := word?_of_isWord he hw
  rw [hnil] at hword
  cases hword

theorem chars_of_not_isWord (hw : t.isWord = false) :
    ∃ c cs, t.chars = c :: cs ∧ isWordChar c = false := by
  cases t with
  | null | flag | integer | decimal => cases hw
  | text s => cases s <;> exact ⟨'"', _, rfl, rfl⟩
  | _ => exact ⟨_, _, rfl, rfl⟩

end Token

/-! ### Scanning -/

namespace Scanner

def rest (s : Scanner) (cs : List Char) : Option (List Token) := do
  (← cs.foldlM step s).finish

variable {s s' : Scanner} {t : Token} {ts : List Token} {c : Char} {cs : List Char}

theorem rest_cons (s : Scanner) (c : Char) (cs : List Char) :
    s.rest (c :: cs) = (s.step c).bind (·.rest cs) := by
  cases h : s.step c <;> simp [rest, h]

theorem rest_append (h : cs.foldlM step s = some s') (ds : List Char) :
    s.rest (cs ++ ds) = s'.rest ds := by
  simp [rest, List.foldlM_append, h]

theorem begin_of_isWordChar (h : isWordChar c = true) : s.begin c = some (s.goTo (.word [c])) := by
  have hne (d : Char) (hd : isWordChar d = false) : c ≠ d := by
    rintro rfl
    rw [h] at hd
    cases hd
  simp [begin, h, hne ' ' rfl, hne '\n' rfl, hne '\t' rfl, hne '\r' rfl, hne '[' rfl,
    hne ']' rfl, hne '\x7b' rfl, hne '\x7d' rfl, hne ',' rfl, hne ':' rfl, hne '"' rfl]

theorem foldlM_wordChars (h : ∀ c ∈ cs, isWordChar c = true) (read : List Char) :
    cs.foldlM step ⟨.word read, ts⟩ = some ⟨.word (cs.reverse ++ read), ts⟩ := by
  induction cs generalizing read with
  | nil => rfl
  | cons c cs ih =>
    rw [List.forall_mem_cons] at h
    have hstep : step ⟨.word read, ts⟩ c = some ⟨.word (c :: read), ts⟩ := by
      simp [step, h.1, goTo]
    simp [hstep, ih h.2]

theorem foldlM_chars_of_isWord (he : t.isExact = true) (hw : t.isWord = true) :
    t.chars.foldlM step ⟨.between, ts⟩ = some ⟨.word t.chars.reverse, ts⟩ := by
  have hchars := Token.wordChars_of_isWord he hw
  obtain ⟨c, cs, hcs⟩ := List.exists_cons_of_ne_nil (Token.chars_ne_nil_of_isWord he hw)
  rw [hcs, List.forall_mem_cons] at hchars
  have hstep : step ⟨.between, ts⟩ c = some ⟨.word [c], ts⟩ := begin_of_isWordChar hchars.1
  simp [hcs, hstep, foldlM_wordChars hchars.2]

theorem foldlM_chars_of_not_isWord (hw : t.isWord = false) :
    t.chars.foldlM step ⟨.between, ts⟩ = some ⟨.between, t :: ts⟩ := by
  cases t with
  | null | flag | integer | decimal => cases hw
  | text s =>
    cases s with
    | none => rfl
    | some s => exact foldlM_textChars s ts
  | _ => rfl

end Scanner

def Breaks (cs : List Char) : Prop :=
  ∀ c ∈ cs.head?, isWordChar c = false

namespace Scanner

variable {s : Scanner} {t : Token} {ts : List Token} {cs : List Char}

theorem rest_of_breaks (hbreak : Breaks cs) {read : List Char} (hword : word? read.reverse = some t) :
    rest ⟨.word read, ts⟩ cs = rest ⟨.between, t :: ts⟩ cs := by
  cases cs with
  | nil => simp [rest, finish, hword, emit]
  | cons c cs =>
    have hc : isWordChar c = false := hbreak c rfl
    have hstep : step ⟨.word read, ts⟩ c = step ⟨.between, t :: ts⟩ c := by
      simp [step, hc, hword, emit]
    rw [rest_cons, rest_cons, hstep]

theorem rest_chars (he : t.isExact = true) (hbreak : t.isWord = true → Breaks cs) :
    rest ⟨.between, ts⟩ (t.chars ++ cs) = rest ⟨.between, t :: ts⟩ cs := by
  cases hw : t.isWord with
  | true =>
    rw [rest_append (foldlM_chars_of_isWord he hw), rest_of_breaks (hbreak hw)]
    rw [List.reverse_reverse]
    exact Token.word?_of_isWord he hw
  | false => rw [rest_append (foldlM_chars_of_not_isWord hw)]

end Scanner

end RouterLab.Json
