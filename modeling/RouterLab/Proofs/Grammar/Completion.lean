import RouterLab.Grammar.Standard
import RouterLab.Proofs.Grammar.Narrowing
import RouterLab.Proofs.Text.Words

namespace RouterLab

open Text

def Token.keyword? : Token → Option String
  | .keyword text => some text
  | .argument _ => none

namespace Path

def keywords (p : Path) : List String :=
  p.tokens.filterMap Token.keyword?

theorem mem_keywords {p : Path} {k : String} : k ∈ p.keywords ↔ .keyword k ∈ p.tokens := by
  rw [keywords, List.mem_filterMap]
  constructor
  · rintro ⟨t, ht, hk⟩
    cases t with
    | keyword text =>
      have htext : text = k := Option.some.inj hk
      exact htext ▸ ht
    | argument name => cases hk
  · intro h
    exact ⟨_, h, rfl⟩

theorem mem_expand {ts : List Token} {ws : List String} {v : String} (h : v ∈ expand ts ws) :
    .keyword v ∈ ts ∨ v ∈ ws := by
  fun_induction expand ts ws with
  | case1 ws => cases h
  | case2 text ts w ws ih =>
    rcases List.mem_cons.mp h with rfl | hv
    · exact .inl (by simp)
    · rcases ih hv with hk | hw
      · exact .inl (List.mem_cons_of_mem _ hk)
      · exact .inr (List.mem_cons_of_mem _ hw)
  | case3 name ts w ws ih =>
    rcases List.mem_cons.mp h with rfl | hv
    · exact .inr (by simp)
    · rcases ih hv with hk | hw
      · exact .inl (List.mem_cons_of_mem _ hk)
      · exact .inr (List.mem_cons_of_mem _ hw)
  | case4 text ts =>
    rw [List.mem_singleton.mp h]
    exact .inl (by simp)
  | case5 name ts => cases h

theorem shortens_expand {ts : List Token} {ws : List String} (hfits : accepts ts ws = true)
    (hne : ∀ w ∈ ws, w ≠ "") : Shortens ws (expand ts ws) := by
  fun_induction expand ts ws with
  | case1 ws =>
    cases ws with
    | nil => exact .nil []
    | cons w ws => exact absurd hfits (by simp [accepts])
  | case2 text ts w ws ih =>
    simp only [accepts, Token.accepts, Bool.and_eq_true, bne_iff_ne,
      List.isPrefixOf_iff_prefix] at hfits
    exact .cons hfits.1.1 hfits.1.2 (ih hfits.2 fun v hv => hne v (List.mem_cons_of_mem w hv))
  | case3 name ts w ws ih =>
    simp only [accepts, Bool.and_eq_true] at hfits
    exact .cons (hne w (by simp)) (List.prefix_refl _)
      (ih hfits.2 fun v hv => hne v (List.mem_cons_of_mem w hv))
  | case4 text ts => exact .nil _
  | case5 name ts => exact .nil _

theorem accepts_keyword {text : String} (h : text ≠ "") :
    (Token.keyword text).accepts text = true := by
  simp [Token.accepts, h]

theorem accepts_expand {ts : List Token} {ws : List String} (hfits : accepts ts ws = true)
    (hkw : ∀ text, .keyword text ∈ ts → text ≠ "") : accepts ts (expand ts ws) = true := by
  fun_induction expand ts ws with
  | case1 ws => rfl
  | case2 text ts w ws ih =>
    simp only [accepts, Bool.and_eq_true] at hfits ⊢
    exact ⟨accepts_keyword (hkw text (by simp)),
      ih hfits.2 fun t ht => hkw t (List.mem_cons_of_mem _ ht)⟩
  | case3 name ts w ws ih =>
    simp only [accepts, Bool.and_eq_true] at hfits ⊢
    exact ⟨rfl, ih hfits.2 fun t ht => hkw t (List.mem_cons_of_mem _ ht)⟩
  | case4 text ts =>
    simp only [accepts, Bool.and_eq_true]
    exact ⟨accepts_keyword (hkw text (by simp)), trivial⟩
  | case5 name ts => rfl

theorem slots_expand (ts : List Token) (ws : List String) :
    slots ts (expand ts ws) = slots ts ws := by
  fun_induction expand ts ws with
  | case1 ws => rfl
  | case2 text ts w ws ih => simpa only [slots, List.tail_cons] using ih
  | case3 name ts w ws ih => simp only [slots, ih]
  | case4 text ts => rfl
  | case5 name ts => rfl

theorem eq_nil_of_expand {ts : List Token} {ws : List String} (hfits : accepts ts ws = true)
    (h : expand ts ws = []) : ws = [] := by
  cases ws with
  | nil => rfl
  | cons w ws =>
    cases ts with
    | nil => exact absurd hfits (by simp [accepts])
    | cons t ts => cases t <;> simp [expand] at h

theorem getLast?_expand {ts : List Token} {ws : List String} {v : String}
    (hfits : accepts ts ws = true) (h : (expand ts ws).getLast? = some v) :
    .keyword v ∈ ts ∨ ws.getLast? = some v := by
  fun_induction expand ts ws with
  | case1 ws => simp at h
  | case2 text ts w ws ih =>
    simp only [accepts, Bool.and_eq_true] at hfits
    by_cases he : expand ts ws = []
    · have hv : text = v := by simpa [he] using h
      exact .inl (by simp [hv])
    · rw [List.getLast?_cons_of_ne_nil he] at h
      rcases ih hfits.2 h with hk | hw
      · exact .inl (List.mem_cons_of_mem _ hk)
      · exact .inr (by simp [List.getLast?_cons, hw])
  | case3 name ts w ws ih =>
    simp only [accepts, Bool.and_eq_true] at hfits
    by_cases he : expand ts ws = []
    · have hv : w = v := by simpa [he] using h
      exact .inr (by simp [eq_nil_of_expand hfits.2 he, hv])
    · rw [List.getLast?_cons_of_ne_nil he] at h
      rcases ih hfits.2 h with hk | hw
      · exact .inl (List.mem_cons_of_mem _ hk)
      · exact .inr (by simp [List.getLast?_cons, hw])
  | case4 text ts =>
    have hv : text = v := by simpa using h
    exact .inl (by simp [hv])
  | case5 name ts => simp at h

end Path

namespace Grammar

def Keywords (P : String → Prop) (g : Grammar) : Prop :=
  ∀ m, ∀ p ∈ g.paths m, ∀ k ∈ p.keywords, P k

theorem Keywords.mono {P Q : String → Prop} (hPQ : ∀ k, P k → Q k) {g : Grammar}
    (h : g.Keywords P) : g.Keywords Q :=
  fun m p hp k hk => hPQ k (h m p hp k hk)

theorem standard_keywords : standard.Keywords PlainWord := by
  intro m
  cases m <;> decide

theorem complete_of_unique {g : Grammar} {m : Mode} {line : String} {p : Path}
    (hne : words line ≠ []) (h : g.resolve m (words line) = .unique p) :
    g.complete m line = unwords (Path.expand p.tokens (words line)) := by
  obtain ⟨w, ws, hw⟩ := List.exists_cons_of_ne_nil hne
  rw [hw] at h
  simp [complete, hw, h]

theorem complete_of_not_unique {g : Grammar} {m : Mode} {line : String}
    (h : words line = [] ∨ ∀ p, g.resolve m (words line) ≠ .unique p) :
    g.complete m line = line := by
  cases hw : words line with
  | nil => simp [complete, hw]
  | cons w ws =>
    rw [hw] at h
    have hu := h.resolve_left (List.cons_ne_nil w ws)
    cases hr : g.resolve m (w :: ws) with
    | unique p => exact absurd hr (hu p)
    | ambiguous => simp [complete, hw, hr]
    | none => simp [complete, hw, hr]

variable {g : Grammar} {m : Mode} {line : String} {p : Path}

theorem words_complete (hg : g.Keywords Word) (hne : words line ≠ [])
    (h : g.resolve m (words line) = .unique p) :
    words (g.complete m line) = Path.expand p.tokens (words line) := by
  rw [complete_of_unique hne h]
  apply words_unwords
  intro v hv
  rcases Path.mem_expand hv with hk | hw
  · exact hg m p (mem_paths_of_resolve h).1 v (Path.mem_keywords.mpr hk)
  · exact word_of_mem_words hw

theorem mem_complete (hg : g.Keywords Word) {c : Char} (hc : c ∈ (g.complete m line).toList) :
    c ∈ line.toList ∨ c = ' ' ∨ isBlank c = false := by
  by_cases hne : words line = []
  · rw [complete_of_not_unique (.inl hne)] at hc
    exact .inl hc
  · by_cases hu : ∃ p, g.resolve m (words line) = .unique p
    · obtain ⟨p, hp⟩ := hu
      rw [complete_of_unique hne hp] at hc
      rcases mem_unwords hc with hblank | ⟨w, hw, hcw⟩
      · exact .inr (.inl hblank)
      · have hword : Word w := by
          rcases Path.mem_expand hw with hk | hline
          · exact hg m p (mem_paths_of_resolve hp).1 w (Path.mem_keywords.mpr hk)
          · exact word_of_mem_words hline
        exact .inr (.inr (hword.unbroken c hcw))
    · rw [complete_of_not_unique (.inr fun p hp => hu ⟨p, hp⟩)] at hc
      exact .inl hc

theorem resolve_complete (hg : g.Keywords Word) (h : g.resolve m (words line) = .unique p) :
    g.resolve m (words (g.complete m line)) = .unique p ∧
      p.arguments (words (g.complete m line)) = p.arguments (words line) := by
  by_cases hne : words line = []
  · rw [complete_of_not_unique (.inl hne)]
    exact ⟨h, rfl⟩
  · obtain ⟨hp, hfits⟩ := mem_paths_of_resolve h
    have hword (text : String) (ht : .keyword text ∈ p.tokens) : text ≠ "" :=
      (hg m p hp text (Path.mem_keywords.mpr ht)).ne_empty
    have hshort := Path.shortens_expand hfits fun w hw => (word_of_mem_words hw).ne_empty
    rw [words_complete hg hne h]
    exact ⟨resolve_of_shortens hshort h (Path.accepts_expand hfits hword),
      Path.slots_expand p.tokens (words line)⟩

end Grammar

end RouterLab
