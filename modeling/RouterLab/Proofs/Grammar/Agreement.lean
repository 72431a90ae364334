import RouterLab.Proofs.Grammar.Completion

/-!
Resolution, help and completion describe one language.  Help shows what can stand next, a line can
be read on exactly with what help shows, and completion types the one keyword that help shows.
-/

namespace RouterLab

open Text

def Token.spelled : Token → String → String
  | .keyword text, _ => text
  | .argument _, word => word

theorem Token.accepts_iff_text {t : Token}
    (ht : ∀ k, t = .keyword k → k.toList.head? ≠ some '<') (w : String) :
    t.accepts w = true ↔
      (∃ name, t.text = (Token.argument name).text) ∨ (w ≠ "" ∧ w.toList <+: t.text.toList) := by
  cases t with
  | argument name =>
    constructor
    · intro _
      exact .inl ⟨name, rfl⟩
    · intro _
      rfl
  | keyword k =>
    have hslot : ¬∃ name, (Token.keyword k).text = (Token.argument name).text := by
      rintro ⟨name, hname⟩
      apply ht k rfl
      have hk : k = "<" ++ name ++ ">" := hname
      simp [hk]
    rw [or_iff_right hslot]
    simp only [accepts, text, Bool.and_eq_true, bne_iff_ne, List.isPrefixOf_iff_prefix]

namespace Path

theorem accepts_concat {ts : List Token} {ws : List String} {w : String} :
    accepts ts (ws ++ [w]) = true ↔
      accepts ts ws = true ∧ ∃ t, ts[ws.length]? = some t ∧ t.accepts w = true := by
  induction ws generalizing ts with
  | nil => cases ts <;> simp [accepts]
  | cons v ws ih =>
    cases ts with
    | nil => simp [accepts]
    | cons t ts => simp [accepts, ih, and_assoc]

theorem expand_eq {ts : List Token} {ws : List String} (hfits : accepts ts ws = true) :
    expand ts ws =
      List.zipWith Token.spelled ts ws ++ (ts[ws.length]?.bind Token.keyword?).toList := by
  fun_induction expand ts ws with
  | case1 ws =>
    cases ws with
    | nil => rfl
    | cons w ws => exact absurd hfits (by simp [accepts])
  | case2 text ts w ws ih =>
    simp only [accepts, Bool.and_eq_true] at hfits
    simp [ih hfits.2, Token.spelled]
  | case3 name ts w ws ih =>
    simp only [accepts, Bool.and_eq_true] at hfits
    simp [ih hfits.2, Token.spelled]
  | case4 text ts => rfl
  | case5 name ts => rfl

def next? (p : Path) (ws : List String) : Option String :=
  if p.fits ws then p.tokens[ws.length]?.map Token.text else none

theorem next?_eq_some_iff {p : Path} {ws : List String} {s : String} :
    p.next? ws = some s ↔
      p.fits ws = true ∧ ∃ t, p.tokens[ws.length]? = some t ∧ t.text = s := by
  cases h : p.fits ws with
  | false => simp [next?, h]
  | true => simp [next?, h, Option.map_eq_some_iff]

end Path

theorem pairwise_eraseDups_filterMap {α β : Type} [BEq β] [LawfulBEq β] (f : α → Option β)
    (l : List α) (q : β → Bool) :
    ((l.filterMap f).filter q).eraseDups.Pairwise fun s t =>
      l.findIdx (f · == some s) < l.findIdx (f · == some t) := by
  induction l generalizing q with
  | nil => exact .nil
  | cons a l ih =>
    cases hf : f a with
    | none =>
      rw [List.filterMap_cons_none hf]
      refine (ih q).imp fun {s t} hst => ?_
      simpa [List.findIdx_cons, hf] using hst
    | some b =>
      have hlater {s : β} (hs : s ≠ b) :
          (a :: l).findIdx (f · == some s) = l.findIdx (f · == some s) + 1 := by
        have hb : (b == s) = false := by simpa using Ne.symm hs
        simp [List.findIdx_cons, hf, hb]
      have hfirst : (a :: l).findIdx (f · == some b) = 0 := by
        simp [List.findIdx_cons, hf]
      have hrest (r : β → Bool) (hr : ∀ s, r s = true → s ≠ b) :
          ((l.filterMap f).filter r).eraseDups.Pairwise fun s t =>
            (a :: l).findIdx (f · == some s) < (a :: l).findIdx (f · == some t) := by
        refine (ih r).imp_of_mem fun {s t} hs ht hst => ?_
        rw [List.mem_eraseDups, List.mem_filter] at hs ht
        rw [hlater (hr s hs.2), hlater (hr t ht.2)]
        exact Nat.succ_lt_succ hst
      rw [List.filterMap_cons_some hf]
      cases hq : q b with
      | false =>
        rw [List.filter_cons_of_neg (by simp [hq])]
        exact hrest q fun s hs he => by simp [he, hq] at hs
      | true =>
        rw [List.filter_cons_of_pos hq, List.eraseDups_cons, List.filter_filter,
          List.pairwise_cons]
        refine ⟨fun t ht => ?_, hrest _ fun s hs => by simpa using (Bool.and_eq_true_iff.mp hs).1⟩
        rw [List.mem_eraseDups, List.mem_filter] at ht
        rw [hfirst, hlater (by simpa using (Bool.and_eq_true_iff.mp ht.2).1)]
        exact Nat.succ_pos _

namespace Grammar

variable {g : Grammar} {m : Mode} {ws : List String}

theorem resolve_ne_none_iff :
    g.resolve m ws ≠ .none ↔ ∃ p ∈ g.paths m, p.fits ws = true := by
  have hmem : (∃ p ∈ g.paths m, p.fits ws = true) ↔ g.candidates m ws ≠ [] := by
    simp [candidates]
  rw [hmem]
  rcases h : g.candidates m ws with _ | ⟨p, _ | ⟨q, ps⟩⟩ <;> simp [resolve, h]

theorem suggestions_eq (g : Grammar) (m : Mode) (ws : List String) :
    g.suggestions m ws = ((g.paths m).filterMap (·.next? ws)).eraseDups := by
  rw [suggestions, candidates, List.filterMap_filter]
  rfl

theorem mem_suggestions {s : String} :
    s ∈ g.suggestions m ws ↔ ∃ p ∈ g.paths m, p.next? ws = some s := by
  rw [suggestions_eq, List.mem_eraseDups, List.mem_filterMap]

theorem suggestions_in_order (g : Grammar) (m : Mode) (ws : List String) :
    (g.suggestions m ws).Pairwise fun s t =>
      (g.paths m).findIdx (·.next? ws == some s) < (g.paths m).findIdx (·.next? ws == some t) := by
  have h := pairwise_eraseDups_filterMap (·.next? ws) (g.paths m) fun _ => true
  rwa [List.filter_eq_self.mpr fun _ _ => rfl, ← suggestions_eq] at h

theorem nodup_suggestions (g : Grammar) (m : Mode) (ws : List String) :
    (g.suggestions m ws).Nodup :=
  (suggestions_in_order g m ws).imp fun h he => absurd h (by simp [he])

theorem resolve_concat_ne_none_iff (hg : g.Keywords fun k => k.toList.head? ≠ some '<')
    (w : String) :
    g.resolve m (ws ++ [w]) ≠ .none ↔
      ∃ s ∈ g.suggestions m ws, (∃ name, s = (Token.argument name).text) ∨
        (w ≠ "" ∧ w.toList <+: s.toList) := by
  have htext {p : Path} (hp : p ∈ g.paths m) {t : Token} (ht : p.tokens[ws.length]? = some t) :=
    Token.accepts_iff_text (t := t) (fun k hk => hg m p hp k
      (Path.mem_keywords.mpr (hk ▸ List.mem_of_getElem? ht))) w
  rw [resolve_ne_none_iff]
  constructor
  · rintro ⟨p, hp, hfits⟩
    obtain ⟨hws, t, ht, hw⟩ := Path.accepts_concat.mp hfits
    exact ⟨t.text, mem_suggestions.mpr ⟨p, hp, Path.next?_eq_some_iff.mpr ⟨hws, t, ht, rfl⟩⟩,
      (htext hp ht).mp hw⟩
  · rintro ⟨s, hs, hw⟩
    obtain ⟨p, hp, hnext⟩ := mem_suggestions.mp hs
    obtain ⟨hws, t, ht, rfl⟩ := Path.next?_eq_some_iff.mp hnext
    exact ⟨p, hp, Path.accepts_concat.mpr ⟨hws, t, ht, (htext hp ht).mpr hw⟩⟩

theorem suggestions_of_unique {p : Path} {t : Token} (h : g.resolve m ws = .unique p)
    (ht : p.tokens[ws.length]? = some t) : g.suggestions m ws = [t.text] := by
  simp [suggestions, resolve_eq_unique_iff.mp h, ht, List.eraseDups_cons]

theorem complete_unwords {p : Path} (h : g.resolve m ws = .unique p) (hne : ws ≠ [])
    (hws : ∀ w ∈ ws, Word w) :
    g.complete m (unwords ws) =
      unwords (List.zipWith Token.spelled p.tokens ws ++
        (p.tokens[ws.length]?.bind Token.keyword?).toList) := by
  have hwords : words (unwords ws) = ws := words_unwords hws
  rw [complete_of_unique (p := p) (by rwa [hwords]) (by rwa [hwords]), hwords,
    Path.expand_eq (mem_paths_of_resolve h).2]

theorem standard_no_slot_keyword :
    standard.Keywords fun k => k.toList.head? ≠ some '<' := by
  intro m
  cases m <;> decide

theorem help_agrees (hg : g.Keywords fun k => k.toList.head? ≠ some '<') (m : Mode)
    (ws : List String) :
    ((g.suggestions m ws).Nodup ∧
      (∀ s, s ∈ g.suggestions m ws ↔ ∃ p ∈ g.paths m, p.next? ws = some s) ∧
      (g.suggestions m ws).Pairwise fun s t =>
        (g.paths m).findIdx (·.next? ws == some s) < (g.paths m).findIdx (·.next? ws == some t)) ∧
    (∀ w, g.resolve m (ws ++ [w]) ≠ .none ↔
      ∃ s ∈ g.suggestions m ws, (∃ name, s = (Token.argument name).text) ∨
        (w ≠ "" ∧ w.toList <+: s.toList)) ∧
    ∀ p t, g.resolve m ws = .unique p → p.tokens[ws.length]? = some t →
      g.suggestions m ws = [t.text] ∧
      (ws ≠ [] → (∀ w ∈ ws, Word w) →
        g.complete m (unwords ws) =
          unwords (List.zipWith Token.spelled p.tokens ws ++ t.keyword?.toList)) := by
  refine ⟨⟨nodup_suggestions g m ws, fun s => mem_suggestions, suggestions_in_order g m ws⟩,
    resolve_concat_ne_none_iff hg, fun p t hp ht => ⟨suggestions_of_unique hp ht, ?_⟩⟩
  intro hne hws
  rw [complete_unwords hp hne hws, ht, Option.bind_some]

theorem help_agrees_show :
    let p : Path := ⟨[.keyword "show", .keyword "ip", .keyword "interface", .keyword "brief"],
      .showIpInterfaceBrief⟩
    standard.Keywords (fun k => k.toList.head? ≠ some '<') ∧
    standard.suggestions .privileged ["sh"] = ["ip", "interface", "running-config"] ∧
    standard.resolve .privileged ["sh", "i"] ≠ .none ∧
    standard.resolve .privileged ["sh", "ip"] = .unique p ∧
    p.tokens[2]? = some (.keyword "interface") ∧
    (∀ w ∈ ["sh", "ip"], Word w) ∧
    standard.suggestions .privileged ["sh", "ip"] = ["interface"] ∧
    standard.complete .privileged (unwords ["sh", "ip"]) =
      unwords ["show", "ip", "interface"] := by
  intro p
  have hshow : standard.suggestions .privileged ["sh"] = ["ip", "interface", "running-config"] := by
    decide
  have hp : standard.resolve .privileged ["sh", "ip"] = .unique p := by decide
  have hwords : ∀ w ∈ ["sh", "ip"], Word w := by decide
  obtain ⟨_, hread, _⟩ := help_agrees standard_no_slot_keyword .privileged ["sh"]
  obtain ⟨_, _, hunique⟩ := help_agrees standard_no_slot_keyword .privileged ["sh", "ip"]
  obtain ⟨hnext, hcomplete⟩ := hunique p (.keyword "interface") hp rfl
  exact ⟨standard_no_slot_keyword, hshow,
    (hread "i").mpr ⟨"ip", by simp [hshow], .inr (by decide)⟩,
    hp, rfl, hwords, hnext, hcomplete (by simp) hwords⟩

end Grammar

end RouterLab
