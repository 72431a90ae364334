import RouterLab.Json.Reader
import RouterLab.Proofs.Json.Layout

/-!
Data come back from their JSON text, in either layout.  The tokens of a datum take the reader from
where a value is wanted to where that value is delivered, whatever lists and records are open.
-/

namespace RouterLab

/-- What JSON text has a form of its own for.  A moment becomes text, and the literal of a decimal
may be anything. -/
inductive Datum.Exact : Datum → Prop where
  | null : Exact .null
  | flag (b : Bool) : Exact (.flag b)
  | integer (n : Int) : Exact (.integer n)
  | text (s : String) : Exact (.text s)
  | unreadable : Exact .unreadable
  | list {items : List Datum} (h : ∀ d ∈ items, Exact d) : Exact (.list items)
  | record {fields : List (String × Datum)} (h : ∀ f ∈ fields, Exact f.2) : Exact (.record fields)

namespace Json

/-! ### The tokens of a datum -/

theorem itemTokens_cons_cons (d e : Datum) (items : List Datum) :
    itemTokens (d :: e :: items) = tokens d ++ .comma :: itemTokens (e :: items) := rfl

theorem fieldTokens_cons_cons (f g : String × Datum) (fields : List (String × Datum)) :
    fieldTokens (f :: g :: fields) =
      .text (some f.1) :: .colon :: (tokens f.2 ++ .comma :: fieldTokens (g :: fields)) := rfl

theorem itemTokens_head (d : Datum) (items : List Datum) :
    ∃ t ts, itemTokens (d :: items) = t :: ts ∧ t ≠ .closeList := by
  have hd : ∃ t ts, tokens d = t :: ts ∧ t ≠ .closeList := by
    cases d <;> exact ⟨_, _, rfl, nofun⟩
  obtain ⟨t, ts, ht, hne⟩ := hd
  cases items with
  | nil => exact ⟨t, ts, ht, hne⟩
  | cons e items =>
    rw [itemTokens_cons_cons, ht]
    exact ⟨t, _, rfl, hne⟩

structure Writable (ts : List Token) : Prop where
  exact : ∀ t ∈ ts, t.isExact = true
  apart : ts.IsChain Apart

namespace Writable

variable {t : Token} {ts us : List Token}

theorem cons (he : t.isExact = true) (hw : t.isWord = false) (h : Writable ts) :
    Writable (t :: ts) := by
  refine ⟨List.forall_mem_cons.mpr ⟨he, h.exact⟩, List.isChain_cons.mpr ⟨?_, h.apart⟩⟩
  intro u _ hword
  rw [hw] at hword
  cases hword

theorem append (hts : Writable ts) (hus : Writable us) (hw : ∀ u ∈ us.head?, u.isWord = false) :
    Writable (ts ++ us) := by
  refine ⟨List.forall_mem_append.mpr ⟨hts.exact, hus.exact⟩,
    List.isChain_append.mpr ⟨hts.apart, hus.apart, ?_⟩⟩
  intro t _ u hu _
  exact hw u hu

theorem nil : Writable [] :=
  ⟨nofun, .nil⟩

theorem single (he : t.isExact = true) : Writable [t] :=
  ⟨List.forall_mem_singleton.mpr he, .singleton t⟩

theorem enclosed (h : Writable ts) {opening closing : Token} (hopening : opening.isExact = true)
    (hclosing : closing.isExact = true) (hwopening : opening.isWord = false)
    (hwclosing : closing.isWord = false) : Writable (opening :: ts ++ [closing]) := by
  rw [List.cons_append]
  refine .cons hopening hwopening (h.append (.single hclosing) ?_)
  rintro u ⟨rfl⟩
  exact hwclosing

end Writable

theorem writable_itemTokens {items : List Datum} (h : ∀ d ∈ items, Writable (tokens d)) :
    Writable (itemTokens items) := by
  induction items with
  | nil => exact .nil
  | cons d items ih =>
    rw [List.forall_mem_cons] at h
    cases items with
    | nil => exact h.1
    | cons e items =>
      exact h.1.append (.cons rfl rfl (ih h.2)) (by rintro u ⟨rfl⟩; rfl)

theorem writable_fieldTokens {fields : List (String × Datum)}
    (h : ∀ f ∈ fields, Writable (tokens f.2)) : Writable (fieldTokens fields) := by
  induction fields with
  | nil => exact .nil
  | cons f fields ih =>
    rw [List.forall_mem_cons] at h
    cases fields with
    | nil => exact .cons rfl rfl (.cons rfl rfl h.1)
    | cons g fields =>
      have htail : Writable (.comma :: fieldTokens (g :: fields)) := .cons rfl rfl (ih h.2)
      exact .cons rfl rfl (.cons rfl rfl (h.1.append htail (by rintro u ⟨rfl⟩; rfl)))

theorem writable_tokens {d : Datum} (h : d.Exact) : Writable (tokens d) := by
  induction h with
  | null | flag | integer | text | unreadable => exact .single rfl
  | list _ ih => exact (writable_itemTokens ih).enclosed rfl rfl rfl rfl
  | record _ ih => exact (writable_fieldTokens ih).enclosed rfl rfl rfl rfl

/-! ### Reading them -/

namespace Reader

def Gives (ts : List Token) (d : Datum) : Prop :=
  ∀ stack rest,
    (ts ++ rest).foldlM step (.within stack .value) = rest.foldlM step (deliver d stack)

theorem recordOf_some (fields : List (String × Datum)) :
    recordOf (fields.map fun f => (some f.1, f.2)) = .record fields := by
  have hkeys : (fields.map fun f => (some f.1, f.2)).mapM (fun f => f.1.map (·, f.2)) =
      some fields := by
    induction fields with
    | nil => rfl
    | cons f fields ih => simp [List.mapM_cons, ih]
  rw [recordOf, hkeys]

theorem foldlM_items {d : Datum} {items : List Datum}
    (h : ∀ e ∈ d :: items, Gives (tokens e) e) (read : List Datum) (stack : List Frame)
    (rest : List Token) :
    (itemTokens (d :: items) ++ .closeList :: rest).foldlM step
        (.within (.items read :: stack) .value) =
      rest.foldlM step (deliver (.list (read.reverse ++ d :: items)) stack) := by
  -- What was read of the list is on the stack, so the induction is on what is still to come.
  induction items generalizing d read with
  | nil =>
    calc
      _ = (.closeList :: rest).foldlM step (deliver d (.items read :: stack)) :=
        h d List.mem_cons_self _ _
      _ = rest.foldlM step (deliver (.list (d :: read).reverse) stack) := rfl
      _ = _ := by rw [List.reverse_cons]
  | cons e items ih =>
    rw [List.forall_mem_cons] at h
    calc
      _ = (.comma :: (itemTokens (e :: items) ++ .closeList :: rest)).foldlM step
            (deliver d (.items read :: stack)) := by
        rw [itemTokens_cons_cons, List.append_assoc, h.1, List.cons_append]
      _ = (itemTokens (e :: items) ++ .closeList :: rest).foldlM step
            (.within (.items (d :: read) :: stack) .value) := rfl
      _ = rest.foldlM step (deliver (.list ((d :: read).reverse ++ e :: items)) stack) :=
        ih h.2 (d :: read)
      _ = _ := by rw [List.reverse_cons, List.append_assoc, List.singleton_append]

theorem foldlM_fields {f : String × Datum} {fields : List (String × Datum)}
    (h : ∀ g ∈ f :: fields, Gives (tokens g.2) g.2) (read : List (Option String × Datum))
    (key : Option String) (stack : List Frame) (rest : List Token) :
    (fieldTokens (f :: fields) ++ .closeRecord :: rest).foldlM step
        (.within (.fields read key :: stack) .key) =
      rest.foldlM step
        (deliver (recordOf (read.reverse ++ (f :: fields).map fun g => (some g.1, g.2))) stack) := by
  induction fields generalizing f read key with
  | nil =>
    calc
      _ = (tokens f.2 ++ .closeRecord :: rest).foldlM step
            (.within (.fields read (some f.1) :: stack) .value) := rfl
      _ = (.closeRecord :: rest).foldlM step (deliver f.2 (.fields read (some f.1) :: stack)) :=
        h f List.mem_cons_self _ _
      _ = rest.foldlM step (deliver (recordOf ((some f.1, f.2) :: read).reverse) stack) := rfl
      _ = _ := by rw [List.reverse_cons, List.map_singleton]
  | cons g fields ih =>
    rw [List.forall_mem_cons] at h
    calc
      _ = (tokens f.2 ++ .comma :: (fieldTokens (g :: fields) ++ .closeRecord :: rest)).foldlM step
            (.within (.fields read (some f.1) :: stack) .value) := by
        rw [fieldTokens_cons_cons, List.cons_append, List.cons_append, List.append_assoc,
          List.cons_append]
        rfl
      _ = (.comma :: (fieldTokens (g :: fields) ++ .closeRecord :: rest)).foldlM step
            (deliver f.2 (.fields read (some f.1) :: stack)) := h.1 _ _
      _ = (fieldTokens (g :: fields) ++ .closeRecord :: rest).foldlM step
            (.within (.fields ((some f.1, f.2) :: read) none :: stack) .key) := rfl
      _ = _ := by
        rw [ih h.2, List.reverse_cons, List.append_assoc]
        rfl

/-- Only where no value was read yet may the list be closed instead. -/
theorem foldlM_valueOrClose {t : Token} (h : t ≠ .closeList) (ts : List Token)
    (stack : List Frame) :
    (t :: ts).foldlM step (.within stack .valueOrClose) =
      (t :: ts).foldlM step (.within stack .value) := by
  have hstep : step (.within stack .valueOrClose) t = step (.within stack .value) t := if_neg h
  rw [List.foldlM_cons, List.foldlM_cons, hstep]

theorem gives_tokens {d : Datum} (h : d.Exact) : Gives (tokens d) d := by
  induction h with
  | null | flag | integer | text | unreadable => exact fun stack rest => rfl
  | @list items h ih =>
    intro stack rest
    cases items with
    | nil => rfl
    | cons d items =>
      obtain ⟨t, ts, ht, hne⟩ := itemTokens_head d items
      calc
        _ = (itemTokens (d :: items) ++ .closeList :: rest).foldlM step
              (.within (.items [] :: stack) .valueOrClose) := by
          rw [tokens, List.cons_append, List.cons_append, List.append_assoc]
          rfl
        _ = (itemTokens (d :: items) ++ .closeList :: rest).foldlM step
              (.within (.items [] :: stack) .value) := by
          rw [ht, List.cons_append, foldlM_valueOrClose hne]
        _ = _ := by rw [foldlM_items ih, List.reverse_nil, List.nil_append]
  | @record fields h ih =>
    intro stack rest
    cases fields with
    | nil => rfl
    | cons f fields =>
      calc
        _ = (fieldTokens (f :: fields) ++ .closeRecord :: rest).foldlM step
              (.within (.fields [] none :: stack) .keyOrClose) := by
          rw [tokens, List.cons_append, List.cons_append, List.append_assoc]
          rfl
        _ = (fieldTokens (f :: fields) ++ .closeRecord :: rest).foldlM step
              (.within (.fields [] none :: stack) .key) := by
          cases fields <;> rfl
        _ = _ := by rw [foldlM_fields ih, List.reverse_nil, List.nil_append, recordOf_some]

end Reader

theorem ofTokens?_tokens {d : Datum} (h : d.Exact) : ofTokens? (tokens d) = some d := by
  have hgives := Reader.gives_tokens h [] []
  rw [List.append_nil] at hgives
  simp [ofTokens?, hgives, Reader.deliver, Reader.finish]

theorem read_compact {d : Datum} (h : d.Exact) : read (compact d) = some d := by
  have hw := writable_tokens h
  have hscan := (writes_flatMap hw.exact hw.apart).scan
  rw [read, compact, String.toList_ofList, hscan]
  exact ofTokens?_tokens h

theorem read_pretty {d : Datum} (h : d.Exact) : read (pretty d) = some d := by
  have hw := writable_tokens h
  have hscan := (writes_indented hw.exact hw.apart 0).scan
  rw [read, pretty, String.toList_ofList, hscan]
  exact ofTokens?_tokens h

end Json

end RouterLab
