import RouterLab.Proofs.Repl.Enter
import RouterLab.Repl.Transcript

namespace RouterLab

namespace Repl

section Dialogue

-- unfolding the loop must not run into what a line does
attribute [local irreducible] enter

/-- What the loop says to the lines, where it then stands, and whether it goes on. -/
def dialogue (r : Repl) : List String → String × Repl × Next
  | [] => ("", r, .goOn)
  | input :: inputs =>
    let (answer, r', next) := r.enter input
    match next with
    | .goOn =>
      let (said, last) := r'.dialogue inputs
      (r.promptText ++ answer ++ said, last)
    | .leave => (r.promptText ++ answer, r', .leave)

variable {r r' : Repl} {input answer : String}

theorem dialogue_cons_goOn (h : r.enter input = (answer, r', .goOn)) (inputs : List String) :
    r.dialogue (input :: inputs) =
      (r.promptText ++ answer ++ (r'.dialogue inputs).1, (r'.dialogue inputs).2) := by
  simp only [dialogue, h]

theorem dialogue_cons_leave (h : r.enter input = (answer, r', .leave)) (inputs : List String) :
    r.dialogue (input :: inputs) = (r.promptText ++ answer, r', .leave) := by
  simp only [dialogue, h]

theorem dialogue_keeps {P : Repl → Prop}
    (hstep : ∀ {r} {input}, IsLine input → P r → P (r.enter input).2.1) {inputs : List String}
    (hlines : ∀ input ∈ inputs, IsLine input) (hr : P r) : P (r.dialogue inputs).2.1 := by
  induction inputs generalizing r with
  | nil => exact hr
  | cons input inputs ih =>
    have hnext := hstep (hlines input (by simp)) hr
    rcases henter : r.enter input with ⟨answer, r', _ | _⟩
    · rw [henter] at hnext
      rw [dialogue_cons_goOn henter]
      exact ih (fun i hi => hlines i (List.mem_cons_of_mem input hi)) hnext
    · rw [henter] at hnext
      rw [dialogue_cons_leave henter]
      exact hnext

end Dialogue

end Repl

namespace Transcript

def encode (input : String) : List UInt8 :=
  input.toByteArray.data.toList

theorem fromUTF8?_encode (input : String) :
    String.fromUTF8? ⟨(encode input).toArray⟩ = some input := by
  have hbytes : (⟨(encode input).toArray⟩ : ByteArray) = input.toByteArray := by
    simp [encode]
  rw [hbytes, String.fromUTF8?, dif_pos input.isValidUTF8]
  rfl

section Loop

-- unfolding the loop must not run into what a line does
attribute [local irreducible] Repl.enter

theorem ofLines_cons (r : Repl) (out : String) (l : List UInt8) (ls : List (List UInt8)) :
    ofLines r out (l :: ls) =
      match String.fromUTF8? ⟨l.toArray⟩ with
      | none => failed (out ++ r.promptText) badInput
      | some input =>
        let (answer, r', next) := r.enter input
        let out := out ++ r.promptText ++ answer
        match next with
        | .goOn => ofLines r' out ls
        | .leave => { out } :=
  rfl

theorem ofLines_dialogue (r : Repl) (out : String) (inputs : List String)
    (rest : List (List UInt8)) :
    ofLines r out (inputs.map encode ++ rest) =
      match r.dialogue inputs with
      | (said, r', .goOn) => ofLines r' (out ++ said) rest
      | (said, _, .leave) => { out := out ++ said } := by
  induction inputs generalizing r out with
  | nil => simp [Repl.dialogue]
  | cons input inputs ih =>
    rcases henter : r.enter input with ⟨answer, r', _ | _⟩
    · rw [List.map_cons, List.cons_append, ofLines_cons, Repl.dialogue_cons_goOn henter]
      simp only [fromUTF8?_encode, henter, ih]
      rcases r'.dialogue inputs with ⟨said, r₁, _ | _⟩ <;> simp only [String.append_assoc]
    · rw [List.map_cons, List.cons_append, ofLines_cons, Repl.dialogue_cons_leave henter]
      simp only [fromUTF8?_encode, henter, String.append_assoc]

end Loop

theorem feed_not_mem_dropLast {input l : List UInt8} (h : l ∈ splitLines input) :
    10 ∉ l.dropLast := by
  induction input generalizing l with
  | nil => cases h
  | cons b bs ih =>
    by_cases hb : b = 10
    · rw [splitLines, if_pos hb] at h
      rcases List.mem_cons.mp h with rfl | hl
      · simp
      · exact ih hl
    · rw [splitLines, if_neg hb] at h
      cases hs : splitLines bs with
      | nil =>
        rw [hs] at h
        rw [List.mem_singleton.mp h]
        simp
      | cons k ks =>
        rw [hs] at h
        rcases List.mem_cons.mp h with rfl | hl
        · have hk := ih (l := k) (by simp [hs])
          cases k with
          | nil => simp
          | cons d k => simpa [Ne.symm hb] using hk
        · exact ih (by simp [hs, hl])

theorem bytes_of_fromUTF8? {l : List UInt8} {input : String}
    (h : String.fromUTF8? ⟨l.toArray⟩ = some input) :
    l = input.toList.flatMap String.utf8EncodeChar := by
  have hbytes : input.toByteArray = ⟨l.toArray⟩ := by
    rw [String.fromUTF8?] at h
    split at h
    · exact (Option.some.inj h) ▸ rfl
    · cases h
  have hchars := String.utf8Encode_toList (b := input)
  rw [hbytes, List.utf8Encode] at hchars
  simpa using (congrArg (·.data.toList) hchars).symm

theorem isLine_of_mem_splitLines {bytes l : List UInt8} (hl : l ∈ splitLines bytes)
    {input : String} (h : String.fromUTF8? ⟨l.toArray⟩ = some input) : Repl.IsLine input := by
  intro hfeed
  apply feed_not_mem_dropLast hl
  rcases List.eq_nil_or_concat input.toList with hnil | ⟨cs, c, hcs⟩
  · simp [hnil] at hfeed
  · have hc : String.utf8EncodeChar c ≠ [] := by
      rw [← List.length_pos_iff, String.length_utf8EncodeChar]
      exact c.utf8Size_pos
    rw [hcs, List.concat_eq_append, List.dropLast_concat] at hfeed
    rw [bytes_of_fromUTF8? h, hcs, List.concat_eq_append, List.flatMap_append,
      List.flatMap_singleton, List.dropLast_append_of_ne_nil hc]
    exact List.mem_append_left _ (List.mem_flatMap.mpr ⟨'\n', hfeed, by decide⟩)

theorem ofLab_eq_dialogue {lab : Lab} {r : Repl} (hstart : Repl.start lab = .ok r)
    {bytes : List UInt8} {inputs : List String} (hbytes : splitLines bytes = inputs.map encode) :
    (∀ input ∈ inputs, Repl.IsLine input) ∧
      ofLab lab bytes =
        match r.dialogue inputs with
        | (said, r', .goOn) => { out := Repl.greeting lab ++ said ++ r'.promptText }
        | (said, _, .leave) => { out := Repl.greeting lab ++ said } := by
  constructor
  · intro input hinput
    have hmem : encode input ∈ splitLines bytes := hbytes ▸ List.mem_map_of_mem hinput
    exact isLine_of_mem_splitLines hmem (fromUTF8?_encode input)
  · have hlines := ofLines_dialogue r (Repl.greeting lab) inputs []
    rw [List.append_nil] at hlines
    rw [ofLab, hstart, hbytes]
    exact hlines

end Transcript

end RouterLab
