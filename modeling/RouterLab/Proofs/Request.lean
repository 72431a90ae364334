import RouterLab.Proofs.Text.Words
import RouterLab.Shell

namespace RouterLab.Request

open Text

def ofWords (ws : List String) : Request :=
  match ws.getLast? with
  | none => .blank
  | some w =>
    if w.toList.getLast? = some '?' then
      .help (ws.dropLast ++ words (String.ofList w.toList.dropLast))
    else .command ws

theorem ofLine_of_trim_nil {line : String} (h : (trim line).toList = []) :
    ofLine line = .blank := by
  simp [ofLine, h]

theorem ofLine_of_trim_concat {line : String} {cs : List Char} {q : Char}
    (h : (trim line).toList = cs ++ [q]) :
    ofLine line =
      if q = '?' then .help (words (String.ofList cs)) else .command (words line) := by
  simp only [ofLine, h, List.getLast?_append, List.getLast?_singleton, Option.some_or,
    List.dropLast_concat]
  by_cases hq : q = '?'
  · simp [hq]
  · simp [hq]

theorem ofLine_of_plain {line : String} (hne : trim line ≠ "")
    (hline : (trim line).toList.getLast? ≠ some '?') : ofLine line = .command (words line) := by
  rcases List.eq_nil_or_concat (trim line).toList with hnil | ⟨cs, q, hcat⟩
  · exact absurd (String.toList_inj.mp hnil) hne
  · rw [List.concat_eq_append] at hcat
    have hq : q ≠ '?' := fun hq => hline (by simp [hcat, hq])
    rw [ofLine_of_trim_concat hcat, if_neg hq]

theorem ofLine_eq_ofWords (line : String) : ofLine line = ofWords (words line) := by
  rcases List.eq_nil_or_concat (trim line).toList with hnil | ⟨cs, q, hcat⟩
  · have hw : words line = [] := by
      rw [← words_trim, words, hnil]
      rfl
    rw [ofLine_of_trim_nil hnil, hw]
    rfl
  · rw [List.concat_eq_append] at hcat
    have hlast : (dropBlankEnd (dropBlank line.toList)).getLast? = some q := by
      simpa [trim] using congrArg List.getLast? hcat
    have hq := isBlank_getLast_dropBlankEnd hlast
    obtain ⟨ws, w, hall, hpre⟩ := splitBlank_concat cs hq
    have hline : words line = ws.map String.ofList ++ [String.ofList (w ++ [q])] := by
      rw [← words_trim, words, hcat, hall, List.map_append]
      rfl
    have hcs : words (String.ofList cs) =
        ws.map String.ofList ++ words (String.ofList w) := by
      rw [words, String.toList_ofList, hpre, List.map_append, words, String.toList_ofList]
    rw [ofLine_of_trim_concat hcat, hline, hcs]
    simp [ofWords]

theorem ofLine_congr {line line' : String} (h : words line = words line') :
    ofLine line = ofLine line' := by
  rw [ofLine_eq_ofWords, ofLine_eq_ofWords, h]

theorem ofWords_plain {ws : List String} {w : String} (hlast : ws.getLast? = some w)
    (hw : PlainWord w) : ofWords ws = .command ws := by
  simp [ofWords, hlast, hw.asks_nothing]

theorem ofWords_eq_command {ws vs : List String} (h : ofWords ws = .command vs) :
    ws = vs ∧ ∃ w, vs.getLast? = some w ∧ w.toList.getLast? ≠ some '?' := by
  cases hlast : ws.getLast? with
  | none => simp [ofWords, hlast] at h
  | some w =>
    by_cases hw : w.toList.getLast? = some '?'
    · simp [ofWords, hlast, hw] at h
    · have hvs : ws = vs := by simpa [ofWords, hlast, hw] using h
      exact ⟨hvs, w, hvs ▸ hlast, hw⟩

theorem ofLine_eq_command {line : String} {ws : List String} (h : ofLine line = .command ws) :
    ws = words line ∧ ∃ w, ws.getLast? = some w ∧ PlainWord w := by
  rw [ofLine_eq_ofWords] at h
  obtain ⟨rfl, w, hlast, hw⟩ := ofWords_eq_command h
  exact ⟨rfl, w, hlast, word_of_mem_words (List.mem_of_getLast? hlast), hw⟩

theorem ofLine_of_words {line w : String} {ws : List String} (hwords : words line = ws)
    (hlast : ws.getLast? = some w) (hw : PlainWord w) : ofLine line = .command ws := by
  rw [ofLine_eq_ofWords, hwords, ofWords_plain hlast hw]

theorem ofLine_append_word {s t w : String} {b : Char} {ws : List String}
    (hs : s = t ++ String.singleton b) (hb : isBlank b = true) (ht : words t = ws)
    (hw : PlainWord w) : ofLine (s ++ w) = .command (ws ++ [w]) := by
  have hwords : words (s ++ w) = ws ++ [w] := by
    rw [hs, words_append_blank t w hb, ht, words_eq_of_word hw.toWord]
  exact ofLine_of_words hwords List.getLast?_concat hw

end RouterLab.Request
