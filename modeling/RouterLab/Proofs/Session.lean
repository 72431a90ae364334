import RouterLab.Proofs.Request
import RouterLab.Proofs.Shell.Run
import RouterLab.Session

namespace RouterLab

open Text

namespace Shell

variable (sh : Shell) (device line : String) (net : Network)

theorem run_congr {line line' : String} (h : words line = words line') :
    sh.run device line = sh.run device line' := by
  simp only [run, Request.ofLine_congr h]

theorem run_trim : sh.run device (trim line) = sh.run device line :=
  sh.run_congr device (words_trim line)

theorem reply_trim : sh.reply device (trim line) net = sh.reply device line net := by
  unfold reply
  rw [run_trim]

variable {line} in
theorem reply_blank (h : trim line = "") : sh.reply device line net = ("", net) := by
  rw [← reply_trim, h]
  rfl

theorem network_reply : (sh.reply device line net).2 = sh.step net (device, line) := by
  rw [step]
  rcases h : (sh.run device line).apply net with ⟨_ | _, net'⟩ <;> simp only [reply, h]

end Shell

namespace Session

def record (s : Session) (line : String) : Session :=
  if trim line = "" then s else { s with history := s.history.push (trim line) }

theorem device_record (s : Session) (line : String) : (s.record line).device = s.device := by
  unfold record
  split <;> rfl

def seek (s : Session) (n : Nat) : Session :=
  { s with history := { s.history with cursor := n } }

@[simp] theorem device_seek (s : Session) (n : Nat) : (s.seek n).device = s.device := rfl

@[simp] theorem cursor_seek (s : Session) (n : Nat) : (s.seek n).history.cursor = n := rfl

@[simp] theorem current_seek (s : Session) (n : Nat) :
    (s.seek n).history.current = s.history.entries[n]?.getD "" := rfl

@[simp] theorem seek_seek (s : Session) (m n : Nat) : (s.seek m).seek n = s.seek n := rfl

def back (s : Session) (k : Nat) : Session :=
  s.seek (s.history.cursor - k)

theorem older_eq_back (s : Session) : s.older = s.back 1 := rfl

theorem back_back (s : Session) (j k : Nat) : (s.back j).back k = s.back (j + k) := by
  simp only [back, cursor_seek, seek_seek, Nat.sub_sub]

theorem submit_eq (s : Session) (sh : Shell) (line : String) (net : Network) :
    s.submit sh line net =
      ((sh.reply s.device line net).1, s.record line, (sh.reply s.device line net).2) := by
  by_cases hblank : trim line = ""
  · simp [submit, record, hblank, sh.reply_blank s.device net hblank]
  · simp [submit, record, hblank, sh.reply_trim s.device line net]

theorem line_means_words (sh : Shell) :
    (∀ device line line' net, words line = words line' →
      (sh.run device line).apply net = (sh.run device line').apply net) ∧
    ∀ (s : Session) line net,
      (s.submit sh line net).1 = (sh.reply s.device line net).1 ∧
      (s.submit sh line net).2.2 = (sh.reply s.device line net).2 := by
  refine ⟨fun device line line' net h => by rw [sh.run_congr device h], fun s line net => ?_⟩
  rw [s.submit_eq sh line net]
  exact ⟨rfl, rfl⟩

theorem line_means_words_question :
    let d : Device := (Device.new "R1" .router).toPrivileged
    let net : Network := { devices := [d] }
    let s : Session := .new "R1" 2
    words "\u3000\t" = words "" ∧
    (({} : Shell).run "R9" "\u3000\t").apply net = (({} : Shell).run "R9" "").apply net ∧
    words "\u2003sh\u00a0\u00a0? " = words "sh ?" ∧
    (({} : Shell).run "R1" "\u2003sh\u00a0\u00a0? ").apply net =
      (({} : Shell).run "R1" "sh ?").apply net ∧
    words " ho\u2028Edge?\t" = words "ho Edge?" ∧
    (({} : Shell).run "R1" " ho\u2028Edge?\t").apply net =
      (({} : Shell).run "R1" "ho Edge?").apply net ∧
    (s.submit {} "\tho  Edge\u2029" net).1 = "" ∧
    (s.submit {} "\tho  Edge\u2029" net).2.2 = { devices := [d.rename "Edge"] } := by
  intro d net s
  obtain ⟨hsame, hsubmit⟩ := line_means_words {}
  have hblank : words "\u3000\t" = words "" := by decide
  have halone : words "\u2003sh\u00a0\u00a0? " = words "sh ?" := by decide
  have hattached : words " ho\u2028Edge?\t" = words "ho Edge?" := by decide
  have hreply : ({} : Shell).reply "R1" "\tho  Edge\u2029" net =
      ("", { devices := [d.rename "Edge"] }) := by decide
  obtain ⟨hanswer, hnet⟩ := hsubmit s "\tho  Edge\u2029" net
  exact ⟨hblank, hsame _ _ _ net hblank, halone, hsame _ _ _ net halone, hattached,
    hsame _ _ _ net hattached, hanswer.trans (congrArg Prod.fst hreply),
    hnet.trans (congrArg Prod.snd hreply)⟩

end Session

end RouterLab
