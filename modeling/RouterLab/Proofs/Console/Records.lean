import RouterLab.Proofs.Console.Bookkeeping
import RouterLab.Proofs.History

namespace RouterLab.Console

open Text

variable {c : Console} {s : Session}

theorem history?_turnTo (c : Console) (device other : String) :
    (c.turnTo device).history? other =
      (c.history? other).or (if other = device then some (.empty c.historyLimit) else none) := by
  cases h : c.position? device with
  | some i =>
    obtain ⟨hlt, hname, _⟩ := List.findIdx?_eq_some_iff_getElem.mp h
    by_cases ho : other = device
    · have hsome : (c.sessionOf? device).isSome = true := by
        rw [sessionOf?, List.find?_isSome]
        exact ⟨_, List.getElem_mem hlt, hname⟩
      obtain ⟨t, ht⟩ := Option.isSome_iff_exists.mp hsome
      have ht' : c.sessions.find? (·.device == device) = some t := ht
      simp [turnTo, h, history?, sessionOf?, ho, ht']
    · simp [turnTo, h, history?, sessionOf?, ho]
  | none =>
    by_cases ho : other = device
    · have hnone : c.sessions.find? (·.device == device) = none := by
        rw [List.find?_eq_none]
        intro t ht
        simpa using List.findIdx?_eq_none_iff.mp h t ht
      simp [turnTo, h, history?, sessionOf?, ho, List.find?_append, Session.new, hnone]
    · have hne : (device == other) = false := by simpa using Ne.symm ho
      simp [turnTo, h, history?, sessionOf?, ho, List.find?_append, Session.new, hne]

theorem history?_session (hc : c.seated.Nodup) (hs : c.session? = some s) :
    c.history? s.device = some s.history := by
  have hfind := Keyed.find?_of_mem Session.device hc (mem_sessions hs)
  simp [history?, sessionOf?, hfind]

theorem history?_withSession (hc : c.seated.Nodup) (hs : c.session? = some s) {s' : Session}
    (hdevice : s'.device = s.device) (device : String) :
    (c.withSession s').history? device =
      if device = s.device then some s'.history else c.history? device := by
  obtain ⟨i, hi, hget⟩ := session?_eq_some_iff.mp hs
  have hfind := Keyed.find?_set Session.device hc hget hdevice device
  have hsessions : (c.withSession s').sessions = c.sessions.set i s' := by simp [withSession, hi]
  rw [history?, sessionOf?, hsessions, hfind]
  split <;> rfl

def ForallEntries (P : String → Prop) (c : Console) : Prop :=
  ∀ s ∈ c.sessions, ∀ e ∈ s.history.entries, P e

theorem Call.mem_entries_session {k : Call} {e : String}
    (h : e ∈ (k.session s).history.entries) :
    e ∈ s.history.entries ∨ ∃ line, k = .submit line ∧ trim line ≠ "" ∧ e = trim line := by
  cases k with
  | submit line =>
    simp only [session, Session.record] at h
    split at h
    · exact .inl h
    · next hline =>
      rcases History.mem_of_mem_push h with hold | hnew
      · exact .inl hold
      · exact .inr ⟨line, rfl, hline, hnew⟩
  | _ => exact .inl h

theorem Change.forallEntries {P : String → Prop} {k : Call} {e : Console}
    (hchange : Change c k e) (hk : ∀ line, k = .submit line → trim line ≠ "" → P (trim line))
    (h : c.ForallEntries P) : e.ForallEntries P := by
  cases hchange with
  | unknown | detached => exact h
  | @turn device d =>
    intro s hs
    unfold turnTo at hs
    split at hs
    · exact h s hs
    · rcases List.mem_append.mp hs with hold | hnew
      · exact h s hold
      · rw [List.mem_singleton.mp hnew]
        intro e he
        cases he
  | @session k s _ hs =>
    obtain ⟨i, hi, _⟩ := session?_eq_some_iff.mp hs
    intro t ht
    simp only [withSession, withNetwork, hi] at ht
    rcases List.mem_or_eq_of_mem_set ht with hold | rfl
    · exact h t hold
    · intro e he
      rcases Call.mem_entries_session he with hold | ⟨line, rfl, hline, rfl⟩
      · exact h s (mem_sessions hs) e hold
      · exact hk line rfl hline

theorem ForallEntries.after {P : String → Prop} (h : c.ForallEntries P) {ks : List Call}
    (hks : ∀ line, .submit line ∈ ks → trim line ≠ "" → P (trim line)) :
    (c.after ks).ForallEntries P := by
  induction ks generalizing c with
  | nil => exact h
  | cons k ks ih =>
    have hnext := (change_call c k).forallEntries (fun line hk => hks line (by simp [hk])) h
    exact ih hnext fun line hmem => hks line (List.mem_cons_of_mem k hmem)

def Call.entry (device : String) (attached : Option String) : Call → List String
  | .submit line =>
    if attached = some device ∧ trim line ≠ "" then [trim line] else []
  | _ => []

/-- The trimmed lines, without the blank ones, that are submitted while the device is the one that
was attached to last.  This is told from the calls, and from the names that the network has. -/
def entered (net : Network) (device : String) : Option String → List Call → List String
  | _, [] => []
  | attached, k :: ks =>
    k.entry device attached ++ entered net device (k.target net attached) ks

theorem entered_congr {net net' : Network} (h : net'.names = net.names) (device : String)
    (attached : Option String) (ks : List Call) :
    entered net' device attached ks = entered net device attached ks := by
  induction ks generalizing attached with
  | nil => rfl
  | cons k ks ih => rw [entered, entered, target_congr h, ih]

theorem entered_call (c : Console) (device : String) (k : Call) (ks : List Call) :
    entered (c.call k).network device (c.call k).attached? ks =
      entered c.network device (k.target c.network c.attached?) ks := by
  have hchange := change_call c k
  rw [entered_congr hchange.names, hchange.attached?]

theorem Call.entry_of_ne {device : String} {attached : Option String}
    (h : attached ≠ some device) (k : Call) : k.entry device attached = [] := by
  cases k <;> simp [entry, h]

theorem Call.keeps_session {n : Nat} {ls : List String} (h : s.history.Keeps n ls) (k : Call) :
    (k.session s).history.Keeps n (ls ++ k.entry s.device (some s.device)) := by
  cases k with
  | submit line =>
    by_cases hblank : trim line = ""
    · simpa [session, Session.record, entry, hblank] using h
    · simpa [session, Session.record, entry, hblank] using h.push (trim line)
  | older => simpa [session, Session.older, entry] using h.older
  | newer => simpa [session, Session.newer, entry] using h.newer
  | attach | complete => simpa [session, entry] using h

theorem Change.keeps {k : Call} {e : Console} (hchange : Change c k e) (hc : c.seated.Nodup)
    {device : String} {h : History} {n : Nat} {ls : List String}
    (hh : c.history? device = some h) (hkeeps : h.Keeps n ls) :
    ∃ h', e.history? device = some h' ∧ h'.Keeps n (ls ++ k.entry device c.attached?) := by
  have hkept (hk : k.entry device c.attached? = []) :
      h.Keeps n (ls ++ k.entry device c.attached?) := by
    rwa [hk, List.append_nil]
  cases hchange with
  | unknown => exact ⟨h, hh, hkept rfl⟩
  | @turn other d =>
    have hold : (c.withNetwork (c.network.put d.toUser)).history? device = some h := hh
    rw [history?_turnTo, hold]
    exact ⟨h, rfl, hkept rfl⟩
  | detached _ hs => exact ⟨h, hh, hkept (Call.entry_of_ne (by simp [attached?_of_none hs]) k)⟩
  | @session k s _ hs =>
    have hlookup (net : Network) := history?_withSession (c := c.withNetwork net) hc hs
      (k.device_session s) device
    rw [hlookup, attached?_of_session? hs]
    by_cases hd : device = s.device
    · subst hd
      rw [history?_session hc hs] at hh
      cases hh
      exact ⟨_, if_pos rfl, k.keeps_session hkeeps⟩
    · rw [if_neg hd, Call.entry_of_ne (fun he => hd (Option.some.inj he).symm), List.append_nil]
      exact ⟨h, hh, hkeeps⟩

theorem keeps_after (hc : Sound c) {device : String} {h : History} {n : Nat} {ls : List String}
    (hh : c.history? device = some h) (hkeeps : h.Keeps n ls) (ks : List Call) :
    ∃ h', (c.after ks).history? device = some h' ∧
      h'.Keeps n (ls ++ entered c.network device c.attached? ks) := by
  induction ks generalizing c h ls with
  | nil => exact ⟨h, hh, by simpa [entered] using hkeeps⟩
  | cons k ks ih =>
    have hchange := change_call c k
    obtain ⟨h₁, hh₁, hkeeps₁⟩ := hchange.keeps hc.distinct hh hkeeps
    obtain ⟨h₂, hh₂, hkeeps₂⟩ := ih (hchange.sound hc) hh₁ hkeeps₁
    rw [List.append_assoc, entered_call] at hkeeps₂
    exact ⟨h₂, hh₂, hkeeps₂⟩

theorem attached?_ne_of_no_history (hc : c.seated.Nodup) {device : String}
    (h : c.history? device = none) : c.attached? ≠ some device := by
  intro hattached
  obtain ⟨s, hs, rfl⟩ := Option.map_eq_some_iff.mp hattached
  rw [history?_session hc hs] at h
  cases h

theorem Change.history?_of_none {k : Call} {e : Console} (hchange : Change c k e)
    (hc : c.seated.Nodup) {device : String} (h : c.history? device = none) :
    e.history? device =
      if k = .attach device ∧ c.network.has device = true then some (.empty c.historyLimit)
      else none := by
  cases hchange with
  | @unknown other hd =>
    rw [h, if_neg]
    rintro ⟨he, hhas⟩
    rw [← Call.attach.inj he, Network.has_of_none hd] at hhas
    cases hhas
  | @turn other d hd =>
    have hold : (c.withNetwork (c.network.put d.toUser)).history? device = none := h
    rw [history?_turnTo, hold, Option.none_or]
    by_cases ho : device = other
    · rw [if_pos ho, if_pos ⟨ho ▸ rfl, ho ▸ Network.has_of_some hd⟩]
      rfl
    · rw [if_neg ho, if_neg fun he => ho (Call.attach.inj he.1).symm]
  | detached hk => rw [h, if_neg fun he => hk device he.1]
  | @session k s hk hs =>
    have hne : device ≠ s.device := by
      rintro rfl
      exact attached?_ne_of_no_history hc h (attached?_of_session? hs)
    have hlookup (net : Network) := history?_withSession (c := c.withNetwork net) hc hs
      (k.device_session s) device
    rw [hlookup, if_neg hne, if_neg fun he => hk device he.1]
    exact h

theorem fresh_after (hc : Sound c) {device : String} (h : c.history? device = none)
    (ks : List Call) :
    (c.after ks).history? device = none ∧
        ¬(.attach device ∈ ks ∧ c.network.has device = true) ∨
      (.attach device ∈ ks ∧ c.network.has device = true) ∧
        ∃ h', (c.after ks).history? device = some h' ∧
          h'.Keeps (max 1 c.historyLimit) (entered c.network device c.attached? ks) := by
  induction ks generalizing c with
  | nil => exact .inl ⟨h, by simp⟩
  | cons k ks ih =>
    have hchange := change_call c k
    have hfirst := hchange.history?_of_none hc.distinct h
    have hentry := Call.entry_of_ne (attached?_ne_of_no_history hc.distinct h) k
    rw [entered, hentry, List.nil_append, after_cons, ← entered_call]
    -- the first attachment opens an empty history, and from there on `keeps_after` has it
    by_cases hk : k = .attach device ∧ c.network.has device = true
    · rw [if_pos hk] at hfirst
      obtain ⟨h', hh', hkeeps⟩ :=
        keeps_after (hchange.sound hc) hfirst (History.keeps_empty c.historyLimit) ks
      exact .inr ⟨⟨by simp [hk.1], hk.2⟩, h', hh', by simpa using hkeeps⟩
    · rw [if_neg hk] at hfirst
      have hrest := ih (hchange.sound hc) hfirst
      rw [Network.has_congr hchange.names, hchange.historyLimit] at hrest
      have hmem (hhas : c.network.has device = true) :
          .attach device ∈ k :: ks ↔ .attach device ∈ ks := by
        have hne : Call.attach device ≠ k := fun he => hk ⟨he.symm, hhas⟩
        simp [hne]
      rwa [and_congr_left_iff.mpr hmem]

theorem attach_ok_iff {device : String} :
    ((attach device).apply c).1 = .ok () ↔ c.network.has device = true := by
  cases hd : c.network.device? device with
  | none => simp [apply_attach_of_none hd, Network.has_of_none hd]
  | some d => simp [apply_attach_of_some hd, Network.has_of_some hd]

theorem attach_after_ok_iff (c : Console) (ks : List Call) (device : String) :
    ((attach device).apply (c.after ks)).1 = .ok () ↔ c.network.has device = true := by
  rw [attach_ok_iff, Network.has_congr (names_after c ks)]

theorem exists_attach_iff (c : Console) (ks : List Call) (device : String) :
    (∃ earlier later, ks = earlier ++ .attach device :: later ∧
        ((attach device).apply (c.after earlier)).1 = .ok ()) ↔
      .attach device ∈ ks ∧ c.network.has device = true := by
  simp only [attach_after_ok_iff, List.mem_iff_append]
  constructor
  · rintro ⟨earlier, later, hks, hd⟩
    exact ⟨⟨earlier, later, hks⟩, hd⟩
  · rintro ⟨⟨earlier, later, hks⟩, hd⟩
    exact ⟨earlier, later, hks, hd⟩

theorem histories_exact (net : Network) (sh : Shell) (limit : Nat) (ks : List Call) :
    (∀ device,
      (((new net sh limit).after ks).history? device = none ↔
        ¬∃ earlier later, ks = earlier ++ .attach device :: later ∧
          ((attach device).apply ((new net sh limit).after earlier)).1 = .ok ()) ∧
      (((attach device).apply ((new net sh limit).after ks)).1 = .ok () ↔
        net.has device = true) ∧
      ∀ h, ((new net sh limit).after ks).history? device = some h →
        h.entries = (entered net device none ks).rtake (max 1 limit) ∧
        h.cursor ≤ h.entries.length) ∧
    ∀ limit' ks', ks'.filter Call.drives = ks.filter Call.drives →
      (new net sh limit').answers ks' = (new net sh limit).answers ks ∧
      ((new net sh limit').after ks').network = ((new net sh limit).after ks).network := by
  have halike (limit' : Nat) : Alike (new net sh limit) (new net sh limit') := ⟨rfl, rfl, rfl⟩
  refine ⟨fun device => ?_, fun limit' _ hks => answers_eq_of_drives (halike limit') hks⟩
  have hfresh : (new net sh limit).history? device = none := rfl
  have hknown := attach_after_ok_iff (new net sh limit) ks device
  rw [exists_attach_iff]
  rcases fresh_after (sound_new net sh limit) hfresh ks with
    ⟨hnone, hnever⟩ | ⟨honce, h', hh', hkeeps⟩
  · rw [hnone]
    exact ⟨⟨fun _ => hnever, fun _ => rfl⟩, hknown, nofun⟩
  · rw [hh']
    refine ⟨⟨nofun, fun hnever => absurd honce hnever⟩, hknown, ?_⟩
    rintro h ⟨⟩
    exact ⟨hkeeps.entries, hkeeps.cursor⟩

theorem histories_exact_two_devices :
    let net : Network := { devices := [.new "R1" .router, .new "R2" .router] }
    let ks := [Call.attach "R1", .submit " show clock ", .submit "  ", .submit "bogus", .older,
      .attach "R2", .submit "enable", .complete "sh", .attach "R1", .attach "R9",
      .submit "enable"]
    ((new net {} 2).after ks).history? "R9" = none ∧
      (∃ h, ((new net {} 2).after ks).history? "R1" = some h ∧
        h.entries = ["bogus", "enable"] ∧ h.cursor ≤ 2) ∧
      ((attach "R9").apply ((new net {} 2).after ks)).1 ≠ .ok () ∧
      (new net {} 0).answers (ks.filter Call.drives) = (new net {} 2).answers ks := by
  intro net ks
  obtain ⟨hhistories, hanswers⟩ := histories_exact net {} 2 ks
  obtain ⟨hnone, hrefused, -⟩ := hhistories "R9"
  obtain ⟨hattached, -, hkept⟩ := hhistories "R1"
  rw [exists_attach_iff] at hnone hattached
  have hlines : entered net "R1" none ks = ["show clock", "bogus", "enable"] := by decide
  have hdrives : (ks.filter Call.drives).filter Call.drives = ks.filter Call.drives := by
    simp [List.filter_filter]
  refine ⟨hnone.mpr (by decide), ?_, hrefused.not.mpr (by decide), (hanswers 0 _ hdrives).1⟩
  have hsome : ((new net {} 2).after ks).history? "R1" ≠ none := hattached.not.mpr (by decide)
  obtain ⟨h, hh⟩ := Option.ne_none_iff_exists'.mp hsome
  obtain ⟨hentries, hcursor⟩ := hkept h hh
  rw [hlines] at hentries
  have hlast : h.entries = ["bogus", "enable"] := hentries
  rw [hlast] at hcursor
  exact ⟨h, hh, hlast, hcursor⟩

end RouterLab.Console
