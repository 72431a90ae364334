import RouterLab.Console
import RouterLab.Proofs.Session

namespace RouterLab.Console

inductive Call where
  | attach (device : String)
  | submit (line : String)
  | complete (text : String)
  | older
  | newer
  deriving DecidableEq, Repr

def Call.op : Call → Op String
  | .attach device => do
    Console.attach device
    return ""
  | .submit line => Console.submit line
  | .complete text => Console.complete text
  | .older => Console.older
  | .newer => Console.newer

def call (c : Console) (k : Call) : Console :=
  (k.op.apply c).2

def after (c : Console) (ks : List Call) : Console :=
  ks.foldl call c

def withNetwork (c : Console) (net : Network) : Console :=
  { c with network := net }

def seated (c : Console) : List String :=
  c.sessions.map (·.device)

def attached? (c : Console) : Option String :=
  c.session?.map (·.device)

variable {c : Console} {s : Session}

theorem after_append (c : Console) (ks ks' : List Call) :
    c.after (ks ++ ks') = (c.after ks).after ks' :=
  List.foldl_append

theorem after_cons (c : Console) (k : Call) (ks : List Call) :
    c.after (k :: ks) = (c.call k).after ks := rfl

section Fields

variable (c) (device : String)

@[simp] theorem network_turnTo : (c.turnTo device).network = c.network := by
  unfold turnTo
  split <;> rfl

@[simp] theorem shell_turnTo : (c.turnTo device).shell = c.shell := by
  unfold turnTo
  split <;> rfl

@[simp] theorem historyLimit_turnTo : (c.turnTo device).historyLimit = c.historyLimit := by
  unfold turnTo
  split <;> rfl

variable (s)

@[simp] theorem network_withSession : (c.withSession s).network = c.network := by
  unfold withSession
  split <;> rfl

@[simp] theorem shell_withSession : (c.withSession s).shell = c.shell := by
  unfold withSession
  split <;> rfl

@[simp] theorem historyLimit_withSession :
    (c.withSession s).historyLimit = c.historyLimit := by
  unfold withSession
  split <;> rfl

@[simp] theorem attached_withSession : (c.withSession s).attached = c.attached := by
  unfold withSession
  split <;> rfl

end Fields

theorem session?_eq_some_iff :
    c.session? = some s ↔ ∃ i, c.attached = some i ∧ c.sessions[i]? = some s :=
  Option.bind_eq_some_iff

theorem mem_sessions (h : c.session? = some s) : s ∈ c.sessions := by
  obtain ⟨i, _, hget⟩ := session?_eq_some_iff.mp h
  exact List.mem_of_getElem? hget

theorem attached?_of_session? (hs : c.session? = some s) : c.attached? = some s.device := by
  rw [attached?, hs, Option.map_some]

theorem attached?_of_none (hs : c.session? = none) : c.attached? = none := by
  rw [attached?, hs, Option.map_none]

theorem withSession_self (h : c.session? = some s) : c.withSession s = c := by
  obtain ⟨i, hi, hs⟩ := session?_eq_some_iff.mp h
  obtain ⟨hlt, rfl⟩ := List.getElem?_eq_some_iff.mp hs
  cases c
  cases hi
  simp [withSession]

theorem session?_withSession (h : c.session? = some s) (s' : Session) :
    (c.withSession s').session? = some s' := by
  obtain ⟨i, hi, hs⟩ := session?_eq_some_iff.mp h
  obtain ⟨hlt, _⟩ := List.getElem?_eq_some_iff.mp hs
  simp [session?, withSession, hi, hlt]

theorem withSession_withSession (c : Console) (s s' : Session) :
    (c.withSession s).withSession s' = c.withSession s' := by
  cases h : c.attached <;> simp [withSession, h]

theorem withNetwork_withSession (c : Console) (s : Session) (net : Network) :
    (c.withSession s).withNetwork net = (c.withNetwork net).withSession s := by
  cases h : c.attached <;> simp [withSession, withNetwork, h]

theorem seated_withSession (h : c.session? = some s) {s' : Session}
    (hdevice : s'.device = s.device) : (c.withSession s').seated = c.seated := by
  obtain ⟨i, hi, hs⟩ := session?_eq_some_iff.mp h
  obtain ⟨hlt, rfl⟩ := List.getElem?_eq_some_iff.mp hs
  have hsame : (c.seated).set i s'.device = c.seated := by
    rw [hdevice]
    simp [seated, ← List.map_set]
  simpa [seated, withSession, hi, List.map_set] using hsame

theorem attached?_turnTo (c : Console) (device : String) :
    (c.turnTo device).attached? = some device := by
  cases h : c.position? device with
  | some i =>
    obtain ⟨hlt, hname, _⟩ := List.findIdx?_eq_some_iff_getElem.mp h
    have hdevice : c.sessions[i].device = device := by simpa using hname
    simp [attached?, turnTo, h, session?, hlt, hdevice]
  | none => simp [attached?, turnTo, h, session?, Session.new]

theorem mem_seated_iff {device : String} :
    device ∈ c.seated ↔ (c.position? device).isSome = true := by
  simp [seated, position?, List.findIdx?_isSome]

theorem sessions_turnTo (c : Console) (device : String) :
    (c.turnTo device).sessions =
      if device ∈ c.seated then c.sessions else c.sessions ++ [.new device c.historyLimit] := by
  cases h : c.position? device with
  | some i =>
    rw [if_pos (mem_seated_iff.mpr (by rw [h]; rfl))]
    simp [turnTo, h]
  | none =>
    rw [if_neg fun hmem => by simp [mem_seated_iff, h] at hmem]
    simp [turnTo, h]

theorem seated_turnTo (c : Console) (device : String) :
    (c.turnTo device).seated = if device ∈ c.seated then c.seated else c.seated ++ [device] := by
  rw [seated, sessions_turnTo]
  split
  · rfl
  · rw [List.map_append]
    rfl

theorem apply_attach_of_none {device : String} (h : c.network.device? device = none) :
    (attach device).apply c = (.error (.unknownDevice device), c) := by
  simp [attach, Op.apply_bind, h]

theorem apply_attach_of_some {device : String} {d : Device}
    (h : c.network.device? device = some d) :
    (attach device).apply c =
      (.ok (), (c.withNetwork (c.network.put d.toUser)).turnTo device) := by
  simp [attach, Op.apply_bind, h, withNetwork]

theorem apply_require_of_none {α : Type} (h : c.session? = none) (f : Session → Op α) :
    (require >>= f).apply c = (.error .notAttached, c) := by
  refine Op.apply_bind_error ?_ f
  simp [require, Op.apply_bind, h]

theorem apply_require_of_some {α : Type} (h : c.session? = some s) (f : Session → Op α) :
    (require >>= f).apply c = (f s).apply c := by
  refine Op.apply_bind_ok ?_ f
  simp [require, Op.apply_bind, h]

theorem apply_submit (h : c.session? = some s) (line : String) :
    (submit line).apply c =
      (.ok (c.shell.reply s.device line c.network).1,
        (c.withNetwork (c.shell.step c.network (s.device, line))).withSession (s.record line)) := by
  rw [submit, apply_require_of_some h, Op.apply_bind_ok (Op.apply_get c), s.submit_eq,
    ← c.shell.network_reply]
  rfl

theorem apply_complete (h : c.session? = some s) (text : String) :
    (complete text).apply c = (.ok (s.complete c.shell text c.network), c) := by
  rw [complete, apply_require_of_some h]
  rfl

theorem apply_older (h : c.session? = some s) :
    older.apply c = (.ok s.older.history.current, c.withSession s.older) := by
  rw [older, apply_require_of_some h]
  rfl

theorem apply_newer (h : c.session? = some s) :
    newer.apply c = (.ok s.newer.history.current, c.withSession s.newer) := by
  rw [newer, apply_require_of_some h]
  rfl

theorem apply_prompt (h : c.session? = some s) :
    prompt.apply c = (.ok (s.prompt c.network), c) := by
  rw [prompt, apply_require_of_some h]
  rfl

def Call.network (sh : Shell) (attached : Option String) (net : Network) : Call → Network
  | .attach device => net.update device Device.toUser
  | .submit line =>
    match attached with
    | some device => sh.step net (device, line)
    | none => net
  | _ => net

theorem Call.names_network (k : Call) (sh : Shell) (attached : Option String) (net : Network) :
    (k.network sh attached net).names = net.names := by
  cases k with
  | attach device => exact Network.names_update net device Device.toUser
  | submit line =>
    cases attached with
    | none => rfl
    | some device => exact sh.names_step net (device, line)
  | _ => rfl

def Call.session : Call → Session → Session
  | .submit line, s => s.record line
  | .older, s => s.older
  | .newer, s => s.newer
  | _, s => s

theorem Call.device_session (k : Call) (s : Session) : (k.session s).device = s.device := by
  cases k with
  | submit line => exact s.device_record line
  | _ => rfl

inductive Change (c : Console) : Call → Console → Prop
  | unknown {device : String} : c.network.device? device = none → Change c (.attach device) c
  | turn {device : String} {d : Device} : c.network.device? device = some d →
    Change c (.attach device) ((c.withNetwork (c.network.put d.toUser)).turnTo device)
  | detached {k : Call} : (∀ device, k ≠ .attach device) → c.session? = none → Change c k c
  | session {k : Call} {s : Session} : (∀ device, k ≠ .attach device) → c.session? = some s →
    Change c k
      ((c.withNetwork (k.network c.shell (some s.device) c.network)).withSession (k.session s))

theorem call_of_detached (h : c.session? = none) {k : Call} (hk : ∀ device, k ≠ .attach device) :
    c.call k = c := by
  cases k with
  | attach device => exact absurd rfl (hk device)
  | submit | complete | older | newer =>
    exact congrArg Prod.snd (apply_require_of_none h _)

theorem call_of_session? (h : c.session? = some s) {k : Call} (hk : ∀ device, k ≠ .attach device) :
    c.call k =
      (c.withNetwork (k.network c.shell (some s.device) c.network)).withSession (k.session s) := by
  cases k with
  | attach device => exact absurd rfl (hk device)
  | submit line => exact congrArg Prod.snd (apply_submit h line)
  | complete text =>
    exact (congrArg Prod.snd (apply_complete h text)).trans (withSession_self h).symm
  | older => exact congrArg Prod.snd (apply_older h)
  | newer => exact congrArg Prod.snd (apply_newer h)

theorem call_attach_of_some {device : String} {d : Device}
    (h : c.network.device? device = some d) :
    c.call (.attach device) = (c.withNetwork (c.network.put d.toUser)).turnTo device := by
  rw [call, Call.op, Op.apply_bind_ok (apply_attach_of_some h)]
  rfl

theorem change_call (c : Console) (k : Call) : Change c k (c.call k) := by
  by_cases hk : ∃ device, k = .attach device
  · obtain ⟨device, rfl⟩ := hk
    cases hd : c.network.device? device with
    | none =>
      rw [call, Call.op, Op.apply_bind_error (apply_attach_of_none hd)]
      exact .unknown hd
    | some d =>
      rw [call_attach_of_some hd]
      exact .turn hd
  · have hother : ∀ device, k ≠ .attach device := not_exists.mp hk
    cases hs : c.session? with
    | none =>
      rw [call_of_detached hs hother]
      exact .detached hother hs
    | some s =>
      rw [call_of_session? hs hother]
      exact .session hother hs

end RouterLab.Console
