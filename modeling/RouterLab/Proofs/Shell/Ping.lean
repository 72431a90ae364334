import Mathlib.Data.List.Infix
import RouterLab.Proofs.Address.Written
import RouterLab.Proofs.Device.Table
import RouterLab.Proofs.Grammar.Narrowing
import RouterLab.Proofs.Lab.Build
import RouterLab.Proofs.Request
import RouterLab.Proofs.Shell.Run

/-!
A ping compares texts, but what it decides is a matter of addresses: only well-formed texts are
ever stored, and each address has one text.
-/

namespace RouterLab

open Text

def Interface.Numbered (i : Interface) : Prop :=
  ∀ s, i.address = some s → ∃ x, Address.ofString? s = some x

theorem Interface.numbered_new (name : String) : Interface.Numbered { name := name } :=
  nofun

theorem Device.numbered_edit {c : Device.Call}
    (hc : ∀ s, c = .assign s → ∃ x, Address.ofString? s = some x) {i : Interface}
    (h : i.Numbered) : (c.edit i).Numbered := by
  cases c with
  | assign s =>
    rintro t ⟨⟩
    exact hc s rfl
  | unassign => exact nofun
  | _ => exact h

namespace Network

variable {net : Network}

def tables (net : Network) : List (String × List Interface) :=
  net.devices.map fun d => (d.name, d.interfaces)

def Holds (net : Network) (caller : String) (x : Address) : Prop :=
  ∃ d ∈ net.devices, d.name ≠ caller ∧ ∃ i ∈ d.interfaces, i.up = true ∧
    ∃ s, i.address = some s ∧ Address.ofString? s = some x

theorem holds_iff_tables {caller : String} {x : Address} :
    net.Holds caller x ↔ ∃ t ∈ net.tables, t.1 ≠ caller ∧ ∃ i ∈ t.2, i.up = true ∧
      ∃ s, i.address = some s ∧ Address.ofString? s = some x := by
  simp [Holds, tables]

theorem holds_congr {net' : Network} (h : ∀ t, t ∈ net'.tables ↔ t ∈ net.tables)
    (caller : String) (x : Address) : net'.Holds caller x ↔ net.Holds caller x := by
  simp only [holds_iff_tables, h]

theorem reachable_iff {a : String} {x : Address} (ha : Address.ofString? a = some x)
    (caller : String) : net.reachable caller a = true ↔ net.Holds caller x := by
  simp only [reachable, List.any_eq_true, List.mem_filter, bne_iff_ne, Interface.answers_iff, Holds,
    and_assoc]
  constructor
  · rintro ⟨d, hd, hname, i, hi, hup, haddr⟩
    exact ⟨d, hd, hname, i, hi, hup, a, haddr, ha⟩
  · rintro ⟨d, hd, hname, i, hi, hup, s, haddr, hs⟩
    exact ⟨d, hd, hname, i, hi, hup, Address.text_unique hs ha ▸ haddr⟩

end Network

theorem PingReply.text_reply_ne (a b : String) : (reply a).text ≠ (unreachable b).text := by
  intro h
  have hfirst := congrArg (fun s => s.toList.head?) h
  simp [text] at hfirst

namespace Network

variable (net : Network) (caller a : String)

theorem ping_text_eq_reply_iff :
    (net.ping caller a).text = (PingReply.reply a).text ↔ net.reachable caller a = true := by
  cases h : net.reachable caller a with
  | true => simp [ping, h]
  | false => simpa [ping, h] using (PingReply.text_reply_ne a a).symm

theorem ping_text_eq_unreachable_iff :
    (net.ping caller a).text = (PingReply.unreachable a).text ↔
      ¬net.reachable caller a = true := by
  cases h : net.reachable caller a with
  | true => simpa [ping, h] using PingReply.text_reply_ne a a
  | false => simp [ping, h]

end Network

namespace Shell

variable {sh : Shell} {net : Network}

theorem ofString?_of_asks {args : List String} {m : Mode} {s : String}
    (h : sh.Asks args m (.assign s)) : ∃ x, Address.ofString? s = some x := by
  cases h with
  | ipAddress _ hx => exact ⟨_, hx⟩

theorem numbered_obey (line : String) {d : Device} (h : ∀ i ∈ d.interfaces, i.Numbered) :
    ∀ i ∈ (d.obey sh line).interfaces, i.Numbered := by
  rw [Device.obey]
  cases hc : sh.request? d.mode line with
  | none => exact h
  | some c =>
    refine Device.forall_call h (fun name _ => Interface.numbered_new name) fun i => ?_
    apply Device.numbered_edit
    rintro s rfl
    obtain ⟨_, _, _, _, _, _, hchange⟩ := request?_eq_some hc
    exact ofString?_of_asks (asks_of_change? hchange)

theorem resolve_ping {w : String} (hw : (Token.keyword "ping").accepts w = true) (a : String) :
    Grammar.standard.resolve .privileged [w, a] =
      .unique ⟨[.keyword "ping", .argument "ip"], .ping⟩ := by
  simp only [Token.accepts, Bool.and_eq_true, bne_iff_ne, List.isPrefixOf_iff_prefix,
    ← List.mem_inits] at hw
  obtain ⟨hne, hcut⟩ := hw
  have hcuts : "ping".toList.inits = ["", "p", "pi", "pin", "ping"].map String.toList := by decide
  rw [hcuts, List.mem_map_of_injective fun _ _ => String.toList_inj.mp] at hcut
  simp only [List.mem_cons, List.not_mem_nil, or_false] at hcut
  rcases hcut with rfl | rfl | rfl | rfl | rfl
  · exact absurd rfl hne
  all_goals rfl

theorem run_ping (hsh : sh.grammar = .standard) {caller line w a : String} {d : Device}
    {x : Address} (hd : net.device? caller = some d) (hmode : d.mode = .privileged)
    (hline : words line = [w, a]) (hw : (Token.keyword "ping").accepts w = true)
    (ha : Address.ofString? a = some x) :
    (sh.run caller line).apply net = (.ok (net.ping caller a).text, net) := by
  have hplain : PlainWord a := Address.plainWord_of_ofString? ha
  have hcommand : Request.ofLine line = .command [w, a] :=
    Request.ofLine_of_words hline rfl hplain
  have hres : sh.grammar.resolve .privileged [w, a] =
      .unique ⟨[.keyword "ping", .argument "ip"], .ping⟩ := by
    rw [hsh]
    exact resolve_ping hw a
  rw [run_command sh hd hcommand, hmode, command, hres]
  simp [Path.arguments, Path.slots, Except.map, carryOut, first, address, ha, Op.apply_bind]

theorem numbered_build (n : Lab.Node) : ∀ i ∈ n.build.interfaces, i.Numbered :=
  Device.forall_withInterfaces (fun _ _ => Interface.numbered_new _)
    (fun _ _ => Interface.numbered_new _) n.name

end Shell

theorem Lab.Reaches.numbered {lab : Lab} {net : Network} (h : lab.Reaches net) :
    ∀ d ∈ net.devices, ∀ i ∈ d.interfaces, i.Numbered :=
  h.forall_devices (P := fun d => ∀ i ∈ d.interfaces, i.Numbered) Shell.numbered_build
    fun _ line _ _ hd => Shell.numbered_obey line hd

namespace Shell

theorem ping_decides_address (sh : Shell) (hsh : sh.grammar = .standard) :
    (∀ (lab : Lab) (net : Network), lab.Reaches net → ∀ d ∈ net.devices, ∀ i ∈ d.interfaces,
      i.address = none ∨ ∃ s x, i.address = some s ∧ Address.ofString? s = some x) ∧
    ∀ (net : Network) caller d line w a x, net.device? caller = some d → d.mode = .privileged →
      words line = [w, a] → (Token.keyword "ping").accepts w = true →
      Address.ofString? a = some x →
      (((sh.run caller line).apply net).1 =
          .ok ("Reply from " ++ a ++ ": bytes=32 time=1ms TTL=64") ↔ net.Holds caller x) ∧
      (((sh.run caller line).apply net).1 = .ok ("Destination " ++ a ++ " unreachable") ↔
        ¬net.Holds caller x) ∧
      ∀ net' d', net'.device? caller = some d' → d'.mode = .privileged →
        (∀ t, t ∈ net'.tables ↔ t ∈ net.tables) →
        ((sh.run caller line).apply net').1 = ((sh.run caller line).apply net).1 := by
  refine ⟨fun lab net hnet d hd i hi => ?_, ?_⟩
  · cases ha : i.address with
    | none => exact .inl rfl
    | some s =>
      obtain ⟨x, hx⟩ := hnet.numbered d hd i hi s ha
      exact .inr ⟨s, x, rfl, hx⟩
  · intro net caller d line w a x hd hmode hline hw ha
    have hanswer {net : Network} {d : Device} (hd : net.device? caller = some d)
        (hmode : d.mode = .privileged) :
        ((sh.run caller line).apply net).1 = .ok (net.ping caller a).text :=
      congrArg Prod.fst (run_ping hsh hd hmode hline hw ha)
    rw [hanswer hd hmode, Except.ok.injEq, Except.ok.injEq, ← Network.reachable_iff ha]
    refine ⟨net.ping_text_eq_reply_iff caller a, net.ping_text_eq_unreachable_iff caller a, ?_⟩
    intro net' d' hd' hmode' htables
    have hreach : net'.reachable caller a = net.reachable caller a := by
      rw [Bool.eq_iff_iff, Network.reachable_iff ha, Network.reachable_iff ha,
        Network.holds_congr htables]
    rw [hanswer hd' hmode', Network.ping, Network.ping, hreach]

theorem ping_decides_address_second_router :
    let lab : Lab := { name := "pair", nodes := [{ name := "R1" }, { name := "R2" }] }
    let steps := [("R2", "en"), ("R2", "conf t"), ("R2", "int gig0/0"), ("R2", "ip add 10.0.0.2"),
      ("R2", "no shut")]
    let strict : Shell := { strict := true }
    let gig : Interface := { name := "Gig0/0", address := some "10.0.0.2", up := true }
    let r1 : Device := (Device.new "R1" .router).toPrivileged
    let r2 : Device := ⟨"R2", "R2", .router, [gig], .interfaceConfig 0⟩
    let net : Network := { devices := [r1, r2] }
    let moved : Network :=
      { devices := [⟨"R2", "Core", .switch, [gig], .user⟩, r1], links := [⟨"R1", "R2"⟩] }
    strict.step (({} : Shell).after steps lab.build) ("R1", "en") = net ∧ lab.Reaches net ∧
      r2 ∈ net.devices ∧ gig ∈ r2.interfaces ∧
      (gig.address = none ∨ ∃ s x, gig.address = some s ∧ Address.ofString? s = some x) ∧
      net.device? "R1" = some r1 ∧ r1.mode = .privileged ∧
      words " p  10.0.0.2" = ["p", "10.0.0.2"] ∧ (Token.keyword "ping").accepts "p" = true ∧
      Address.ofString? "10.0.0.2" = some ⟨10, 0, 0, 2⟩ ∧
      ((({} : Shell).run "R1" " p  10.0.0.2").apply net).1 =
        .ok ("Reply from " ++ "10.0.0.2" ++ ": bytes=32 time=1ms TTL=64") ∧
      moved.device? "R1" = some r1 ∧ (∀ t, t ∈ moved.tables ↔ t ∈ net.tables) ∧
      ((({} : Shell).run "R1" " p  10.0.0.2").apply moved).1 =
        ((({} : Shell).run "R1" " p  10.0.0.2").apply net).1 := by
  intro lab steps strict gig r1 r2 net moved
  have hnet : strict.step (({} : Shell).after steps lab.build) ("R1", "en") = net := by decide
  have hreaches : lab.Reaches net := by
    rw [← hnet]
    exact (Lab.Reaches.built.after rfl steps).line "R1" "en" rfl
  have hr2 : r2 ∈ net.devices := by simp [net]
  have hgig : gig ∈ r2.interfaces := by simp [r2]
  have hr1 : net.device? "R1" = some r1 := by decide
  have hline : words " p  10.0.0.2" = ["p", "10.0.0.2"] := by decide
  have hp : (Token.keyword "ping").accepts "p" = true := by decide
  have hx : Address.ofString? "10.0.0.2" = some ⟨10, 0, 0, 2⟩ := by decide
  have hmoved : moved.device? "R1" = some r1 := by decide
  have htables : ∀ t, t ∈ moved.tables ↔ t ∈ net.tables := by
    have hswap : moved.tables = net.tables.reverse := by decide
    intro t
    rw [hswap, List.mem_reverse]
  have hheld : net.Holds "R1" ⟨10, 0, 0, 2⟩ :=
    ⟨r2, hr2, by decide, gig, hgig, rfl, "10.0.0.2", rfl, hx⟩
  obtain ⟨hstored, hping⟩ := ping_decides_address {} rfl
  obtain ⟨hreply, -, hsame⟩ := hping net "R1" r1 " p  10.0.0.2" "p" "10.0.0.2" ⟨10, 0, 0, 2⟩ hr1
    rfl hline hp hx
  exact ⟨hnet, hreaches, hr2, hgig, hstored lab net hreaches r2 hr2 gig hgig, hr1, rfl, hline, hp,
    hx, hreply.mpr hheld, hmoved, htables, hsame moved r1 hmoved rfl htables⟩

end Shell

end RouterLab
