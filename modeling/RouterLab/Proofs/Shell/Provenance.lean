import RouterLab.Proofs.Shell.Strictness

namespace RouterLab

namespace Shell

theorem interface_of_change? {sh : Shell} {args : List String} {m : Mode} {a : Action}
    {name : String} (h : sh.change? args m a = some (.configure name)) :
    m = .globalConfig ∧ a = .interface ∧ args.head? = some name ∧ sh.strict = false := by
  cases asks_of_change? h with
  | interface hname hlenient =>
    refine ⟨rfl, ?_, hname, hlenient⟩
    cases a with
    | interface => rfl
    | hostname =>
      obtain ⟨_, _, hrename⟩ := Option.map_eq_some_iff.mp h
      cases hrename
    | _ => cases h

end Shell

namespace Device

theorem mem_names_configure {d : Device} {name other : String}
    (h : name ∈ (d.configure other).interfaces.map (·.name)) :
    name ∈ d.interfaces.map (·.name) ∨ name = other ∧ d.position? other = none := by
  cases hp : d.position? other with
  | some p =>
    rw [configure_of_some hp] at h
    exact .inl h
  | none =>
    rw [configure_of_none hp, List.map_append] at h
    exact (List.mem_append.mp h).imp_right fun hnew => ⟨List.mem_singleton.mp hnew, rfl⟩

theorem asked_of_mem_obey {sh : Shell} {d : Device} {line name : String}
    (h : name ∈ (d.obey sh line).interfaces.map (·.name)) :
    name ∈ d.interfaces.map (·.name) ∨
      sh.strict = false ∧ sh.grammar.AsksUnknown d line name := by
  rw [obey] at h
  cases hc : sh.request? d.mode line with
  | none =>
    rw [hc] at h
    exact .inl h
  | some c =>
    rw [hc] at h
    by_cases hother : ∀ n, c ≠ .configure n
    · rw [callIf, names_call hother] at h
      exact .inl h
    · obtain ⟨n, hn⟩ := not_forall_not.mp hother
      subst hn
      obtain ⟨ws, p, args, hline, hres, hargs, hchange⟩ := Shell.request?_eq_some hc
      obtain ⟨hmode, haction, hhead, hlenient⟩ := Shell.interface_of_change? hchange
      rcases mem_names_configure h with hold | ⟨rfl, hnew⟩
      · exact .inl hold
      · obtain ⟨rest, rfl⟩ := List.head?_eq_some_iff.mp hhead
        exact .inr ⟨hlenient, hmode, ⟨ws, p, rest, hline, hmode ▸ hres, haction, hargs⟩,
          position?_eq_none_iff.mp hnew⟩

end Device

namespace Shell

variable {sh : Shell} {net : Network} {device name : String} {d e : Device}

/-- Some line of the run asked the device for an interface of a name that it did not have. -/
def Asked (sh : Shell) (net : Network) (steps : List (String × String)) (device name : String) :
    Prop :=
  ∃ earlier line later f, steps = earlier ++ (device, line) :: later ∧
    (sh.after earlier net).device? device = some f ∧ sh.grammar.AsksUnknown f line name

theorem Asked.cons {s : String × String} {steps : List (String × String)}
    (h : sh.Asked (sh.step net s) steps device name) : sh.Asked net (s :: steps) device name := by
  obtain ⟨earlier, line, later, f, rfl, hf, hasks⟩ := h
  rw [← after_cons] at hf
  exact ⟨s :: earlier, line, later, f, rfl, hf, hasks⟩

theorem asked_of_mem_after {steps : List (String × String)} (hd : net.device? device = some d)
    (he : (sh.after steps net).device? device = some e)
    (h : name ∈ e.interfaces.map (·.name)) :
    name ∈ d.interfaces.map (·.name) ∨ sh.strict = false ∧ sh.Asked net steps device name := by
  induction steps generalizing net d with
  | nil =>
    obtain rfl : d = e := Option.some.inj (hd.symm.trans he)
    exact .inl h
  | cons s steps ih =>
    rw [after_cons] at he
    have hnext := device?_step sh net s device
    by_cases hs : device = s.1
    · rw [if_pos hs, hd] at hnext
      rcases ih hnext he with hmem | ⟨hlenient, hasked⟩
      · refine (Device.asked_of_mem_obey hmem).imp_right fun ⟨hlenient, hasks⟩ => ⟨hlenient, ?_⟩
        exact ⟨[], s.2, steps, d, by rw [hs]; rfl, hd, hasks⟩
      · exact .inr ⟨hlenient, hasked.cons⟩
    · rw [if_neg hs, hd] at hnext
      exact (ih hnext he).imp_right fun ⟨hlenient, hasked⟩ => ⟨hlenient, hasked.cons⟩

end Shell

end RouterLab
