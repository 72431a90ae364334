import RouterLab.Proofs.Shell.Effect

namespace RouterLab

namespace Op

variable {σ ε α β : Type} {P : ε → Prop} {x : Op σ ε α} {f : α → Op σ ε β}

def FailsOnly (P : ε → Prop) (x : Op σ ε α) : Prop :=
  ∀ s e, (x.apply s).1 = .error e → P e

theorem failsOnly_pure (a : α) : FailsOnly P (pure a : Op σ ε α) := by
  intro s e h
  cases h

theorem failsOnly_get : FailsOnly P (get : Op σ ε σ) := by
  intro s e h
  cases h

theorem failsOnly_modify (f : σ → σ) : FailsOnly P (modify f : Op σ ε Unit) := by
  intro s e h
  cases h

theorem failsOnly_fail {e : ε} (he : P e) : FailsOnly P (fail e : Op σ ε α) := by
  intro s e' h
  cases h
  exact he

theorem failsOnly_lift {r : Except ε α} (hr : ∀ e, r = .error e → P e) :
    FailsOnly P (liftM r : Op σ ε α) :=
  fun _ => hr

theorem FailsOnly.bind (hx : FailsOnly P x) (hf : ∀ a, FailsOnly P (f a)) :
    FailsOnly P (x >>= f) := by
  intro s e h
  rcases hr : x.apply s with ⟨r, t⟩
  cases r with
  | ok a =>
    rw [apply_bind_ok hr] at h
    exact hf a t e h
  | error e' =>
    rw [apply_bind_error hr] at h
    cases h
    exact hx s e (congrArg Prod.fst hr)

end Op

open Op

/-- The refusal is not for want of a device. -/
def CommandError.OnDevice (e : CommandError) : Prop :=
  ∀ name, e ≠ .noDevice name

namespace CommandError

theorem onDevice_noInterface (name : String) : OnDevice (.noInterface name) := by
  intro device h
  have hwhat := congrArg String.toList (invalidTarget.inj h)
  simp at hwhat

theorem onDevice_badAddress (text : String) : OnDevice (.badAddress text) := by
  intro device h
  have hwhat := congrArg String.toList (invalidTarget.inj h)
  simp at hwhat

end CommandError

namespace Device

theorem failsOnly_activeName : FailsOnly CommandError.OnDevice activeName := by
  intro d e h
  rw [apply_activeName] at h
  cases ha : d.active? with
  | none =>
    simp only [ha] at h
    cases h
    exact fun _ he => by cases he
  | some i =>
    simp only [ha] at h
    cases h

theorem failsOnly_modifyActive (f : Interface → Interface) :
    FailsOnly CommandError.OnDevice (modifyActive f) := by
  intro d e h
  rw [apply_modifyActive] at h
  cases ha : d.active?.isSome with
  | false =>
    simp only [ha] at h
    cases h
    exact fun _ he => by cases he
  | true =>
    simp only [ha] at h
    cases h

theorem failsOnly_configureExisting (name : String) :
    FailsOnly CommandError.OnDevice (configureExisting name) := by
  intro d e h
  rw [apply_configureExisting] at h
  cases hp : (d.position? name).isSome with
  | false =>
    simp only [hp] at h
    cases h
    exact CommandError.onDevice_noInterface name
  | true =>
    simp only [hp] at h
    cases h

theorem onDevice_showInterface {d : Device} {name : String} {e : CommandError}
    (h : d.showInterface name = .error e) : e.OnDevice := by
  unfold showInterface at h
  split at h
  · cases h
  · cases h
    exact CommandError.onDevice_noInterface name

end Device

namespace Shell

variable (sh : Shell) (args : List String)

theorem failsOnly_first {σ : Type} :
    FailsOnly CommandError.OnDevice (liftM (first args) : Op σ CommandError String) := by
  refine failsOnly_lift fun e h => ?_
  cases args with
  | nil =>
    cases h
    exact fun _ he => by cases he
  | cons w args => cases h

theorem failsOnly_address {σ : Type} (text : String) :
    FailsOnly CommandError.OnDevice (liftM (address text) : Op σ CommandError String) := by
  refine failsOnly_lift fun e h => ?_
  unfold address at h
  split at h
  · cases h
  · cases h
    exact CommandError.onDevice_badAddress text

theorem failsOnly_enterInterface (name : String) :
    FailsOnly CommandError.OnDevice (sh.enterInterface name) := by
  unfold enterInterface
  split
  · exact Device.failsOnly_configureExisting name
  · exact failsOnly_modify _

theorem failsOnly_perform (m : Mode) (a : Action) :
    FailsOnly CommandError.OnDevice (sh.perform args m a) := by
  have hfail : FailsOnly CommandError.OnDevice (fail .notImplemented : Device.Op String) :=
    failsOnly_fail fun _ he => by cases he
  have hmodify (f : Device → Device) (answer : String) :
      FailsOnly CommandError.OnDevice (do modify f; return answer : Device.Op String) :=
    (failsOnly_modify f).bind fun _ => failsOnly_pure answer
  have hrename : FailsOnly CommandError.OnDevice (do
      let name ← first args
      modify (·.rename name)
      return "" : Device.Op String) :=
    (failsOnly_first args).bind fun _ => hmodify _ _
  have hname (answer : String → String) : FailsOnly CommandError.OnDevice
      (Device.activeName >>= fun name => pure (answer name)) :=
    Device.failsOnly_activeName.bind fun _ => failsOnly_pure _
  have hactive (f : Interface → Interface) (answer : String → String) :
      FailsOnly CommandError.OnDevice (Device.modifyActive f >>= fun _ =>
        Device.activeName >>= fun name => pure (answer name)) :=
    (Device.failsOnly_modifyActive f).bind fun _ => hname answer
  cases m with
  | user =>
    cases a with
    | enable => exact hmodify _ _
    | _ => exact hfail
  | privileged =>
    cases a with
    | disable | exit | configureTerminal => exact hmodify _ _
    | showIpInterfaceBrief | showRunningConfig =>
      exact failsOnly_get.bind fun _ => failsOnly_pure _
    | showInterface =>
      exact failsOnly_get.bind fun _ => (failsOnly_first args).bind fun _ =>
        failsOnly_lift fun _ => Device.onDevice_showInterface
    | hostname => exact hrename
    | _ => exact hfail
  | globalConfig =>
    cases a with
    | hostname => exact hrename
    | interface =>
      exact (failsOnly_first args).bind fun name =>
        (sh.failsOnly_enterInterface name).bind fun _ => hname _
    | exit | endConfig => exact hmodify _ _
    | _ => exact hfail
  | interfaceConfig =>
    cases a with
    | ipAddress =>
      exact (failsOnly_first args).bind fun text => (failsOnly_address text).bind fun _ =>
        Device.failsOnly_activeName.bind fun _ =>
          (Device.failsOnly_modifyActive _).bind fun _ => failsOnly_pure _
    | noIpAddress => exact hactive _ fun name => "IP address removed from " ++ name
    | noShutdown => exact hactive _ fun name => name ++ " is now up"
    | shutdown => exact hactive _ fun name => name ++ " is now administratively down"
    | exit | endConfig => exact hmodify _ _
    | _ => exact hfail

theorem incomplete_of_slots {ts : List Token} {ws : List String} {e : CommandError}
    (h : Path.slots ts ws = .error e) : e = .incomplete := by
  fun_induction Path.slots ts ws with
  | case1 ws => cases h
  | case2 text ts ws ih => exact ih h
  | case3 name ts =>
    cases h
    rfl
  | case4 name ts w ws ih =>
    cases hs : Path.slots ts ws with
    | ok args =>
      rw [hs] at h
      cases h
    | error e' =>
      rw [hs] at h
      cases h
      exact ih hs

variable {sh args} {net : Network} {device line : String} {d : Device} {e : CommandError}

theorem onDevice_of_carryOut (hd : net.device? device = some d) {m : Mode} {a : Action}
    (h : ((sh.carryOut device m a args).apply net).1 = .error e) : e.OnDevice := by
  unfold carryOut at h
  split at h
  · have hping : FailsOnly CommandError.OnDevice (do
        let address ← address (← first args)
        return ((← get).ping device address).text : Network.Op String) :=
      (failsOnly_first args).bind fun text => (failsOnly_address text).bind fun _ =>
        failsOnly_get.bind fun _ => failsOnly_pure _
    exact hping net e h
  · rw [Network.apply_on_of_some hd] at h
    exact sh.failsOnly_perform args _ _ d e h

theorem onDevice_of_command (hd : net.device? device = some d) {m : Mode} {ws : List String}
    (h : ((sh.command device m ws).apply net).1 = .error e) : e.OnDevice := by
  unfold command at h
  split at h
  · cases h
    exact fun _ he => by cases he
  · cases h
    exact fun _ he => by cases he
  · next p _ =>
    rw [outcome_bind_lift] at h
    cases hargs : p.arguments ws with
    | ok args =>
      rw [hargs] at h
      exact onDevice_of_carryOut hd h
    | error e' =>
      rw [hargs] at h
      cases h
      rw [incomplete_of_slots hargs]
      exact fun _ he => by cases he

theorem onDevice_of_run (hd : net.device? device = some d)
    (h : ((sh.run device line).apply net).1 = .error e) : e.OnDevice := by
  have hmode := modeOf_of_some hd
  unfold run at h
  split at h
  · cases h
  · rw [apply_bind_ok hmode] at h
    cases h
  · rw [apply_bind_ok hmode] at h
    exact onDevice_of_command hd h

end Shell

end RouterLab
