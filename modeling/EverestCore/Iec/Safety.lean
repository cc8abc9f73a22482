import EverestCore.Iec.StateMachine
import EverestCore.Lib.Machine

/-!
# Contactor and lock safety of the IEC state machine

Operations are processed one at a time, each with the run of the state machine
it asks for. What a run does to the contactor is said once per `switch` case.
-/

namespace EverestCore.Iec

open EverestCore.Lib State

/-! ## What the BSP was last told -/

/-- The last command to the contactor. -/
def lastPower : List Call → Bool
  | [] => false
  | call :: rest =>
    match call.out with
    | .allowPowerOn value _ => value
    | _ => lastPower rest

/-- The last signal to the lock. -/
def lastLock : List Call → Bool
  | [] => false
  | call :: rest =>
    match call.out with
    | .signalLock => true
    | .signalUnlock => false
    | _ => lastLock rest

def State.power (s : State) : Bool := lastPower s.calls

def State.lockSignal (s : State) : Bool := lastLock s.calls

/-- The CP state is one that may draw power: C, or D with ventilation. -/
def PowerState (cpState : RawCpState) (hasVentilation : Bool) : Prop :=
  cpState = .c ∨ (cpState = .d ∧ hasVentilation = true)

/-- A contactor-on command is justified by the inputs it was issued under. -/
def Call.Justified (call : Call) : Prop :=
  ∀ reason, call.out = .allowPowerOn true reason →
    PowerState call.cpState call.hasVentilation ∧ call.pwmRunning = true ∧
      call.powerOnAllowed = true

/-- Every contactor-on command so far was justified. -/
def State.Justified (s : State) : Prop := ∀ call ∈ s.calls, call.Justified

variable {s : State}

theorem State.Justified.emit {out : Out} (hs : s.Justified)
    (hout : ∀ reason, out ≠ .allowPowerOn true reason) : (s.emit out).Justified :=
  List.forall_mem_cons.mpr ⟨fun reason heq => absurd heq (hout reason), hs⟩

theorem State.Justified.powerOff (hs : s.Justified) : (s.callAllowPowerOnBsp false).Justified :=
  List.forall_mem_cons.mpr ⟨fun reason heq => by simp at heq, hs⟩

theorem State.Justified.checkConnectorLock (hs : s.Justified) : s.checkConnectorLock.Justified := by
  unfold State.checkConnectorLock
  simp only
  split
  · exact State.Justified.emit hs (by simp)
  · split
    · exact State.Justified.emit hs (by simp)
    · exact hs

@[simp] theorem State.power_callAllowPowerOnBsp (s : State) (value : Bool) :
    (s.callAllowPowerOnBsp value).power = value := rfl

@[simp] theorem State.power_checkConnectorLock (s : State) :
    s.checkConnectorLock.power = s.power := by
  unfold checkConnectorLock
  simp only
  split
  · rfl
  · split <;> rfl

theorem State.checkConnectorLock_lock (hs : s.isLocked = s.lockSignal) :
    s.checkConnectorLock.isLocked = s.checkConnectorLock.lockSignal ∧
      (s.checkConnectorLock.relaisOn = true → s.checkConnectorLock.isLocked = true) := by
  unfold checkConnectorLock
  simp only
  split
  · exact ⟨rfl, fun _ => rfl⟩
  · rename_i hlock
    split
    · rename_i hunlock
      refine ⟨rfl, fun hrelais => ?_⟩
      simp only [emit] at hrelais
      simp [hrelais] at hunlock
    · refine ⟨hs, fun hrelais => ?_⟩
      simpa [hrelais] using hlock

/-! ## The cases of the switch -/

namespace Run

/-- What every case of the switch leaves alone. -/
structure Keeps (s s' : State) : Prop where
  cpState : s'.cpState = s.cpState
  lastCpState : s'.lastCpState = s.lastCpState
  lastPwmRunning : s'.lastPwmRunning = s.lastPwmRunning
  hasVentilation : s'.hasVentilation = s.hasVentilation
  relaisOn : s'.relaisOn = s.relaisOn
  isLocked : s'.isLocked = s.isLocked
  lockSignal : s'.lockSignal = s.lockSignal
  timeoutStateC1 : s'.timeoutStateC1 = s.timeoutStateC1

/-- ... and every power-on command it gives is justified. -/
structure Effect (s s' : State) : Prop extends Keeps s s' where
  justified : s.Justified → s'.Justified

/-- State C also leaves the PWM alone. -/
structure EffectC (s s' : State) : Prop extends Effect s s' where
  pwmRunning : s'.pwmRunning = s.pwmRunning

theorem Effect.trans {s s' s'' : State} (h : Effect s s') (h' : Effect s' s'') : Effect s s'' where
  cpState := h'.cpState.trans h.cpState
  lastCpState := h'.lastCpState.trans h.lastCpState
  lastPwmRunning := h'.lastPwmRunning.trans h.lastPwmRunning
  hasVentilation := h'.hasVentilation.trans h.hasVentilation
  relaisOn := h'.relaisOn.trans h.relaisOn
  isLocked := h'.isLocked.trans h.isLocked
  lockSignal := h'.lockSignal.trans h.lockSignal
  timeoutStateC1 := h'.timeoutStateC1.trans h.timeoutStateC1
  justified := h'.justified ∘ h.justified

theorem EffectC.trans {s s' s'' : State} (h : EffectC s s') (h' : EffectC s' s'') : EffectC s s'' :=
  ⟨h.toEffect.trans h'.toEffect, h'.pwmRunning.trans h.pwmRunning⟩

theorem EffectC.powerState {s s' : State} (h : EffectC s s')
    (hcp : PowerState s.cpState s.hasVentilation) : PowerState s'.cpState s'.hasVentilation := by
  rw [h.cpState, h.hasVentilation]
  exact hcp

theorem effectC_powerOff (r : Run) : EffectC r.s (r.callAllowPowerOnBsp false).s :=
  ⟨⟨by constructor <;> rfl, State.Justified.powerOff⟩, rfl⟩

theorem effectC_powerOn {r : Run} (hcp : PowerState r.s.cpState r.s.hasVentilation)
    (hpwm : r.s.pwmRunning = true) (hallowed : r.s.powerOnAllowed = true) :
    EffectC r.s (r.callAllowPowerOnBsp true).s := by
  refine ⟨⟨by constructor <;> rfl, fun hr => List.forall_mem_cons.mpr ⟨?_, hr⟩⟩, rfl⟩
  exact fun _ _ => ⟨hcp, hpwm, hallowed⟩

theorem effect_pwmOff (r : Run) : Effect r.s r.pwmOff.s :=
  ⟨by constructor <;> rfl, fun hr =>
    State.Justified.emit (s := { r.s with pwmRunning := false }) hr (by simp)⟩

theorem effectC_of_calls {s s' : State} (h : Keeps s s') (hcalls : s'.calls = s.calls)
    (hpwm : s'.pwmRunning = s.pwmRunning) : EffectC s s' :=
  ⟨⟨h, fun hr call hmem => hr call (hcalls ▸ hmem)⟩, hpwm⟩

variable (r : Run)

theorem lockB_effect : EffectC r.s r.lockB.s := by
  unfold lockB on
  simp only
  split <;> exact effectC_of_calls (by constructor <;> rfl) rfl rfl

theorem stopPowerB_effect : EffectC r.s r.stopPowerB.s := by
  unfold stopPowerB
  split
  · exact effectC_powerOff r
  · exact effectC_of_calls (by constructor <;> rfl) rfl rfl

theorem plugInB_effect : EffectC r.s r.plugInB.s := by
  unfold plugInB
  split <;> exact effectC_of_calls (by constructor <;> rfl) rfl rfl

theorem caseB_effect : EffectC r.s r.caseB.s := by
  have h := ((lockB_effect r).trans (stopPowerB_effect _)).trans (plugInB_effect _)
  unfold caseB
  simp only
  split <;> exact h

theorem plugInC_effect : EffectC r.s r.plugInC.s := by
  unfold plugInC
  split
  · exact effectC_of_calls (by constructor <;> rfl) rfl rfl
  · split <;> exact effectC_of_calls (by constructor <;> rfl) rfl rfl

theorem pwmStopsC_effect : EffectC r.s r.pwmStopsC.s := by
  unfold pwmStopsC
  split <;> exact effectC_of_calls (by constructor <;> rfl) rfl rfl

theorem timeoutC_effect : EffectC r.s r.timeoutC.s := by
  unfold timeoutC
  split
  · exact effectC_powerOff r
  · exact effectC_of_calls (by constructor <;> rfl) rfl rfl

theorem connectorLock_effect : EffectC r.s (r.on connectorLock).s :=
  effectC_of_calls (by constructor <;> rfl) rfl rfl

variable {r}

variable (hcp : PowerState r.s.cpState r.s.hasVentilation)

include hcp

theorem pwmResumesC_effect : EffectC r.s r.pwmResumesC.s := by
  unfold pwmResumesC
  split
  · rename_i hpwm
    simp only [Bool.and_eq_true] at hpwm
    split
    · rename_i hallowed
      exact effectC_powerOn hcp hpwm.1 hallowed
    · exact effectC_of_calls (by constructor <;> rfl) rfl rfl
  · exact effectC_of_calls (by constructor <;> rfl) rfl rfl

theorem switchOnC_effect : EffectC r.s r.switchOnC.s := by
  unfold switchOnC
  split
  · rename_i hpwm
    simp only
    split
    · rename_i hallowed
      simp only [Bool.and_eq_true] at hallowed
      have hon := effectC_powerOn hcp hpwm hallowed.1
      split <;> exact hon
    · split <;> exact effectC_of_calls (by constructor <;> rfl) rfl rfl
  · exact effectC_of_calls (by constructor <;> rfl) rfl rfl

theorem caseC_effect : EffectC r.s r.caseC.s := by
  have hstops := ((connectorLock_effect r).trans (plugInC_effect _)).trans (pwmStopsC_effect _)
  have htimeout := (hstops.trans (pwmResumesC_effect (hstops.powerState hcp))).trans
    (timeoutC_effect _)
  exact htimeout.trans (switchOnC_effect (htimeout.powerState hcp))

omit hcp

theorem caseD_effect (hcp : r.s.cpState = .d) : EffectC r.s r.caseD.s := by
  unfold caseD
  simp only
  split
  · exact (connectorLock_effect r).trans (effectC_powerOff _)
  · rename_i hvent
    exact (connectorLock_effect r).trans (caseC_effect (.inr ⟨hcp, by simpa using hvent⟩))

variable (r)

theorem switchCp_effect : Effect r.s r.switchCp.s := by
  unfold switchCp
  split
  · unfold caseDisabled
    split
    · have hoff := (effect_pwmOff r).trans (effectC_powerOff r.pwmOff).toEffect
      exact ⟨by constructor <;> rfl, hoff.justified⟩
    · exact ⟨by constructor <;> rfl, id⟩
  · unfold caseA
    simp only
    split
    · have hoff := (effect_pwmOff r).trans (effectC_powerOff r.pwmOff).toEffect
      split <;> exact ⟨by constructor <;> rfl, hoff.justified⟩
    · split <;> exact ⟨by constructor <;> rfl, id⟩
  · exact (caseB_effect r).toEffect
  · rename_i hcp
    exact (caseC_effect (.inl hcp)).toEffect
  · rename_i hcp
    exact (caseD_effect hcp).toEffect
  · unfold caseE
    simp only
    split
    · have hoff := (effectC_powerOff r).toEffect.trans (effect_pwmOff _)
      split <;> exact ⟨by constructor <;> rfl, hoff.justified⟩
    · exact ⟨by constructor <;> rfl, id⟩
  · unfold caseF
    simp only
    split <;> split <;> split <;> exact ⟨by constructor <;> rfl, (effectC_powerOff r).justified⟩

variable {r}

/-! ### The contactor command of a run -/

theorem plugInC_same (r : Run) :
    r.plugInC.s.power = r.s.power ∧ r.plugInC.timerStateC1 = r.timerStateC1 := by
  unfold plugInC
  split
  · exact ⟨rfl, rfl⟩
  · split <;> exact ⟨rfl, rfl⟩

theorem pwmStopsC_without_pwm (hpwm : r.s.pwmRunning = false) :
    r.pwmStopsC.s = r.s ∧
      r.pwmStopsC.timerStateC1 = if r.s.lastPwmRunning then .start else r.timerStateC1 := by
  unfold pwmStopsC
  cases hlast : r.s.lastPwmRunning <;> simp [hpwm]

theorem pwmResumesC_without_pwm (hpwm : r.s.pwmRunning = false) : r.pwmResumesC = r := by
  unfold pwmResumesC
  rw [if_neg (by simp [hpwm])]

theorem switchOnC_without_pwm (hpwm : r.s.pwmRunning = false) : r.switchOnC = r := by
  unfold switchOnC
  rw [if_neg (by simp [hpwm])]

theorem timeoutC_same (r : Run) :
    (r.timeoutC.s.power = true → r.s.power = true) ∧
      r.timeoutC.timerStateC1 = r.timerStateC1 := by
  unfold timeoutC
  split
  · exact ⟨fun h => absurd h (by simp [callAllowPowerOnBsp, on]), rfl⟩
  · exact ⟨id, rfl⟩

/-- Without PWM, state C issues no power-on command; it starts the timer when the
PWM has just stopped and leaves it alone otherwise. -/
theorem caseC_without_pwm (hpwm : r.s.pwmRunning = false) :
    (r.caseC.s.power = true → r.s.power = true) ∧
      r.caseC.timerStateC1 = if r.s.lastPwmRunning then .start else r.timerStateC1 := by
  obtain ⟨hpower₁, htimer₁⟩ := plugInC_same (r.on connectorLock)
  have hk := (connectorLock_effect r).trans (plugInC_effect _)
  generalize hq : (r.on connectorLock).plugInC = q at hpower₁ htimer₁ hk
  have hqpwm : q.s.pwmRunning = false := hk.pwmRunning.trans hpwm
  obtain ⟨hs₂, htimer₂⟩ := pwmStopsC_without_pwm hqpwm
  have hpwm₂ : q.pwmStopsC.s.pwmRunning = false := by rw [hs₂, hqpwm]
  have hpwm₃ := (timeoutC_effect q.pwmStopsC).pwmRunning.trans hpwm₂
  obtain ⟨hpower₃, htimer₃⟩ := timeoutC_same q.pwmStopsC
  have hcase : r.caseC = q.pwmStopsC.timeoutC := by
    unfold caseC
    rw [hq, pwmResumesC_without_pwm hpwm₂, switchOnC_without_pwm hpwm₃]
  rw [hcase]
  refine ⟨fun h => ?_, ?_⟩
  · have h₂ := hpower₃ h
    rw [hs₂] at h₂
    exact hpower₁.symm.trans h₂
  · rw [htimer₃, htimer₂, hk.lastPwmRunning, htimer₁]
    rfl

/-- What a run of the switch may leave the contactor at. `on` is the state it was
commanded on in before; a power-on command is only left standing in a power
state, and without PWM only if it stood before and the timer keeps it short. -/
theorem switchCp_power (hbefore : r.s.power = true → r.s.lastCpState = .c ∨ r.s.lastCpState = .d)
    (hpower : r.switchCp.s.power = true) :
    PowerState r.s.cpState r.s.hasVentilation ∧
      (r.switchCp.s.pwmRunning = false →
        r.s.power = true ∧
          r.switchCp.timerStateC1 = if r.s.lastPwmRunning then .start else r.timerStateC1) := by
  have hoff : ∀ q : Run, ¬ (q.callAllowPowerOnBsp false).s.power = true := by
    intro q
    simp [callAllowPowerOnBsp, on]
  unfold switchCp at hpower ⊢
  cases hcp : r.s.cpState <;> simp only [hcp] at hpower ⊢
  case disabled =>
    exfalso
    unfold caseDisabled at hpower
    split at hpower
    · exact hoff _ hpower
    · rename_i hlast
      rcases hbefore hpower with h | h <;> simp [h] at hlast
  case a =>
    exfalso
    unfold caseA at hpower
    simp only at hpower
    split at hpower
    · split at hpower <;> exact hoff _ hpower
    · rename_i hlast
      simp only [ne_eq, not_not] at hlast
      have hpower : r.s.power = true := by split at hpower <;> exact hpower
      rcases hbefore hpower with h | h <;> simp [h] at hlast
  case b =>
    exfalso
    have hpower : r.lockB.stopPowerB.s.power = true := by
      unfold caseB plugInB at hpower
      simp only at hpower
      split at hpower <;> split at hpower <;> exact hpower
    have hk := lockB_effect r
    unfold stopPowerB at hpower
    split at hpower
    · exact hoff _ hpower
    · rename_i hlast
      have hpower : r.s.power = true := by
        unfold lockB on at hpower
        simp only at hpower
        split at hpower <;> exact hpower
      rw [hk.lastCpState] at hlast
      rcases hbefore hpower with h | h <;> simp [h] at hlast
  case c =>
    refine ⟨.inl rfl, fun hpwm => ?_⟩
    rw [(caseC_effect (.inl hcp)).pwmRunning] at hpwm
    obtain ⟨hp, htimer⟩ := caseC_without_pwm hpwm
    exact ⟨hp hpower, htimer⟩
  case d =>
    unfold caseD at hpower ⊢
    simp only at hpower ⊢
    split at hpower
    · exact absurd hpower (hoff _)
    · rename_i hvent
      have hvent' : r.s.hasVentilation = true := by simpa [on, connectorLock] using hvent
      rw [if_neg hvent]
      refine ⟨.inr ⟨rfl, hvent'⟩, fun hpwm => ?_⟩
      rw [(caseC_effect (r := r.on connectorLock) (.inr ⟨hcp, hvent'⟩)).pwmRunning] at hpwm
      obtain ⟨hp, htimer⟩ := caseC_without_pwm hpwm
      exact ⟨hp hpower, htimer⟩
  case e =>
    exfalso
    unfold caseE at hpower
    simp only at hpower
    split at hpower
    · have hpower : (((r.on connectorUnlock).stopC1).callAllowPowerOnBsp false).s.power = true := by
        split at hpower <;> exact hpower
      exact hoff _ hpower
    · rename_i hlast
      simp only [on, connectorUnlock, ne_eq, not_not] at hlast
      rcases hbefore hpower with h | h <;> simp [h] at hlast
  case f =>
    exfalso
    have hpower : (r.stopC1.callAllowPowerOnBsp false).s.power = true := by
      unfold caseF at hpower
      simp only at hpower
      split at hpower <;> split at hpower <;> split at hpower <;> exact hpower
    exact hoff _ hpower

end Run

/-! ## The invariant -/

/-- What holds around every call and every run: commands are justified, a
standing power-on command belongs to the last processed state, and without PWM
the C1 timer limits it; the lock agrees with its last signal. -/
structure Base (s : State) : Prop where
  justified : s.Justified
  onState : s.power = true → s.lastCpState = .c ∨ s.lastCpState = .d
  onTimer : s.power = true → s.lastPwmRunning = false → s.timeoutStateC1.running = true
  lockAgrees : s.isLocked = s.lockSignal
  relaisLocked : s.relaisOn = true → s.isLocked = true

/-- Between operations the machine has also processed its inputs. -/
structure Inv (s : State) : Prop extends Base s where
  cpProcessed : s.lastCpState = s.cpState
  pwmProcessed : s.lastPwmRunning = s.pwmRunning

theorem Base.emit {out : Out} (hs : Base s)
    (hpower : ∀ value reason, out ≠ .allowPowerOn value reason) (hlock : out ≠ .signalLock)
    (hunlock : out ≠ .signalUnlock) : Base (s.emit out) := by
  have hp : (s.emit out).power = s.power := by
    cases out <;> first | rfl | exact absurd rfl (hpower _ _)
  have hl : (s.emit out).lockSignal = s.lockSignal := by
    cases out <;> first | rfl | exact absurd rfl hlock | exact absurd rfl hunlock
  exact
    { justified := hs.justified.emit fun reason => hpower true reason
      onState := fun h => hs.onState (hp ▸ h)
      onTimer := fun h => hs.onTimer (hp ▸ h)
      lockAgrees := hs.lockAgrees.trans hl.symm
      relaisLocked := hs.relaisLocked }

theorem Base.powerOff (hs : Base s) : Base (s.callAllowPowerOnBsp false) where
  justified := hs.justified.powerOff
  onState := fun h => by simp at h
  onTimer := fun h => by simp at h
  lockAgrees := hs.lockAgrees
  relaisLocked := hs.relaisLocked

theorem State.checkConnectorLock_fields (s : State) :
    (s.checkConnectorLock.cpState = s.cpState ∧
        s.checkConnectorLock.lastCpState = s.lastCpState ∧
        s.checkConnectorLock.pwmRunning = s.pwmRunning ∧
        s.checkConnectorLock.lastPwmRunning = s.lastPwmRunning) ∧
      s.checkConnectorLock.hasVentilation = s.hasVentilation ∧
      s.checkConnectorLock.timeoutStateC1 = s.timeoutStateC1 := by
  unfold checkConnectorLock
  simp only
  split
  · exact ⟨⟨rfl, rfl, rfl, rfl⟩, rfl, rfl⟩
  · split <;> exact ⟨⟨rfl, rfl, rfl, rfl⟩, rfl, rfl⟩

theorem base_checkConnectorLock (hjust : s.Justified)
    (honState : s.power = true → s.lastCpState = .c ∨ s.lastCpState = .d)
    (honTimer : s.power = true → s.lastPwmRunning = false → s.timeoutStateC1.running = true)
    (hlock : s.isLocked = s.lockSignal) : Base s.checkConnectorLock := by
  obtain ⟨⟨-, hlast, -, hlastPwm⟩, -, htimer⟩ := s.checkConnectorLock_fields
  obtain ⟨hagrees, hrelais⟩ := checkConnectorLock_lock hlock
  exact
    { justified := hjust.checkConnectorLock
      onState := fun h => by
        rw [hlast]
        exact honState (by simpa using h)
      onTimer := fun h => by
        rw [hlastPwm, htimer]
        exact honTimer (by simpa using h)
      lockAgrees := hagrees
      relaisLocked := hrelais }

/-! ### A run of the machine -/

theorem signalEvents_inv (events : List CpEvent) (hs : Inv s) :
    Inv (events.foldl (fun s event => s.emit (.signalEvent event)) s) ∧
      (events.foldl (fun s event => s.emit (.signalEvent event)) s).power = s.power ∧
      (events.foldl (fun s event => s.emit (.signalEvent event)) s).cpState = s.cpState ∧
      (events.foldl (fun s event => s.emit (.signalEvent event)) s).hasVentilation =
        s.hasVentilation := by
  induction events generalizing s with
  | nil => exact ⟨hs, rfl, rfl, rfl⟩
  | cons event rest ih =>
    have hemit : Inv (s.emit (.signalEvent event)) :=
      { hs.toBase.emit (by simp) (by simp) (by simp) with
        cpProcessed := hs.cpProcessed
        pwmProcessed := hs.pwmProcessed }
    exact ih hemit

/-- A run of the machine keeps contactor and lock safe. -/
theorem stateMachine_inv (hs : Base s) :
    Inv (stateMachine s).1 ∧
      ((stateMachine s).1.power = true →
        PowerState (stateMachine s).1.cpState (stateMachine s).1.hasVentilation) := by
  have hleave : ({ s := s } : Run).leaveF.s = s ∧
      ({ s := s } : Run).leaveF.timerStateC1 = .doNothing := by
    unfold Run.leaveF
    split <;> exact ⟨rfl, rfl⟩
  have hkeeps := Run.switchCp_effect ({ s := s } : Run).leaveF
  have hpower := Run.switchCp_power (r := ({ s := s } : Run).leaveF)
    (by rw [hleave.1]; exact hs.onState)
  rw [hleave.1, hleave.2] at hpower
  rw [hleave.1] at hkeeps
  unfold stateMachine
  generalize ({ s := s } : Run).leaveF.switchCp = r at hkeeps hpower
  obtain ⟨⟨hcp, -, hpwm, -⟩, hvent, htimer⟩ := r.s.checkConnectorLock_fields
  obtain ⟨hagrees, hrelais⟩ := checkConnectorLock_lock (s := r.s)
    (by rw [hkeeps.isLocked, hkeeps.lockSignal]; exact hs.lockAgrees)
  have hcheck : r.s.checkConnectorLock.Justified :=
    (hkeeps.justified hs.justified).checkConnectorLock
  have hpowerCheck : r.s.checkConnectorLock.power = r.s.power := r.s.power_checkConnectorLock
  have hpowerState : r.s.power = true →
      PowerState r.s.checkConnectorLock.cpState r.s.checkConnectorLock.hasVentilation := by
    intro h
    rw [hcp, hvent, hkeeps.cpState, hkeeps.hasVentilation]
    exact (hpower h).1
  refine ⟨⟨⟨hcheck, fun h => ?_, fun h hoff => ?_, hagrees, hrelais⟩, rfl, rfl⟩,
    fun h => hpowerState (hpowerCheck.symm.trans h)⟩
  · rcases hpowerState (hpowerCheck.symm.trans h) with h | h
    · exact .inl h
    · exact .inr h.1
  · -- the PWM is off: the power-on command stood before the run
    obtain ⟨hbefore, hcontrol⟩ :=
      (hpower (hpowerCheck.symm.trans h)).2 (hpwm.symm.trans hoff)
    simp only [Run.controlTimers, Run.on, Run.remember, hcontrol, htimer, hkeeps.timeoutStateC1]
    cases hlast : s.lastPwmRunning with
    | true => simp [AsyncTimeout.control]
    | false => simpa [AsyncTimeout.control] using hs.onTimer hbefore hlast

theorem feed_inv (hs : Base s) :
    Inv (feed s) ∧
      ((feed s).power = true → PowerState (feed s).cpState (feed s).hasVentilation) := by
  obtain ⟨hinv, hpower⟩ := stateMachine_inv hs
  obtain ⟨hinv', hp, hcp, hvent⟩ := signalEvents_inv (stateMachine s).2 hinv
  refine ⟨hinv', fun h => ?_⟩
  unfold feed at h ⊢
  rw [hcp, hvent]
  exact hpower (hp.symm.trans h)

/-! ### Operations -/

theorem processCpEvent_base (event : CpEvent) (hs : Base s) : Base (s.processCpEvent event) := by
  unfold processCpEvent
  refine Base.emit ?_ (by simp) (by simp) (by simp)
  split <;> exact base_checkConnectorLock hs.justified hs.onState hs.onTimer hs.lockAgrees

theorem connectorForceUnlock_base (hs : Base s) : Base s.connectorForceUnlock := by
  have hunlock : Base (if s.relaisOn then s
      else { s.emit .signalUnlock with isLocked := false }) := by
    split
    · exact hs
    · rename_i hrelais
      exact
        { justified := State.Justified.emit hs.justified (by simp)
          onState := hs.onState
          onTimer := hs.onTimer
          lockAgrees := rfl
          relaisLocked := fun h => absurd h hrelais }
  unfold connectorForceUnlock
  simp only
  generalize (if s.relaisOn then s else { s.emit .signalUnlock with isLocked := false }) = q
    at hunlock
  split
  · exact base_checkConnectorLock hunlock.justified hunlock.onState hunlock.onTimer
      hunlock.lockAgrees
  · exact hunlock

theorem allowPowerOn_base (value : Bool) (reason : Reason) (hs : Base s) :
    Base (s.allowPowerOn value reason) := by
  have hset : Base { s with powerOnAllowed := value, powerOnReason := reason } := { hs with }
  unfold allowPowerOn
  split
  · exact hset
  · exact hset.powerOff

theorem request_base (op : Op) (hs : Base s) :
    Base (request s op).1 ∧ (feeds s op = false →
      (request s op).1.cpState = s.cpState ∧
      (request s op).1.lastCpState = s.lastCpState ∧
      (request s op).1.pwmRunning = s.pwmRunning ∧
      (request s op).1.lastPwmRunning = s.lastPwmRunning) := by
  unfold feeds
  cases op with
  | processBspEvent event =>
    simp only [request]
    split
    · cases fromBspEvent event with
      | inl raw => exact ⟨{ hs with }, fun h => by simp at h⟩
      | inr cpEvent =>
        refine ⟨processCpEvent_base cpEvent hs, fun _ => ?_⟩
        unfold processCpEvent
        simp only
        split <;> exact (checkConnectorLock_fields _).1
    · exact ⟨hs, fun _ => ⟨rfl, rfl, rfl, rfl⟩⟩
  | setPwm value =>
    exact ⟨Base.emit (s := { s with pwmRunning := _ }) { hs with } (by simp) (by simp)
      (by simp), fun h => by simp [request] at h⟩
  | setPwmOff | setPwmF =>
    exact ⟨Base.emit (s := { s with pwmRunning := false }) { hs with } (by simp) (by simp)
      (by simp), fun h => by simp [request] at h⟩
  | allowPowerOn value reason =>
    exact ⟨allowPowerOn_base value reason hs, fun h => by simp [request] at h⟩
  | connectorForceUnlock =>
    refine ⟨connectorForceUnlock_base hs, fun _ => ?_⟩
    simp only [request, connectorForceUnlock]
    cases hrelais : s.relaisOn <;> split <;>
      first
        | exact (checkConnectorLock_fields _).1
        | exact ⟨rfl, rfl, rfl, rfl⟩
  | setOvercurrentLimit amps =>
    simp only [request, setOvercurrentLimit]
    split
    · have hemit : Base (s.emit (.setOvercurrentLimit amps)) :=
        hs.emit (by simp) (by simp) (by simp)
      exact ⟨{ hemit with }, fun _ => ⟨rfl, rfl, rfl, rfl⟩⟩
    · exact ⟨hs, fun _ => ⟨rfl, rfl, rfl, rfl⟩⟩
  | enable value =>
    exact ⟨Base.emit (s := { s with enabled := value }) { hs with } (by simp) (by simp)
      (by simp), fun _ => ⟨rfl, rfl, rfl, rfl⟩⟩
  | evseReplug ms | switchThreePhasesWhileCharging value =>
    exact ⟨hs.emit (by simp) (by simp) (by simp), fun _ => ⟨rfl, rfl, rfl, rfl⟩⟩
  | setup | setThreePhases | setEvSimplifiedModeEvseLimit | advance =>
    exact ⟨{ hs with }, fun _ => ⟨rfl, rfl, rfl, rfl⟩⟩
  | pollC1 | pollUnlockF =>
    simp only [request]
    split
    · exact ⟨{ hs with }, fun _ => ⟨rfl, rfl, rfl, rfl⟩⟩
    · exact ⟨hs, fun _ => ⟨rfl, rfl, rfl, rfl⟩⟩

/-- So does every operation. -/
theorem step_inv (op : Op) (hs : Inv s) : Inv (step s op) := by
  obtain ⟨hbase, hsame⟩ := request_base op hs.toBase
  unfold step
  split
  · exact (feed_inv hbase).1
  · rename_i hfeeds
    obtain ⟨hcp, hlast, hpwm, hlastPwm⟩ := hsame (by simpa using hfeeds)
    exact
      { hbase with
        cpProcessed := by rw [hlast, hcp, hs.cpProcessed]
        pwmProcessed := by rw [hlastPwm, hpwm, hs.pwmProcessed] }

theorem init_inv (lockConnectorInStateB : Bool) (now : Nat) :
    Inv (init lockConnectorInStateB now) where
  justified := fun call hmem => absurd hmem (by simp [init])
  onState := fun h => by simp [init, power, lastPower] at h
  onTimer := fun h => by simp [init, power, lastPower] at h
  lockAgrees := rfl
  relaisLocked := fun h => by simp [init] at h
  cpProcessed := rfl
  pwmProcessed := rfl

/-- **Contactor and lock safety.** After every sequence of operations and one
more: every power-on command was issued in state C, or D with ventilation, with
PWM running and power allowed; a run of the machine in any other state leaves the
contactor commanded off; a standing power-on command without PWM is limited by
the C1 timer; and a closed relais was last signalled locked. -/
theorem iec_contactor_and_lock_safety (lockConnectorInStateB : Bool) (now : Nat)
    (ops : List Op) (op : Op) :
    let s := run step (init lockConnectorInStateB now) ops
    let s' := step s op
    s'.Justified ∧
      (feeds s op = true → ¬ PowerState s'.cpState s'.hasVentilation → s'.power = false) ∧
      (s'.power = true → s'.cpState = .c ∨ s'.cpState = .d → s'.pwmRunning = false →
        s'.timeoutStateC1.running = true) ∧
      (s'.relaisOn = true → s'.lockSignal = true) := by
  intro s s'
  have hs : Inv s := invariant_run (fun _ op h => step_inv op h) ops
    (init_inv lockConnectorInStateB now)
  have hs' : Inv s' := step_inv op hs
  refine ⟨hs'.justified, fun hfeeds hcp => ?_, fun hon _ hpwm => ?_, fun hrelais => ?_⟩
  · have hfed : s' = feed (request s op).1 := by simp [s', step, hfeeds]
    rw [hfed] at hcp ⊢
    cases hpower : (feed (request s op).1).power with
    | false => rfl
    | true => exact absurd ((feed_inv (request_base op hs.toBase).1).2 hpower) hcp
  · exact hs'.onTimer hon (hs'.pwmProcessed.trans hpwm)
  · rw [← hs'.lockAgrees]
    exact hs'.relaisLocked hrelais

end EverestCore.Iec
