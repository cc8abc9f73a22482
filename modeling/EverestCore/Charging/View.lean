import EverestCore.Charging.Operations

/-!
# What matters of a charger

Most of what the charger does (PWM, timers, over current, BCB toggles, signals to
the HLC stack) touches neither the session nor the contactor. `view` keeps the
parts that do, together with what the log says about them, and the frame lemmas
say which functions leave it alone.
-/

namespace EverestCore.Charging

open EverestCore.Iec (CpEvent Reason)
open EverestCore.Evse (ShutdownType)

/-! ## Reading the log -/

/-- Where the emitted session and transaction events have got to. `broken` is
reached by an event that does not fit and never left. -/
inductive Phase where
  | noSession
  | session
  | transaction
  | broken
deriving DecidableEq

namespace Phase

/-- A session can start when there is none. -/
def startSession : Phase → Phase
  | .noSession => .session
  | _ => .broken

/-- A transaction starts within a session. -/
def startTransaction : Phase → Phase
  | .session => .transaction
  | _ => .broken

/-- Back to the session, if a transaction is open. -/
def finishTransaction : Phase → Phase
  | .transaction => .session
  | _ => .broken

/-- A session finishes after its transaction. -/
def finishSession : Phase → Phase
  | .session => .noSession
  | _ => .broken

/-- One event of the log. -/
def next (phase : Phase) (out : Out) : Phase :=
  match out with
  | .sessionStarted _ _ => phase.startSession
  | .transactionStarted _ => phase.startTransaction
  | .transactionFinished _ _ => phase.finishTransaction
  | .simpleEvent .sessionFinished => phase.finishSession
  | _ => phase

end Phase

/-- The phase after the whole log, newest entry first. -/
def phase : List Entry → Phase
  | [] => .noSession
  | entry :: rest => (phase rest).next entry.out

/-- A contactor-on call was made while a shutdown was active. -/
def powerWhileFatal : List Entry → Bool
  | [] => false
  | entry :: rest =>
    (match entry.out with
      | .allowPowerOn true _ => entry.shutdownType != .none
      | _ => false) || powerWhileFatal rest

/-- How often the contactor was commanded on. -/
def powerOns : List Entry → Nat
  | [] => 0
  | entry :: rest =>
    match entry.out with
    | .allowPowerOn true _ => powerOns rest + 1
    | _ => powerOns rest

/-- Signals that neither belong to a session nor close the contactor. -/
def Out.neutral : Out → Bool
  | .sessionStarted _ _ => false
  | .transactionStarted _ => false
  | .transactionFinished _ _ => false
  | .simpleEvent .sessionFinished => false
  | .allowPowerOn true _ => false
  | _ => true

/-! ## The view -/

/-- The bookkeeping of sessions and transactions: the flags, the store and what
was told to the outside. -/
structure Session where
  authorized : Bool
  authorizedPnc : Bool
  transactionActive : Bool
  sessionActive : Bool
  sessionUuid : String
  storeActive : Bool
  storedSession : String
  phase : Phase
deriving DecidableEq

/-- The session, what decides about the contactor, the states to return to and the
contactor commands. -/
structure View where
  session : Session
  currentState : EvseState
  shutdownType : ShutdownType
  chargeMode : ChargeMode
  failOnPowermeterErrors : Bool
  hlcChargingActive : Bool
  hlcAllowCloseContactor : Bool
  iecAllowCloseContactor : Bool
  tStepEFReturnState : EvseState
  tStepX1ReturnState : EvseState
  switchingPhasesReturnState : EvseState
  powerWhileFatal : Bool
  powerOns : Nat
deriving DecidableEq

namespace Charger

/-- What the view keeps of the session. -/
def session (s : Charger) : Session where
  authorized := s.shared.authorized
  authorizedPnc := s.shared.authorizedPnc
  transactionActive := s.shared.transactionActive
  sessionActive := s.shared.sessionActive
  sessionUuid := s.shared.sessionUuid
  storeActive := s.storeActive
  storedSession := s.storedSession
  phase := phase s.log

/-- The view of a charger. -/
def view (s : Charger) : View where
  session := s.session
  currentState := s.shared.currentState
  shutdownType := s.shared.shutdownType
  chargeMode := s.config.chargeMode
  failOnPowermeterErrors := s.config.failOnPowermeterErrors
  hlcChargingActive := s.shared.hlcChargingActive
  hlcAllowCloseContactor := s.shared.hlcAllowCloseContactor
  iecAllowCloseContactor := s.shared.iecAllowCloseContactor
  tStepEFReturnState := s.internal.tStepEFReturnState
  tStepX1ReturnState := s.internal.tStepX1ReturnState
  switchingPhasesReturnState := s.internal.switchingPhasesReturnState
  powerWhileFatal := powerWhileFatal s.log
  powerOns := powerOns s.log

variable (s : Charger) (env : Env)

/-! ## Frame lemmas -/

/-- Neutral output is not seen. -/
theorem view_emit {out : Out} (h : out.neutral = true) : (s.emit out).view = s.view := by
  cases out with
  | simpleEvent event => cases event <;> first | rfl | cases h
  | allowPowerOn value reason => cases value <;> first | rfl | cases h
  | sessionStarted | transactionStarted | transactionFinished => cases h
  | _ => rfl

@[simp] theorem view_simpleEvent {event : SessionEvent} (h : event ≠ .sessionFinished) :
    (s.simpleEvent event).view = s.view := by
  refine view_emit s ?_
  cases event <;> first | rfl | exact absurd rfl h

/-- A new state changes nothing else. -/
@[simp] theorem view_setState (state : EvseState) :
    (s.setState state).view = { s.view with currentState := state } := rfl

variable (now : Int)

@[simp] theorem view_updatePwmNow (dc : ℚ) : (s.updatePwmNow now dc).view = s.view :=
  rfl

@[simp] theorem view_pwmOff : s.pwmOff.view = s.view := rfl

@[simp] theorem view_updatePwmNowIfChanged (dc : ℚ) :
    (s.updatePwmNowIfChanged now dc).view = s.view := by
  unfold updatePwmNowIfChanged
  split <;> rfl

@[simp] theorem view_updatePwmNowIfChangedAmpere (ampere : ℚ) :
    (s.updatePwmNowIfChangedAmpere now ampere).view = s.view := by
  unfold updatePwmNowIfChangedAmpere
  split <;> rfl

@[simp] theorem view_updatePwmMaxEvery5secondsAmpere (ampere : ℚ) :
    (s.updatePwmMaxEvery5secondsAmpere now ampere).view = s.view := by
  unfold updatePwmMaxEvery5secondsAmpere
  split <;> rfl

@[simp] theorem view_pwmOffIfRunning : s.pwmOffIfRunning.view = s.view := by
  unfold pwmOffIfRunning
  split <;> rfl

@[simp] theorem view_powerAvailable : (s.powerAvailable now).1.view = s.view := by
  unfold powerAvailable expireBudget
  split <;> rfl

@[simp] theorem view_checkSoftOverCurrent : (s.checkSoftOverCurrent now).view = s.view := by
  have htrack : (s.trackOverCurrent now).view = s.view := by
    unfold trackOverCurrent
    split
    · split <;> rfl
    · rfl
  unfold checkSoftOverCurrent
  simp only
  split <;> exact htrack

@[simp] theorem view_bcbToggleReset : s.bcbToggleReset.view = s.view := rfl

@[simp] theorem view_bcbToggleDetectStartPulse :
    (s.bcbToggleDetectStartPulse now).view = s.view := by
  unfold bcbToggleDetectStartPulse
  simp only
  split <;> rfl

@[simp] theorem view_bcbToggleDetectStopPulse : (s.bcbToggleDetectStopPulse now).view = s.view := by
  unfold bcbToggleDetectStopPulse
  split
  · split <;> rfl
  · rfl

@[simp] theorem view_bcbToggleDetected : (s.bcbToggleDetected now).1.view = s.view := by
  unfold bcbToggleDetected
  split <;> rfl

/-- Meters answer without an event of the session. -/
@[simp] theorem view_startMeters (answers : List TransactionRequestStatus) :
    (s.startMeters answers).1.view = s.view := by
  induction answers generalizing s with
  | nil => rfl
  | cons status rest ih =>
    unfold startMeters
    simp only
    split
    · rfl
    · exact ih _

@[simp] theorem view_stopMeters (id : String) (answers : List TransactionRequestStatus) :
    (s.stopMeters id answers).view = s.view := by
  induction answers generalizing s with
  | nil => rfl
  | cons status rest ih =>
    unfold stopMeters
    split
    · exact ih _
    · rfl

@[simp] theorem view_dcSupplyOffIfDc : s.dcSupplyOffIfDc.view = s.view := by
  unfold dcSupplyOffIfDc
  split <;> rfl

@[simp] theorem view_emergencyShutdown : s.emergencyShutdown.view = s.view := by
  unfold emergencyShutdown
  rw [view_emit _ rfl, view_dcSupplyOffIfDc, view_pwmOffIfRunning]

@[simp] theorem view_errorShutdown : s.errorShutdown.view = s.view := by
  unfold errorShutdown
  rw [view_emit _ rfl, view_emit _ rfl, view_dcSupplyOffIfDc]

/-- The action of a shutdown is not seen, its type is. -/
@[simp] theorem view_shutdownAction : (s.shutdownAction now).view = s.view := by
  unfold shutdownAction
  split
  · rfl
  · split
    · exact view_emergencyShutdown _
    · exact view_errorShutdown _
    · rfl

@[simp] theorem view_stopChargingOnFatalErrorInternal :
    (s.stopChargingOnFatalErrorInternal now).1.view = s.view :=
  view_shutdownAction s now

/-- Whether charging stops can be told from the view. -/
@[simp] theorem stopChargingOnFatalErrorInternal_snd :
    (s.stopChargingOnFatalErrorInternal now).2 = (s.view.shutdownType != .none) := by
  rw [← view_shutdownAction s now]
  rfl

@[simp] theorem view_clearErrorsOnUnplug : s.clearErrorsOnUnplug.view = s.view := by
  unfold clearErrorsOnUnplug
  repeat rw [view_emit _ rfl]

@[simp] theorem view_restorePwm (pwm : ℚ) : (s.restorePwm env pwm).view = s.view := by
  unfold restorePwm
  split <;> rfl

@[simp] theorem view_selectHlc : s.selectHlc.view = s.view := by
  unfold selectHlc
  split <;> rfl

@[simp] theorem view_readCable : (s.readCable env).view = s.view := by
  unfold readCable
  split <;> rfl

@[simp] theorem view_warnNoEnergy : s.warnNoEnergy.view = s.view := by
  unfold warnNoEnergy
  split <;> rfl

@[simp] theorem view_initPrepareCharging : s.initPrepareCharging.view = s.view := by
  unfold initPrepareCharging
  simp only
  split <;> rfl

@[simp] theorem view_enablePwm : (s.enablePwm env).view = s.view := by
  unfold enablePwm
  split <;> simp

@[simp] theorem view_signalFault : (s.signalFault env).view = s.view := by
  unfold signalFault
  split
  · simp only
    split <;> split <;> rfl
  · rfl

@[simp] theorem view_keepChargingAc : (s.keepChargingAc env).view = s.view := by
  unfold keepChargingAc
  split <;> simp

@[simp] theorem view_initPausedEvHlc : s.initPausedEvHlc.view = s.view := by
  unfold initPausedEvHlc
  rw [view_simpleEvent _ (by decide), view_dcSupplyOffIfDc, view_emit _ rfl, view_bcbToggleReset]

/-- Signals to the HLC stack are not seen. -/
@[simp] theorem view_stopHlc : s.stopHlc.view = s.view := by
  unfold stopHlc
  split <;> rfl

/-- The passes of the states in which nothing happens. -/
@[simp] theorem view_passDisabled (init : Bool) : (s.passDisabled init).view = s.view := by
  unfold passDisabled
  split <;> rfl

@[simp] theorem view_passReplug (init : Bool) : (s.passReplug init).view = s.view := by
  unfold passReplug
  split
  · simp only
    split <;> rfl
  · rfl

@[simp] theorem view_passWaitingForEnergy (init : Bool) :
    (s.passWaitingForEnergy init).view = s.view := by
  unfold passWaitingForEnergy
  split
  · simp only
    split <;> rfl
  · rfl

end Charger

end EverestCore.Charging
