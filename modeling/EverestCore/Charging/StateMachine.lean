import EverestCore.Charging.State

/-!
# The charger's state machine

`run_state_machine` repeats a pass over the current state until a pass leaves the
state as it is. `pass` is one iteration of that loop; each state of the `switch`
has its own function here, cut at the early exits of the source.
-/

namespace EverestCore.Charging

open EverestCore.Iec (CpEvent)

namespace Charger

variable (s : Charger)

/-- The state is entered anew: it changed, or an error came or went. -/
def initializeState : Bool :=
  s.internal.lastStateDetectStateChange != s.shared.currentState ||
    s.internal.lastShutdownType != s.shared.shutdownType

def beginPass : Charger :=
  { s with
    internal.lastState := s.internal.lastStateDetectStateChange
    internal.lastStateDetectStateChange := s.shared.currentState
    internal.lastShutdownType := s.shared.shutdownType }

def countSocTimer : Charger :=
  if s.shared.acWithSocTimeout then
    { s with shared.acWithSocTimer := s.shared.acWithSocTimer - 50 }
  else s

def socTimerExpired : Bool :=
  s.shared.acWithSocTimeout && decide (s.countSocTimer.shared.acWithSocTimer < 0)

def socTimeout : Charger :=
  { s with
    shared.acWithSocTimeout := false
    shared.acWithSocTimer := 3600000 }.emit .acWithSocTimeout

variable (env : Env)

variable (s : Charger)

def enterState : Charger :=
  { s with internal.currentStateStarted := env.systemNow }.emit (.state s.shared.currentState)

def cleanUpSwitchPhases : Charger :=
  if s.internal.lastState = .switchPhases ∧ s.shared.currentState ≠ .switchPhases ∧
      s.shared.switch3ph1phThreephaseOngoing = true then
    { s.emit (.switchThreePhases s.shared.switch3ph1phThreephase) with
      shared.switch3ph1phThreephaseOngoing := false }
  else s

/-! ## Simple states -/

def passDisabled (init : Bool) (s : Charger) : Charger :=
  if init then (s.simpleEvent .disabled).pwmF else s

def passReplug (init : Bool) (s : Charger) : Charger :=
  if init then
    let s := s.simpleEvent .replugStarted
    if s.shared.acWithSocTimeout then { s with shared.acWithSocTimer := 120000 } else s
  else s

def resetForIdle : Charger :=
  let s := s.bcbToggleReset
  { s with
    shared.iecAllowCloseContactor := false
    shared.hlcChargingActive := decide (s.config.chargeMode = ChargeMode.dc)
    shared.hlcAllowCloseContactor := false
    shared.maxCurrentCable := 0
    shared.hlcChargingTerminatePause := .unknown
    shared.legacyWakeupDone := false }.pwmOff

def passIdle (init : Bool) (s : Charger) : Charger :=
  if init then
    let s := s.resetForIdle.deauthorizeInternal.1
    { s with shared.transactionActive := false }.clearErrorsOnUnplug
  else s

def passSwitchPhases (init : Bool) (timeInCurrentState : Int) (s : Charger) : Charger :=
  let s := if init then
      let s := s.simpleEvent .switchingPhases
      if s.config.switch3ph1phCpStateF then s.pwmF else s.pwmOff
    else s
  if s.config.switch3ph1phDelayS * 1000 ≤ timeInCurrentState then
    let s := s.emit (.switchThreePhases s.shared.switch3ph1phThreephase)
    { s with shared.switch3ph1phThreephaseOngoing := false }.setState
      s.internal.switchingPhasesReturnState
  else s

/-- The PWM after a break: off, or the duty cycle remembered for it. -/
def restorePwm (pwm : ℚ) (s : Charger) : Charger :=
  if pwm = 0 then s.pwmOff
  else (s.updatePwmNow env.now pwm).setPwmLastAmpere s.internal.tStepEFReturnAmpere

def passTStepEF (init : Bool) (timeInCurrentState : Int) (s : Charger) : Charger :=
  let s := if init then { s with internal.tStepEfX1Pause := false }.pwmF else s
  if tStepEFMs + stayInX1AfterTstepEfMs ≤ timeInCurrentState then
    (s.restorePwm env s.internal.tStepEFReturnPwm).setState s.internal.tStepEFReturnState
  else if tStepEFMs ≤ timeInCurrentState ∧ s.internal.tStepEfX1Pause = false then
    { s with internal.tStepEfX1Pause := true }.pwmOff
  else s

def passTStepX1 (init : Bool) (timeInCurrentState : Int) (s : Charger) : Charger :=
  let s := if init then s.pwmOff else s
  if tStepX1Ms ≤ timeInCurrentState then
    (s.restorePwm env s.internal.tStepX1ReturnPwm).setState s.internal.tStepX1ReturnState
  else s

/-! ## Waiting for authentication -/

def noEnergy : Bool :=
  !(decide (0 < s.shared.evseMaximumCurrentLimit) && decide (0 < s.shared.evseMaximumPowerLimit))

/-- A session starts with the first user interaction, unless the car was
virtually replugged. -/
def announceAuthRequired : Charger :=
  if s.internal.lastState = .replug then s.simpleEvent .replugFinished
  else
    (if s.shared.sessionActive then s else s.startSession env false).simpleEvent .authRequired

def selectHlc : Charger :=
  match s.config.chargeMode with
  | .ac =>
    { s with
      acHlcEnabledCurrentSession := s.config.acHlcEnabled
      hlcUse5percentCurrentSession := s.config.acHlcEnabled && s.config.acHlcUse5percent }
  | .dc => { s with hlcUse5percentCurrentSession := true }

def initWaitingForAuthentication : Charger :=
  let s := { s with
    internal.ppWarningPrinted := false
    internal.noEnergyWarningPrinted := false }.emit (.allowPowerOn false .powerOff)
  let s := (s.announceAuthRequired env).selectHlc
  if s.hlcUse5percentCurrentSession then s.updatePwmNow env.now pwm5Percent else s

def cableUnread : Bool :=
  decide (s.connectorType = .iec62196Type2Socket) && decide (s.shared.maxCurrentCable = 0)

def readCable : Charger :=
  if s.cableUnread then { s with shared.maxCurrentCable := env.ppAmpacity } else s

def warnNoEnergy : Charger :=
  if s.config.chargeMode = .dc ∧ s.noEnergy = true ∧
      s.internal.noEnergyWarningPrinted = false then
    { s with internal.noEnergyWarningPrinted := true }.emit .hlcNoEnergyAvailable
  else s

/-- EIM in AC mode: where to go next, see figures 3 to 6 of ISO 15118-3. -/
def proceedEimAc : Charger :=
  if s.acHlcEnabledCurrentSession then
    if s.config.acEnforceHlc then
      { s with hlcUse5percentCurrentSession := true }.setState .prepareCharging
    else if !s.shared.matchingStarted then
      { s with
        internal.tStepEFReturnState := .prepareCharging
        internal.tStepEFReturnPwm := 0
        internal.tStepEFReturnAmpere := 0
        hlcUse5percentCurrentSession := false }.setState .tStepEF
    else if s.hlcUse5percentCurrentSession then
      { s with
        internal.tStepX1ReturnState := .prepareCharging
        internal.tStepX1ReturnPwm := 0
        internal.tStepEFReturnAmpere := 0
        hlcUse5percentCurrentSession := false }.setState .tStepX1
    else s.setState .prepareCharging
  else s.setState .prepareCharging

def proceedEim : Charger :=
  match s.config.chargeMode with
  | .ac => s.proceedEimAc
  | .dc => s.setState .prepareCharging

def proceedPnc : Charger :=
  match s.config.chargeMode with
  | .ac => { s with hlcUse5percentCurrentSession := true }.setState .prepareCharging
  | .dc => s.setState .prepareCharging

/-- EIM: if we are restarting, the transaction may already be active. -/
def authorizedEim : Charger :=
  if s.shared.transactionActive then s.proceedEim
  else
    let r := s.startTransaction env
    if r.2 then r.1.proceedEim else r.1

/-- Plug and Charge: a transaction is started in any case. -/
def authorizedPnc : Charger :=
  let r := s.startTransaction env
  if r.2 then r.1.proceedPnc else r.1

def proceedWhenAuthorized : Charger :=
  if s.shared.authorized then
    if s.shared.authorizedPnc then s.authorizedPnc env else s.authorizedEim env
  else s

def passWaitingForAuthentication (init : Bool) (s : Charger) : Charger :=
  let s := if init then s.initWaitingForAuthentication env else s
  let s := s.readCable env
  if s.cableUnread then { s with internal.ppWarningPrinted := true }
  else s.warnNoEnergy.proceedWhenAuthorized env

/-! ## Prepare charging -/

def initPrepareCharging : Charger :=
  let s := (s.simpleEvent .prepareCharging).bcbToggleReset
  if s.config.chargeMode = .dc ∧ s.noEnergy = true then s.emit .hlcNoEnergyAvailable else s

/-- DC: close the contactor for the cable check as soon as both sides allow it.
This comes before the errors are looked at. -/
def closeForCableCheck : Charger :=
  if s.config.chargeMode = .dc ∧ s.shared.hlcAllowCloseContactor = true ∧
      s.shared.iecAllowCloseContactor = true then
    s.emit (.allowPowerOn true .dcCableCheck)
  else s

def enablePwm : Charger :=
  if s.hlcUse5percentCurrentSession then s.updatePwmNowIfChanged env.now pwm5Percent
  else s.updatePwmNowIfChangedAmpere env.now s.getMaxCurrentInternal

/-- The contactor may be closed: by the CP state alone, or by HLC as well while
the 5 percent PWM is used. -/
def mayClose : Bool :=
  s.shared.iecAllowCloseContactor &&
    (!s.hlcUse5percentCurrentSession || s.shared.hlcAllowCloseContactor)

/-- One legacy wake-up according to IEC 61851-1 A.5.3. -/
def legacyWakeup : Charger :=
  { s with
    shared.legacyWakeupDone := true
    internal.tStepEFReturnState := .prepareCharging
    internal.tStepEFReturnPwm := ampereToDutyCycle s.getMaxCurrentInternal
    internal.tStepEFReturnAmpere := s.getMaxCurrentInternal }.setState .tStepEF

def prepareAc (timeInCurrentState : Int) (s : Charger) : Charger :=
  let r := s.powerAvailable env.now
  let s := r.1
  if !r.2 then s.setState .waitingForEnergy
  else if s.mayClose then (s.simpleEvent .chargingStarted).setState .charging
  else if s.shared.hlcChargingActive then s
  else if !s.shared.legacyWakeupDone then
    if legacyWakeupTimeout < timeInCurrentState then s.legacyWakeup else s
  else if preparingTimeoutPausedByEv < timeInCurrentState then s.setState .chargingPausedEV
  else s

def passPrepareCharging (init : Bool) (timeInCurrentState : Int) (s : Charger) :
    Charger :=
  let s := if init then s.initPrepareCharging else s
  let r := s.closeForCableCheck.stopChargingOnFatalErrorInternal env.now
  if r.2 then { r.1 with internal.currentStateStarted := env.systemNow }
  else
    let s := r.1.enablePwm env
    if s.config.chargeMode = .ac then s.prepareAc env timeInCurrentState else s

/-! ## Charging -/

/-- Basic charging: signal state F for a short time when a fatal error becomes
active. -/
def signalFault : Charger :=
  if 0 < s.config.stateFAfterFaultMs ∧ s.shared.hlcChargingActive = false then
    let s := if s.enteredFatalErrorState then s.pwmF else s
    if s.internal.pwmFActive = true ∧
        s.config.stateFAfterFaultMs < s.timeInFatalErrorStateMs env.now ∧
        s.shared.shutdownType = .emergencyShutdown then s.pwmOff
    else s
  else s

def startChargingAc : Charger :=
  let s := if s.internal.lastState ≠ .prepareCharging then s.simpleEvent .chargingResumed else s
  let s := { s with shared.legacyWakeupDone := false }.emit
    (.allowPowerOn true .fullPowerCharging)
  s.enablePwm env

def keepChargingAc : Charger :=
  if s.hlcUse5percentCurrentSession then s
  else s.updatePwmMaxEvery5secondsAmpere env.now s.getMaxCurrentInternal

def chargeAc (init : Bool) (s : Charger) : Charger :=
  let r := (s.checkSoftOverCurrent env.now).powerAvailable env.now
  if !r.2 then r.1.pauseChargingWaitForPowerInternal.1
  else if init then r.1.startChargingAc env
  else r.1.keepChargingAc env

def passCharging (init : Bool) (s : Charger) : Charger :=
  let s := if init then { s with shared.hlcChargingTerminatePause := .unknown } else s
  let r := (s.signalFault env).stopChargingOnFatalErrorInternal env.now
  if r.2 then r.1
  else
    match r.1.config.chargeMode with
    | .dc => if init then r.1.emit (.allowPowerOn true .fullPowerCharging) else r.1
    | .ac => r.1.chargeAc env init

/-! ## Pauses -/

def followHlc : Charger :=
  match s.shared.hlcChargingTerminatePause with
  | .terminate => (s.setState .stoppingCharging).pwmOffIfRunning
  | .pause => s.pwmOffIfRunning
  | .unknown => s

def initPausedEvHlc : Charger :=
  (s.bcbToggleReset.emit (.allowPowerOn false .powerOff)).dcSupplyOffIfDc.simpleEvent
    .chargingPausedEV

def pausedEvHlc (init : Bool) (s : Charger) : Charger :=
  let s := if init then s.initPausedEvHlc else s
  let r := s.bcbToggleDetected env.now
  (if r.2 then r.1.setState .prepareCharging else r.1).followHlc

def pausedEvBasic (init : Bool) (s : Charger) : Charger :=
  let r := s.powerAvailable env.now
  if !r.2 then r.1.pauseChargingWaitForPowerInternal.1
  else if init then r.1.simpleEvent .chargingPausedEV
  else
    let r := r.1.stopChargingOnFatalErrorInternal env.now
    if r.2 then r.1
    else r.1.updatePwmMaxEvery5secondsAmpere env.now r.1.getMaxCurrentInternal

def passChargingPausedEV (init : Bool) (s : Charger) : Charger :=
  let s := if s.config.chargeMode = .ac then s.checkSoftOverCurrent env.now else s
  if s.shared.hlcChargingActive then s.pausedEvHlc env init else s.pausedEvBasic env init

def passChargingPausedEVSE (init : Bool) (s : Charger) : Charger :=
  let s := if init then
      let s := s.simpleEvent .chargingPausedEVSE
      if s.shared.hlcChargingActive then s.dcSupplyOffIfDc else s.pwmOff
    else s
  if s.shared.hlcChargingActive then s.followHlc else s

def passWaitingForEnergy (init : Bool) (s : Charger) : Charger :=
  if init then
    let s := s.simpleEvent .waitingForEnergy
    if s.hlcUse5percentCurrentSession then s else s.pwmOff
  else s

/-! ## Stopping -/

def initStoppingCharging : Charger :=
  let s := s.bcbToggleReset
  let s := if s.shared.transactionActive then s.simpleEvent .stoppingCharging else s
  if s.shared.hlcChargingActive then s.dcSupplyOffIfDc else s.pwmOff.setState .finished

/-- A BCB toggle restarts the session, but only while the transaction is still
running. -/
def restartOnToggle : Charger :=
  if s.shared.hlcChargingActive then
    let r := s.bcbToggleDetected env.now
    if r.2 = true ∧ r.1.shared.transactionActive = true then
      (r.1.setState .prepareCharging).emit .slacStart
    else r.1
  else s

def passStoppingCharging (init : Bool) (s : Charger) : Charger :=
  (if init then s.initStoppingCharging else s).restartOnToggle env

def finishSession : Charger :=
  let s := if s.shared.transactionActive then s.stopTransaction env else s
  let s := if s.shared.sessionActive then s.stopSession else s
  s.dcSupplyOffIfDc

def passFinished (init : Bool) (s : Charger) : Charger :=
  (if init then s.finishSession env else s).setState .idle

/-! ## One pass -/

def passState (init : Bool) (timeInCurrentState : Int) (s : Charger) : Charger :=
  match s.shared.currentState with
  | .disabled => s.passDisabled init
  | .replug => s.passReplug init
  | .idle => s.passIdle init
  | .waitingForAuthentication => s.passWaitingForAuthentication env init
  | .switchPhases => s.passSwitchPhases init timeInCurrentState
  | .tStepEF => s.passTStepEF env init timeInCurrentState
  | .tStepX1 => s.passTStepX1 env init timeInCurrentState
  | .prepareCharging => s.passPrepareCharging env init timeInCurrentState
  | .charging => s.passCharging env init
  | .chargingPausedEV => s.passChargingPausedEV env init
  | .chargingPausedEVSE => s.passChargingPausedEVSE init
  | .waitingForEnergy => s.passWaitingForEnergy init
  | .stoppingCharging => s.passStoppingCharging env init
  | .finished => s.passFinished env init

/-- What a pass does once the SoC timer has not run out. -/
def passBody (init : Bool) (s : Charger) : Charger :=
  let s := if init then s.enterState env else s
  let timeInCurrentState := env.systemNow - s.internal.currentStateStarted
  s.cleanUpSwitchPhases.passState env init timeInCurrentState

/-- One iteration of `run_state_machine`, and whether another one follows. The
SoC timeout leaves the loop at once. -/
def pass : Charger × Bool :=
  let init := s.initializeState
  let s := s.beginPass
  if s.socTimerExpired then (s.socTimeout, false)
  else
    let s := s.countSocTimer.passBody env init
    (s, decide (s.internal.lastStateDetectStateChange ≠ s.shared.currentState))

/-! ## CP events -/

def setIecAllow (allow : Bool) (s : Charger) : Charger :=
  { s with shared.iecAllowCloseContactor := allow }

/-- Tell the HLC stack to stop the session, in case the EV has not done so. -/
def stopHlc : Charger :=
  if s.shared.hlcChargingActive then s.emit .hlcStopCharging else s

def processCpEventsState (event : CpEvent) (s : Charger) : Charger :=
  match s.shared.currentState, event with
  | .idle, .carPluggedIn => s.setState .waitingForAuthentication
  | .waitingForEnergy, .carRequestedPower => s.setIecAllow true
  | .waitingForEnergy, .carRequestedStopPower => s.setIecAllow false
  | .waitingForAuthentication, .carRequestedPower => s.setIecAllow true
  | .waitingForAuthentication, .carRequestedStopPower => s.setIecAllow false
  | .prepareCharging, .carRequestedPower => s.setIecAllow true
  | .prepareCharging, .carRequestedStopPower =>
    ((s.setIecAllow false).emit .dcSupplyOff).setState .chargingPausedEVSE
  | .charging, .carRequestedStopPower =>
    ((s.setIecAllow false).setState .chargingPausedEV).stopHlc
  | .charging, .bcdToE => ((s.setIecAllow false).setState .stoppingCharging).stopHlc
  | .chargingPausedEV, .carRequestedPower =>
    let s := s.setIecAllow true
    if s.config.chargeMode = .ac ∧ s.shared.hlcChargingActive = false then
      s.setState .charging
    else if s.shared.pwmRunning then s
    else s.bcbToggleDetectStartPulse env.now
  | .chargingPausedEV, .carRequestedStopPower =>
    if s.shared.pwmRunning = false ∧ s.shared.hlcChargingActive = true then
      s.bcbToggleDetectStopPulse env.now
    else s
  | .stoppingCharging, .carRequestedPower =>
    if s.shared.hlcChargingActive = true ∧ s.shared.pwmRunning = false then
      s.bcbToggleDetectStartPulse env.now
    else s
  | .stoppingCharging, .carRequestedStopPower =>
    if s.shared.hlcChargingActive = true ∧ s.shared.pwmRunning = false then
      s.bcbToggleDetectStopPulse env.now
    else s
  | _, _ => s

/-- The contactor is open: stop a transaction that is not authorized anymore. -/
def contactorOpened : Charger :=
  let s := { s with shared.contactorOpen := true }
  if s.shared.transactionActive = true ∧ s.shared.authorizedPnc = false ∧
      s.shared.authorized = false then s.stopTransaction env
  else s

def processCpEventsIndependent (event : CpEvent) (s : Charger) : Charger :=
  match event with
  | .evseReplugStarted => s.setState .replug
  | .evseReplugFinished => s.setState .waitingForAuthentication
  | .carRequestedStopPower => s.setIecAllow false
  | .carUnplugged =>
    s.setState (if s.shared.hlcChargingActive then .finished else .stoppingCharging)
  | .powerOff => s.contactorOpened env
  | .powerOn => { s with shared.contactorOpen := false }
  | _ => s

end Charger

end EverestCore.Charging
