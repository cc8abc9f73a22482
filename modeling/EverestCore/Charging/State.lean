import EverestCore.Iec.StateMachine
import EverestCore.Evse.ErrorHandling

/-!
# State of the charger

The high level charging logic of one connector: the members of `Charger`, grouped
into the shared, configuration and internal contexts of the source, and the small
member functions the state machine is built from.

Clock readings and durations are milliseconds, currents and duty cycles are
rationals. Logging and the stopwatch are left out.
-/

namespace EverestCore.Charging

open EverestCore.Iec (CpEvent Reason)
open EverestCore.Evse (ShutdownType ErrorHandlingEvents)

inductive ChargeMode where
  | ac
  | dc
deriving DecidableEq

inductive EvseState where
  | disabled
  | idle
  | waitingForAuthentication
  | prepareCharging
  | waitingForEnergy
  | charging
  | chargingPausedEV
  | chargingPausedEVSE
  | stoppingCharging
  | finished
  | tStepEF
  | tStepX1
  | switchPhases
  | replug
deriving DecidableEq

inductive HlcTerminatePause where
  | unknown
  | terminate
  | pause
deriving DecidableEq

inductive ConnectorType where
  | iec62196Type2Cable
  | iec62196Type2Socket
deriving DecidableEq

inductive SessionEvent where
  | authorized
  | deauthorized
  | enabled
  | disabled
  | authRequired
  | prepareCharging
  | chargingStarted
  | chargingPausedEV
  | chargingPausedEVSE
  | waitingForEnergy
  | chargingResumed
  | stoppingCharging
  | chargingFinished
  | sessionFinished
  | replugStarted
  | replugFinished
  | pluginTimeout
  | switchingPhases
deriving DecidableEq

inductive StartSessionReason where
  | evConnected
  | authorized
deriving DecidableEq

inductive StopTransactionReason where
  | emergencyStop
  | evDisconnected
  | hardReset
  | local
  | other
  | powerLoss
  | reboot
  | remote
  | softReset
  | unlockCommand
  | deAuthorized
  | energyLimitReached
  | groundFault
  | localOutOfCredit
  | masterPass
  | overcurrentFault
  | powerQuality
  | socLimitReached
  | stoppedByEV
  | timeLimitReached
  | timeout
  | reqEnergyTransferRejected
deriving DecidableEq

inductive AuthorizationType where
  | ocpp
  | rfid
  | autocharge
  | plugAndCharge
  | bankCard
deriving DecidableEq

inductive IdTokenType where
  | central
  | eMaid
  | macAddress
  | iso14443
  | iso15693
  | keyCode
  | local
  | noAuthorization
deriving DecidableEq

inductive OcmfIdentificationType where
  | central
  | eMaid
  | iso14443
  | iso15693
  | keyCode
  | local
  | none
  | undefined
deriving DecidableEq

def convertToOcmfIdentificationType : IdTokenType → OcmfIdentificationType
  | .central => .central
  | .eMaid => .eMaid
  | .iso14443 => .iso14443
  | .iso15693 => .iso15693
  | .keyCode => .keyCode
  | .local => .local
  | .noAuthorization => .none
  | .macAddress => .undefined

structure ProvidedIdToken where
  value : String := ""
  type : IdTokenType := .central
  authorizationType : AuthorizationType := .ocpp
deriving DecidableEq

structure StopTransactionRequest where
  reason : StopTransactionReason
  idTag : Option ProvidedIdToken := none
deriving DecidableEq

structure TransactionReq where
  evseId : String
  transactionId : String
  identificationType : OcmfIdentificationType
  identificationData : String
  tariffText : Option String
deriving DecidableEq

inductive TransactionRequestStatus where
  | ok
  | notSupported
  | unexpectedError
deriving DecidableEq

inductive EvseError where
  | emergencyShutdown
  | utilityInterruptEvent
deriving DecidableEq

/-- The errors of the error handling that the charger raises or clears. -/
inductive ErrorKind where
  | overcurrent
  | internal
  | authorizationTimeout
  | powermeterTransactionStartFailed
  | isolationResistanceFault
  | cableCheckFault
deriving DecidableEq

inductive ErrorText where
  | text (text : String)
  | softOvercurrent (l1 l2 l3 limit : ℚ)
deriving DecidableEq

inductive EnableSource where
  | unspecified
  | localApi
  | localKeyLock
  | serviceTechnician
  | remoteKeyLock
  | mobileApp
  | firmwareUpdate
  | csms
deriving DecidableEq

inductive EnableState where
  | unassigned
  | disable
  | enable
deriving DecidableEq

structure EnableDisableSource where
  enableSource : EnableSource
  enableState : EnableState
  enablePriority : Int
deriving DecidableEq

inductive Out where
  | simpleEvent (event : SessionEvent)
  | sessionStarted (reason : StartSessionReason) (token : Option ProvidedIdToken)
  | transactionStarted (token : ProvidedIdToken)
  | transactionFinished (reason : StopTransactionReason) (token : Option ProvidedIdToken)
  | maxCurrent (ampere : ℚ)
  | state (state : EvseState)
  | acWithSocTimeout
  | dcSupplyOff
  | slacReset
  | slacStart
  | hlcStopCharging
  | hlcPauseCharging
  | hlcError (error : EvseError)
  | hlcNoEnergyAvailable
  | setPwm (dutyCycle : ℚ)
  | setPwmOff
  | setPwmF
  | allowPowerOn (value : Bool) (reason : Reason)
  | bspEnable (value : Bool)
  | bspSetup (hasVentilation : Bool)
  | evseReplug (ms : Int)
  | switchThreePhases (value : Bool)
  | setOvercurrentLimit (ampere : ℚ)
  | raiseError (kind : ErrorKind) (text : ErrorText)
  | clearError (kind : ErrorKind)
  | meterStartTransaction (request : TransactionReq)
  | meterStopTransaction (transactionId : String)
deriving DecidableEq

/-- A call or signal and the shutdown type it was made under. -/
structure Entry where
  out : Out
  shutdownType : ShutdownType
deriving DecidableEq

structure SharedContext where
  legacyWakeupDone : Bool := false
  hlcAllowCloseContactor : Bool := false
  iecAllowCloseContactor : Bool := false
  contactorOpen : Bool := true
  hlcChargingActive : Bool := false
  hlcChargingTerminatePause : HlcTerminatePause := .unknown
  evseMaximumCurrentLimit : ℚ := 0
  evseMaximumPowerLimit : ℚ := 0
  pwmRunning : Bool := false
  stopTransactionIdToken : Option ProvidedIdToken := none
  idToken : ProvidedIdToken := {}
  tariffMessages : List String := []
  authorized : Bool := false
  authorizedPnc : Bool := false
  matchingStarted : Bool := false
  maxCurrent : ℚ := 6
  maxCurrentValidUntil : Int := 0
  maxCurrentCable : ℚ := 0
  transactionActive : Bool := false
  sessionActive : Bool := false
  sessionUuid : String := ""
  connectorEnabled : Bool := true
  currentState : EvseState := .idle
  lastStopTransactionReason : Option StopTransactionReason := none
  lastStartSessionReason : StartSessionReason := .evConnected
  currentDrawnByVehicle : ℚ × ℚ × ℚ := (0, 0, 0)
  shutdownType : ShutdownType := .none
  lastShutdownType : ShutdownType := .none
  acWithSocTimer : Int := 0
  acWithSocTimeout : Bool := false
  switch3ph1phThreephase : Bool := false
  switch3ph1phThreephaseOngoing : Bool := false
deriving DecidableEq

structure ConfigContext where
  acEnforceHlc : Bool := false
  acHlcUse5percent : Bool := false
  acHlcEnabled : Bool := false
  chargeMode : ChargeMode := .ac
  switch3ph1phDelayS : Int := 10
  switch3ph1phCpStateF : Bool := false
  softOverCurrentTimeoutMs : Int := 7000
  stateFAfterFaultMs : Int := 300
  failOnPowermeterErrors : Bool := false
  raiseMrec9 : Bool := false
deriving DecidableEq

structure InternalContext where
  hlcBcbSequenceStarted : Bool := false
  hlcEvPauseBcbCount : Nat := 0
  hlcEvPauseStartOfBcb : Int := 0
  hlcEvPauseStartOfBcbSequence : Int := 0
  updatePwmLastDc : ℚ := 0
  lastPwmUpdate : Int := 0
  tStepEFReturnState : EvseState := .idle
  tStepEFReturnPwm : ℚ := 0
  tStepEFReturnAmpere : ℚ := 0
  switchingPhasesReturnState : EvseState := .disabled
  tStepX1ReturnState : EvseState := .idle
  tStepX1ReturnPwm : ℚ := 0
  lastOverCurrentEvent : Int := 0
  overCurrent : Bool := false
  lastShutdownType : ShutdownType := .none
  currentStateStarted : Int := 0
  lastStateDetectStateChange : EvseState := .disabled
  lastState : EvseState := .disabled
  ppWarningPrinted : Bool := false
  noEnergyWarningPrinted : Bool := false
  pwmSetLastAmpere : ℚ := 0
  tStepEfX1Pause : Bool := false
  pwmFActive : Bool := false
  fatalErrorBecameActive : Int := 0
  fatalErrorTimerRunning : Bool := false
deriving DecidableEq

def defaultSource : EnableDisableSource := ⟨.unspecified, .unassigned, 10000⟩

/-- The members of `Charger`, the key-value store behind `PersistentStore` and
the log of calls and signals, newest first. -/
structure Charger where
  shared : SharedContext := {}
  config : ConfigContext := {}
  internal : InternalContext := {}
  softOverCurrentTolerancePercent : ℚ := 10
  softOverCurrentMeasurementNoiseA : ℚ := 1 / 2
  hlcUse5percentCurrentSession : Bool := false
  acHlcEnabledCurrentSession : Bool := false
  connectorType : ConnectorType := .iec62196Type2Cable
  evseId : String := ""
  activeEnableDisableSource : EnableDisableSource := defaultSource
  enableDisableSourceTable : List EnableDisableSource := []
  storeActive : Bool := true
  storedSession : String := ""
  log : List Entry := []
deriving DecidableEq

/-- A session id; the generators never leave it empty. -/
abbrev SessionId : Type := { id : String // id ≠ "" }

def someSessionId : SessionId := ⟨"id", by decide⟩

/-- What a step reads from outside: the steady and the system clock, the cable,
the answers of the billing meters and a fresh session id. -/
structure Env where
  now : Int := 0
  systemNow : Int := 0
  ppAmpacity : ℚ := 0
  meterStart : List TransactionRequestStatus := []
  meterStop : List TransactionRequestStatus := []
  sessionId : SessionId := someSessionId

/-! ## Constants -/

def chargerAbsoluteMaxCurrent : ℚ := 1000
def legacyWakeupTimeout : Int := 30000
def preparingTimeoutPausedByEv : Int := 10000
def tpEvValdStateDurationMin : Int := 200 - 50
def tpEvValdStateDurationMax : Int := 400 + 50
def ttEvseValdToggle : Int := 3500 + 200
def pwm5Percent : ℚ := 5 / 100
def tReplugMs : Int := 4000
def tStepX1Ms : Int := 3000
def tStepEFMs : Int := 4000
def iecPwmMaxUpdateInterval : Int := 5000
def stayInX1AfterTstepEfMs : Int := 750

namespace Charger

/-! ## Signals -/

variable (s : Charger)

def emit (out : Out) : Charger :=
  { s with log := ⟨out, s.shared.shutdownType⟩ :: s.log }

def simpleEvent (event : SessionEvent) : Charger := s.emit (.simpleEvent event)

def setState (state : EvseState) : Charger :=
  { s with shared.currentState := state }

/-! ## PWM -/

variable (now : Int)

def updatePwmNow (dc : ℚ) (s : Charger) : Charger :=
  { s with
    shared.pwmRunning := true
    internal.updatePwmLastDc := dc
    internal.lastPwmUpdate := now
    internal.pwmFActive := false }.emit (.setPwm dc)

def updatePwmNowIfChanged (dc : ℚ) (s : Charger) : Charger :=
  if s.internal.updatePwmLastDc ≠ dc then s.updatePwmNow now dc else s

def ampereToDutyCycle (ampere : ℚ) : ℚ :=
  if ampere < 59 / 10 then 1
  else if ampere ≤ 61 / 10 then 1 / 10
  else if ampere < 525 / 10 then (if ampere > 51 then 51 else ampere) / (6 / 10) / 100
  else if ampere ≤ 80 then (ampere / (25 / 10) + 64) / 100
  else if ampere ≤ 801 / 10 then 97 / 100
  else 1

def setPwmLastAmpere (ampere : ℚ) (s : Charger) : Charger :=
  { s with internal.pwmSetLastAmpere := ampere }

def updatePwmNowIfChangedAmpere (ampere : ℚ) (s : Charger) : Charger :=
  if s.internal.updatePwmLastDc ≠ ampereToDutyCycle ampere then
    (s.updatePwmNow now (ampereToDutyCycle ampere)).setPwmLastAmpere ampere
  else s

def updatePwmMaxEvery5secondsAmpere (ampere : ℚ) (s : Charger) : Charger :=
  if s.internal.updatePwmLastDc ≠ ampereToDutyCycle ampere ∧
      iecPwmMaxUpdateInterval ≤ now - s.internal.lastPwmUpdate then
    (s.updatePwmNow now (ampereToDutyCycle ampere)).setPwmLastAmpere ampere
  else s

def pwmOff : Charger :=
  { s with
    shared.pwmRunning := false
    internal.updatePwmLastDc := 1
    internal.pwmSetLastAmpere := 0
    internal.pwmFActive := false }.emit .setPwmOff

def pwmF : Charger :=
  { s with
    shared.pwmRunning := false
    internal.updatePwmLastDc := 0
    internal.pwmSetLastAmpere := 0
    internal.pwmFActive := true }.emit .setPwmF

def pwmOffIfRunning : Charger := if s.shared.pwmRunning then s.pwmOff else s

/-! ## Power budget -/

def getMaxCurrentInternal : ℚ :=
  if s.connectorType = .iec62196Type2Socket ∧
      s.shared.maxCurrentCable < s.shared.maxCurrent ∧ s.shared.currentState ≠ .idle then
    s.shared.maxCurrentCable
  else s.shared.maxCurrent

def getMaxCurrentSignalledToEvInternal : ℚ :=
  if s.shared.hlcChargingActive then s.getMaxCurrentInternal else s.internal.pwmSetLastAmpere

variable (s : Charger)

/-- An expired budget falls back to zero; whole seconds count. -/
def expireBudget : Charger :=
  if 1000 ≤ now - s.shared.maxCurrentValidUntil ∧ 0 < s.shared.maxCurrent then
    { s with shared.maxCurrent := 0 }.emit (.maxCurrent 0)
  else s

/-- `power_available()`: the budget is expired, then compared. -/
def powerAvailable : Charger × Bool :=
  let s := s.expireBudget now
  (s, decide (59 / 10 < s.getMaxCurrentInternal))

/-! ## Over current -/

def overCurrentLimit : ℚ :=
  (s.getMaxCurrentSignalledToEvInternal + s.softOverCurrentMeasurementNoiseA) *
    (1 + s.softOverCurrentTolerancePercent / 100)

def drawsTooMuch : Bool :=
  decide (s.overCurrentLimit < |s.shared.currentDrawnByVehicle.1| ∨
    s.overCurrentLimit < |s.shared.currentDrawnByVehicle.2.1| ∨
    s.overCurrentLimit < |s.shared.currentDrawnByVehicle.2.2|)

def trackOverCurrent : Charger :=
  if s.drawsTooMuch then
    if s.internal.overCurrent then s
    else { s with internal.overCurrent := true, internal.lastOverCurrentEvent := now }
  else { s with internal.overCurrent := false }

def checkSoftOverCurrent : Charger :=
  let s := s.trackOverCurrent now
  if s.internal.overCurrent ∧
      s.config.softOverCurrentTimeoutMs ≤ now - s.internal.lastOverCurrentEvent then
    s.emit (.raiseError .overcurrent (.softOvercurrent s.shared.currentDrawnByVehicle.1
      s.shared.currentDrawnByVehicle.2.1 s.shared.currentDrawnByVehicle.2.2 s.overCurrentLimit))
  else s

/-! ## BCB toggles -/

def bcbToggleReset : Charger :=
  { s with internal.hlcEvPauseBcbCount := 0, internal.hlcBcbSequenceStarted := false }

def bcbToggleDetectStartPulse : Charger :=
  let s := { s with internal.hlcEvPauseStartOfBcb := now }
  if s.internal.hlcEvPauseBcbCount = 0 then
    { s with
      internal.hlcEvPauseStartOfBcbSequence := now
      internal.hlcBcbSequenceStarted := true }
  else s

def bcbToggleDetectStopPulse : Charger :=
  if s.internal.hlcBcbSequenceStarted then
    if tpEvValdStateDurationMin < now - s.internal.hlcEvPauseStartOfBcb ∧
        now - s.internal.hlcEvPauseStartOfBcb < tpEvValdStateDurationMax then
      { s with internal.hlcEvPauseBcbCount := s.internal.hlcEvPauseBcbCount + 1 }
    else { s with internal.hlcEvPauseBcbCount := 0 }
  else s

def bcbSequenceComplete : Bool :=
  s.internal.hlcBcbSequenceStarted &&
    decide (ttEvseValdToggle < now - s.internal.hlcEvPauseStartOfBcbSequence ∨
      3 ≤ s.internal.hlcEvPauseBcbCount)

/-- `bcb_toggle_detected()`: a complete sequence is consumed. -/
def bcbToggleDetected : Charger × Bool :=
  if s.bcbSequenceComplete now then ({ s with internal.hlcEvPauseBcbCount := 0 }, true)
  else (s, false)

/-! ## Sessions and transactions -/

def storeSession (id : String) (s : Charger) : Charger :=
  if s.storeActive then { s with storedSession := id } else s

def startSession (env : Env) (authfirst : Bool) (s : Charger) : Charger :=
  let reason : StartSessionReason := if authfirst then .authorized else .evConnected
  { s with
    shared.sessionActive := true
    shared.authorized := false
    shared.sessionUuid := env.sessionId.1
    shared.lastStartSessionReason := reason }.emit
      (.sessionStarted reason (if authfirst then some s.shared.idToken else none))

def stopSession : Charger :=
  let s := { s with shared.sessionActive := false, shared.authorized := false }.simpleEvent
    .sessionFinished
  { s with shared.sessionUuid := "" }

def transactionReq : TransactionReq where
  evseId := s.evseId
  transactionId := s.shared.sessionUuid
  identificationType := convertToOcmfIdentificationType s.shared.idToken.type
  identificationData := s.shared.idToken.value
  tariffText := s.shared.tariffMessages.head?

/-- Ask the billing meters one after the other; stop at the first failure if the
configuration says so. -/
def startMeters (s : Charger) : List TransactionRequestStatus → Charger × Bool
  | [] => (s, true)
  | status :: rest =>
    let s := s.emit (.meterStartTransaction s.transactionReq)
    if status = .unexpectedError ∧ s.config.failOnPowermeterErrors = true then
      (s.emit (.raiseError .powermeterTransactionStartFailed
        (.text "Failed to start transaction on the power meter")), false)
    else s.startMeters rest

/-- The flags are set before the meters are asked. -/
def beginTransaction : Charger :=
  { s with
    shared.stopTransactionIdToken := none
    shared.lastStopTransactionReason := none
    shared.transactionActive := true }

def startTransaction (env : Env) (s : Charger) : Charger × Bool :=
  let r := s.beginTransaction.startMeters env.meterStart
  if r.2 then
    ((r.1.storeSession r.1.shared.sessionUuid).emit
      (.transactionStarted r.1.shared.idToken), true)
  else (r.1, false)

def stopMeters (id : String) (s : Charger) : List TransactionRequestStatus → Charger
  | [] => s
  | status :: rest =>
    let s := s.emit (.meterStopTransaction id)
    if status = .notSupported then s.stopMeters id rest else s

def stopTransaction (env : Env) (s : Charger) : Charger :=
  let reason := s.shared.lastStopTransactionReason.getD .evDisconnected
  let s := { s with
    shared.transactionActive := false
    shared.lastStopTransactionReason := some reason }
  let s := (s.stopMeters s.shared.sessionUuid env.meterStop).storeSession ""
  (s.simpleEvent .chargingFinished).emit
    (.transactionFinished reason s.shared.stopTransactionIdToken)

def deauthorizeInternal : Charger × Bool :=
  if s.shared.sessionActive then
    let s := s.simpleEvent .deauthorized
    if s.shared.currentState = .disabled ∨ s.shared.currentState = .idle ∨
        s.shared.currentState = .waitingForAuthentication then
      if s.shared.authorized then
        ({ s with shared.authorized := false }.stopSession, true)
      else
        let s := s.simpleEvent .pluginTimeout
        (if s.config.raiseMrec9 then
            s.emit (.raiseError .authorizationTimeout
              (.text "No authorization was provided within timeout."))
          else s, false)
    else (s, false)
  else (s, false)

/-! ## Fatal errors -/

def dcSupplyOffIfDc : Charger :=
  if s.config.chargeMode = .dc then s.emit .dcSupplyOff else s

def emergencyShutdown : Charger :=
  s.pwmOffIfRunning.dcSupplyOffIfDc.emit (.allowPowerOn false .powerOff)

/-- The PWM stays on, so the error can be sent to the EV. -/
def errorShutdown : Charger :=
  (s.dcSupplyOffIfDc.emit (.allowPowerOn false .powerOff)).emit (.hlcError .emergencyShutdown)

def enteredFatalErrorState : Bool :=
  s.shared.shutdownType != .none && s.shared.lastShutdownType == .none

def timeInFatalErrorStateMs : Int :=
  if s.internal.fatalErrorTimerRunning then now - s.internal.fatalErrorBecameActive else 0

/-- The shutdown action is taken once, when the shutdown type changes. -/
def shutdownAction : Charger :=
  if s.shared.lastShutdownType = s.shared.shutdownType then s
  else
    match s.shared.shutdownType with
    | .emergencyShutdown =>
      { s with internal.fatalErrorBecameActive := now }.emergencyShutdown
    | .errorShutdown => { s with internal.fatalErrorBecameActive := now }.errorShutdown
    | .none => s

def stopChargingOnFatalErrorInternal : Charger × Bool :=
  let s := s.shutdownAction now
  let err := s.shared.shutdownType != .none
  ({ s with
      internal.fatalErrorTimerRunning := err
      shared.lastShutdownType := s.shared.shutdownType }, err)

def clearErrorsOnUnplug : Charger :=
  ((((((s.emit (.clearError .overcurrent)).emit (.clearError .internal)).emit
    (.clearError .powermeterTransactionStartFailed)).emit
    (.clearError .authorizationTimeout)).emit
    (.clearError .isolationResistanceFault)).emit (.clearError .cableCheckFault))

def pauseChargingWaitForPowerInternal : Charger × Bool :=
  if s.shared.currentState = .charging ∨ s.shared.currentState = .chargingPausedEV then
    (s.setState .waitingForEnergy, true)
  else (s, false)

end Charger

end EverestCore.Charging
