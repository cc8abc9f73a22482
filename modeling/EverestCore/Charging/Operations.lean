import EverestCore.Charging.StateMachine

/-!
# Operations of the charger

Every public operation, the main loop and the error thread. An operation holds
the state machine mutex from its call to its end, so the machine below is idle
when the next one starts; only `switch_three_phases_while_charging` takes no
lock. The passes of `run_state_machine` are steps of their own, because nothing
bounds their number.
-/

namespace EverestCore.Charging

open EverestCore.Iec (CpEvent)
open EverestCore.Evse (ErrorHandlingEvents handleEvent)

structure Setup where
  hasVentilation : Bool
  chargeMode : ChargeMode
  acHlcEnabled : Bool
  acHlcUse5percent : Bool
  acEnforceHlc : Bool
  acWithSocTimeout : Bool
  softOverCurrentTolerancePercent : ℚ
  softOverCurrentMeasurementNoiseA : ℚ
  switch3ph1phDelayS : Int
  switch3ph1phCpState : String
  softOverCurrentTimeoutMs : Int
  stateFAfterFaultMs : Int
  failOnPowermeterErrors : Bool
  raiseMrec9 : Bool
deriving DecidableEq

inductive Op where
  | setMaxCurrent (c : ℚ) (validUntil : Int)
  | setup (setup : Setup)
  | enableDisableInitialStatePublish
  | enableDisable (connectorId : Int) (source : EnableDisableSource)
  | authorize (a : Bool) (token : ProvidedIdToken) (tariffMessages : List String)
  | deauthorize
  | switchThreePhasesWhileCharging (n : Bool)
  | pauseCharging
  | pauseChargingWaitForPower
  | resumeCharging
  | resumeChargingPowerAvailable
  | cancelTransaction (request : StopTransactionRequest)
  | evseReplug
  | setCurrentDrawnByVehicle (l1 l2 l3 : ℚ)
  | processEvent (event : CpEvent)
  | requestErrorSequence
  | setMatchingStarted (m : Bool)
  | notifyCurrentdemandStarted
  | informNewEvseMaxHlcLimits (current power : ℚ)
  | dlinkPause
  | dlinkTerminate
  | dlinkError
  | setHlcChargingActive
  | setHlcAllowCloseContactor (on : Bool)
  | stopChargingOnFatalError
  | setConnectorType (t : ConnectorType)
  | cleanupTransactionsOnStartup
  | startMainThread
  | mainLoop
  | errorEvents (events : List ErrorHandlingEvents)
deriving DecidableEq

namespace Charger

/-! ## Enabling and disabling -/

def enableDisableSourceTableUpdate (source : EnableDisableSource) :
    List EnableDisableSource → List EnableDisableSource
  | [] => [source]
  | entry :: rest =>
    if entry.enableSource = source.enableSource then source :: rest
    else entry :: enableDisableSourceTableUpdate source rest

def compareSource (best : EnableDisableSource × Bool) (entry : EnableDisableSource) :
    EnableDisableSource × Bool :=
  if entry.enableState = .unassigned then best
  else if best.1.enableState = .unassigned then
    (entry, decide (entry.enableState ≠ .disable))
  else if entry.enablePriority = best.1.enablePriority then
    if entry.enableState = .disable then (entry, false) else best
  else if entry.enablePriority < best.1.enablePriority then
    (entry, decide (entry.enableState ≠ .disable))
  else best

def parseEnableDisableSourceTable (table : List EnableDisableSource) :
    EnableDisableSource × Bool :=
  table.foldl compareSource (defaultSource, true)

variable (s : Charger)

def enableDisableInitialStatePublish : Charger :=
  let disabled := decide (s.shared.currentState = .disabled)
  let s := s.simpleEvent (if disabled then .disabled else .enabled)
  let source : EnableDisableSource :=
    { defaultSource with enableState := if disabled then .disable else .enable }
  { s with
    enableDisableSourceTable := enableDisableSourceTableUpdate source s.enableDisableSourceTable
    activeEnableDisableSource := source }

/-- A change to or from Disable; Unassigned and Enable count as the same. -/
def disableChanged (last current : EnableState) : Bool :=
  (current == .disable || last == .disable) && current != last

def enableDisable (connectorId : Int) (source : EnableDisableSource) (s : Charger) :
    Charger × Bool :=
  let last := s.activeEnableDisableSource
  let table := enableDisableSourceTableUpdate source s.enableDisableSourceTable
  let winner := parseEnableDisableSourceTable table
  let isEnabled := winner.2
  let s := { s with
    enableDisableSourceTable := table
    activeEnableDisableSource := winner.1
    shared.connectorEnabled := if connectorId ≠ 0 then isEnabled else s.shared.connectorEnabled }
  let s := if s.shared.currentState = .disabled ∧ s.shared.connectorEnabled = true then
      s.setState .idle
    else s
  let s := if disableChanged last.enableState winner.1.enableState then
      if isEnabled then s.simpleEvent .enabled
      else (s.setState .disabled).simpleEvent .disabled
    else s
  (s.emit (.bspEnable isEnabled), isEnabled)

/-! ## Commands -/

def setMaxCurrent (env : Env) (c : ℚ) (validUntil : Int) (s : Charger) : Charger × Bool :=
  if |c| ≤ chargerAbsoluteMaxCurrent ∧ env.now < validUntil then
    let s := { s with shared.maxCurrent := |c|, shared.maxCurrentValidUntil := validUntil }
    let limit := s.getMaxCurrentInternal
    ((s.emit (.setOvercurrentLimit limit)).emit (.maxCurrent (if c < 0 then -limit else limit)),
      true)
  else (s, false)

def setup (args : Setup) (s : Charger) : Charger :=
  { s.emit (.bspSetup args.hasVentilation) with
    config :=
      { chargeMode := args.chargeMode
        acHlcEnabled := args.acHlcEnabled
        acHlcUse5percent := args.acHlcUse5percent
        acEnforceHlc := args.acEnforceHlc
        softOverCurrentTimeoutMs := args.softOverCurrentTimeoutMs
        switch3ph1phDelayS := args.switch3ph1phDelayS
        switch3ph1phCpStateF := args.switch3ph1phCpState == "F"
        stateFAfterFaultMs := args.stateFAfterFaultMs
        failOnPowermeterErrors := args.failOnPowermeterErrors
        raiseMrec9 := args.raiseMrec9 }
    acHlcEnabledCurrentSession := args.acHlcEnabled
    shared.acWithSocTimeout := args.acWithSocTimeout
    shared.acWithSocTimer := 3600000
    softOverCurrentTolerancePercent := args.softOverCurrentTolerancePercent
    softOverCurrentMeasurementNoiseA := args.softOverCurrentMeasurementNoiseA }

def authorize (env : Env) (a : Bool) (token : ProvidedIdToken) (tariffMessages : List String)
    (s : Charger) : Charger :=
  if a then
    let s := { s with shared.idToken := token, shared.tariffMessages := tariffMessages }
    let s := if s.shared.sessionActive then s else s.startSession env true
    { s.simpleEvent .authorized with
      shared.authorized := true
      shared.authorizedPnc := decide (token.authorizationType = .plugAndCharge) }
  else
    { (if s.shared.sessionActive then s.stopSession else s) with shared.authorized := false }

def switchThreePhasesWhileCharging (n : Bool) (s : Charger) : Charger × Bool :=
  if s.shared.hlcChargingActive then (s, false)
  else
    match s.shared.currentState with
    | .charging =>
      ({ s with
          shared.switch3ph1phThreephase := n
          shared.switch3ph1phThreephaseOngoing := true
          internal.switchingPhasesReturnState := .prepareCharging }.setState .switchPhases,
        true)
    | .switchPhases => ({ s with shared.switch3ph1phThreephase := n }, true)
    | .waitingForEnergy =>
      ({ s with
          shared.switch3ph1phThreephase := n
          shared.switch3ph1phThreephaseOngoing := true
          internal.switchingPhasesReturnState := .waitingForEnergy }.setState .switchPhases,
        true)
    | _ => (s.emit (.switchThreePhases n), true)

def pauseCharging : Charger × Bool :=
  if s.shared.currentState = .charging then
    let s := if s.shared.hlcChargingActive = true ∧ s.shared.transactionActive = true then
        s.emit .hlcPauseCharging
      else s
    ({ s with shared.legacyWakeupDone := false }.setState .chargingPausedEVSE, true)
  else (s, false)

def resumeCharging : Charger × Bool :=
  if s.shared.transactionActive = true ∧ s.shared.currentState = .chargingPausedEVSE then
    if s.shared.hlcChargingActive then
      let s := s.setState .prepareCharging
      (if s.shared.hlcChargingTerminatePause = .terminate then s.emit .slacStart else s, true)
    else (s.setState .waitingForEnergy, true)
  else (s, false)

def resumeChargingPowerAvailable (env : Env) (s : Charger) : Charger × Bool :=
  if s.shared.transactionActive = true ∧ s.shared.currentState = .waitingForEnergy then
    let r := s.powerAvailable env.now
    if r.2 then (r.1.setState .prepareCharging, true) else (r.1, false)
  else (s, false)

/-- Stop HLC charging, or pause basic charging with the PWM off. -/
def interruptCharging (reason : StopTransactionReason) (s : Charger) : Charger :=
  if s.shared.hlcChargingActive then
    let s := match reason with
      | .emergencyStop => s.emit (.hlcError .emergencyShutdown)
      | .powerLoss => s.emit (.hlcError .utilityInterruptEvent)
      | _ => s
    (s.setState .stoppingCharging).emit .hlcStopCharging
  else (s.setState .chargingPausedEVSE).pwmOff

/-- The transaction itself is only stopped here if the contactor is already open;
otherwise it is stopped when the contactor opens. -/
def cancelTransaction (env : Env) (request : StopTransactionRequest) (s : Charger) :
    Charger × Bool :=
  if s.shared.transactionActive then
    let s := { s.interruptCharging request.reason with
      shared.authorized := false
      shared.authorizedPnc := false
      shared.lastStopTransactionReason := some request.reason
      shared.stopTransactionIdToken := request.idTag }
    (if s.shared.contactorOpen then s.stopTransaction env else s, true)
  else (s, false)

def requestErrorSequence : Charger :=
  if s.shared.currentState = .waitingForAuthentication ∨
      s.shared.currentState = .prepareCharging then
    { s with
      internal.tStepEFReturnState := s.shared.currentState
      internal.tStepEFReturnAmpere := 0
      internal.tStepEFReturnPwm := if s.hlcUse5percentCurrentSession then pwm5Percent else 0
      shared.currentState := .tStepEF }.emit .slacReset
  else s

def notifyCurrentdemandStarted : Charger :=
  if s.shared.currentState = .prepareCharging then
    (s.simpleEvent .chargingStarted).setState .charging
  else s

def dlinkDown (how : HlcTerminatePause) (s : Charger) : Charger :=
  { { s with shared.hlcAllowCloseContactor := false }.pwmOff with
    shared.hlcChargingTerminatePause := how }

/-- Restart the session through X1 and E/F, but only out of the 5 percent mode. -/
def dlinkError : Charger :=
  let s := { s with shared.hlcAllowCloseContactor := false }
  if s.shared.pwmRunning = true ∧ s.hlcUse5percentCurrentSession = true then
    { s with
      internal.tStepX1ReturnState := .tStepEF
      internal.tStepX1ReturnPwm := 0
      internal.tStepEFReturnState := .waitingForAuthentication
      internal.tStepEFReturnPwm := 0
      internal.tStepEFReturnAmpere := 0 }.setState .tStepX1
  else s

/-- Close what a power loss left open: a stored transaction first, then anything
the meters still run. -/
def cleanupTransactionsOnStartup (env : Env) (s : Charger) : Charger :=
  let stored := if s.storeActive then s.storedSession else ""
  let s := if stored ≠ "" then
      ((s.storeSession "").stopMeters stored env.meterStop).emit
        (.transactionFinished .powerLoss none)
    else s
  env.meterStop.foldl (fun s _ => s.emit (.meterStopTransaction "")) s

def startMainThread : Charger :=
  ((s.emit (.bspEnable true)).emit (.maxCurrent s.getMaxCurrentInternal)).emit
    (.state s.shared.currentState)

def handleErrorEvents (events : List ErrorHandlingEvents) (s : Charger) : Charger :=
  { s with shared.shutdownType := events.foldl handleEvent s.shared.shutdownType }

end Charger

/-! ## The machine -/

/-- What a running operation still has to do. -/
inductive Micro where
  | powerAvailable
  | pass
  | independent (event : CpEvent)
  | state (event : CpEvent)
deriving DecidableEq

/-- The immediate part of an operation, its result (`true` for none), and what it
still has to do. -/
def Charger.call (env : Env) (s : Charger) : Op → Charger × Bool × List Micro
  | .setMaxCurrent c validUntil =>
    ((s.setMaxCurrent env c validUntil).1, (s.setMaxCurrent env c validUntil).2, [])
  | .setup args => (s.setup args, true, [])
  | .enableDisableInitialStatePublish => (s.enableDisableInitialStatePublish, true, [])
  | .enableDisable connectorId source =>
    ((s.enableDisable connectorId source).1, (s.enableDisable connectorId source).2, [])
  | .authorize a token tariffMessages => (s.authorize env a token tariffMessages, true, [])
  | .deauthorize => (s.deauthorizeInternal.1, s.deauthorizeInternal.2, [])
  | .switchThreePhasesWhileCharging n =>
    ((s.switchThreePhasesWhileCharging n).1, (s.switchThreePhasesWhileCharging n).2, [])
  | .pauseCharging => (s.pauseCharging.1, s.pauseCharging.2, [])
  | .pauseChargingWaitForPower =>
    (s.pauseChargingWaitForPowerInternal.1, s.pauseChargingWaitForPowerInternal.2, [])
  | .resumeCharging => (s.resumeCharging.1, s.resumeCharging.2, [])
  | .resumeChargingPowerAvailable =>
    ((s.resumeChargingPowerAvailable env).1, (s.resumeChargingPowerAvailable env).2, [])
  | .cancelTransaction request =>
    ((s.cancelTransaction env request).1, (s.cancelTransaction env request).2, [])
  | .evseReplug => (s.emit (.evseReplug tReplugMs), true, [])
  | .setCurrentDrawnByVehicle l1 l2 l3 =>
    ({ s with shared.currentDrawnByVehicle := (l1, l2, l3) }, true, [])
  | .processEvent event =>
    (s, true, [.pass, .independent event, .pass, .state event, .pass])
  | .requestErrorSequence => (s.requestErrorSequence, true, [])
  | .setMatchingStarted m => ({ s with shared.matchingStarted := m }, true, [])
  | .notifyCurrentdemandStarted => (s.notifyCurrentdemandStarted, true, [])
  | .informNewEvseMaxHlcLimits current power =>
    ({ s with
        shared.evseMaximumCurrentLimit := current
        shared.evseMaximumPowerLimit := power }, true, [])
  | .dlinkPause => (s.dlinkDown .pause, true, [])
  | .dlinkTerminate => (s.dlinkDown .terminate, true, [])
  | .dlinkError => (s.dlinkError, true, [])
  | .setHlcChargingActive => ({ s with shared.hlcChargingActive := true }, true, [])
  | .setHlcAllowCloseContactor on =>
    ({ s with shared.hlcAllowCloseContactor := on }, true, [])
  | .stopChargingOnFatalError =>
    ((s.stopChargingOnFatalErrorInternal env.now).1,
      (s.stopChargingOnFatalErrorInternal env.now).2, [])
  | .setConnectorType t => ({ s with connectorType := t }, true, [])
  | .cleanupTransactionsOnStartup => (s.cleanupTransactionsOnStartup env, true, [])
  | .startMainThread => (s.startMainThread, true, [])
  | .mainLoop => (s, true, [.powerAvailable, .pass])
  | .errorEvents events => (s.handleErrorEvents events, true, [])

/-- The constructor. A socket reads its cable once here. -/
def Charger.create (env : Env) (storeActive : Bool) (connectorType : ConnectorType)
    (evseId : String) : Charger where
  shared :=
    { maxCurrentCable := if connectorType = .iec62196Type2Socket then env.ppAmpacity else 0 }
  connectorType := connectorType
  evseId := evseId
  storeActive := storeActive

/-- The charger and the rest of the running operation; none when the mutex is
free. -/
structure Config where
  charger : Charger := {}
  todo : List Micro := []
deriving DecidableEq

/-- A call, one piece of the running operation, or the one call without a lock. -/
inductive Label where
  | call (env : Env) (op : Op)
  | run (env : Env)
  | switchThreePhases (n : Bool)

/-- One piece of the running operation; a pass that changed the state is followed
by another one. -/
def Charger.micro (env : Env) (s : Charger) : Micro → Charger × List Micro
  | .powerAvailable => ((s.powerAvailable env.now).1, [])
  | .pass => ((s.pass env).1, if (s.pass env).2 then [.pass] else [])
  | .independent event => (s.processCpEventsIndependent env event, [])
  | .state event => (s.processCpEventsState env event, [])

def step (c : Config) : Label → Config
  | .call env op =>
    if c.todo = [] then
      { charger := (c.charger.call env op).1, todo := (c.charger.call env op).2.2 }
    else c
  | .run env =>
    match c.todo with
    | [] => c
    | micro :: rest =>
      { charger := (c.charger.micro env micro).1
        todo := (c.charger.micro env micro).2 ++ rest }
  | .switchThreePhases n =>
    { c with charger := (c.charger.switchThreePhasesWhileCharging n).1 }

/-! ## Scenarios -/

def dcSetup : Setup where
  hasVentilation := false
  chargeMode := .dc
  acHlcEnabled := false
  acHlcUse5percent := false
  acEnforceHlc := false
  acWithSocTimeout := false
  softOverCurrentTolerancePercent := 10
  softOverCurrentMeasurementNoiseA := 1 / 2
  switch3ph1phDelayS := 10
  switch3ph1phCpState := "X1"
  softOverCurrentTimeoutMs := 7000
  stateFAfterFaultMs := 300
  failOnPowermeterErrors := false
  raiseMrec9 := false

def tick (env : Env) (n : Nat) : List Label :=
  .call env .mainLoop :: List.replicate (n + 1) (.run env)

def cpEvent (event : CpEvent) (n : Nat) : List Label :=
  .call {} (.processEvent event) :: List.replicate (n + 2) (.run {})

/-- A basic AC session up to charging with a closed contactor. -/
def chargingAc : List Label :=
  cpEvent .carPluggedIn 3 ++
    [.call {} (.setMaxCurrent 16 60000), .call {} (.authorize true {} [])] ++
    tick {} 2 ++ cpEvent .carRequestedPower 4 ++ cpEvent .powerOn 3

end EverestCore.Charging
