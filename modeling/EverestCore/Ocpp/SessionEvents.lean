import EverestCore.Ocpp.TransactionHandler

/-!
# Session events

`process_session_event` of `OCPP201.cpp` and the functions it dispatches to, for one EVSE.
Each of them updates the transaction data, submits an event to the transaction handler and
carries out its effect; `process_transaction_finished` submits up to two.

Left out are timestamps and meter values, the EVCC id that OCPP 2.1 adds to a token, and the
device model's `ConnectedEV`.
-/

namespace EverestCore.Ocpp

/-! ## Session events -/

inductive StopTransactionReason
  | emergencyStop | evDisconnected | hardReset | local | other | powerLoss | reboot | remote
  | softReset | unlockCommand | deAuthorized | energyLimitReached | groundFault
  | localOutOfCredit | masterPass | overcurrentFault | powerQuality | socLimitReached
  | stoppedByEV | timeLimitReached | timeout | reqEnergyTransferRejected
  deriving DecidableEq

inductive StartSessionReason
  | evConnected | authorized
  deriving DecidableEq

inductive AuthorizationType
  | ocpp | rfid | autocharge | plugAndCharge | bankCard
  deriving DecidableEq

structure ProvidedIdToken where
  idToken : Nat
  parentIdToken : Option Nat := none
  requestId : Option Nat := none
  authorizationType : AuthorizationType := .rfid
  deriving DecidableEq

/-- `types::evse_manager::SessionEventEnum`, with the context of each event. -/
inductive EventKind
  | sessionStarted (reason : StartSessionReason) (idTag : Option ProvidedIdToken)
      (reservationId : Option Nat)
  | sessionFinished
  | transactionStarted (idTag : ProvidedIdToken) (reservationId : Option Nat)
  | transactionFinished (reason : Option StopTransactionReason)
      (idTag : Option ProvidedIdToken)
  | chargingStarted
  | chargingResumed
  | chargingPausedEV
  | chargingPausedEVSE
  | disabled
  | enabled
  | authorized
  | deauthorized
  | reservationStart
  | reservationEnd
  /-- the events that are explicitly ignored -/
  | ignored
  deriving DecidableEq

structure SessionEvent where
  uuid : Nat
  connectorId : Option Nat := none
  kind : EventKind
  deriving DecidableEq

/-! ## Reasons -/

def toOcppReason : StopTransactionReason → Reason
  | .deAuthorized => .deAuthorized
  | .emergencyStop => .emergencyStop
  | .energyLimitReached => .energyLimitReached
  | .evDisconnected => .evDisconnected
  | .groundFault => .groundFault
  | .hardReset => .immediateReset
  | .local => .local
  | .localOutOfCredit => .localOutOfCredit
  | .masterPass => .masterPass
  | .other | .softReset | .unlockCommand => .other
  | .overcurrentFault => .overcurrentFault
  | .powerLoss => .powerLoss
  | .powerQuality => .powerQuality
  | .reboot => .reboot
  | .remote => .remote
  | .socLimitReached => .socLimitReached
  | .stoppedByEV => .stoppedByEV
  | .timeLimitReached => .timeLimitReached
  | .timeout => .timeout
  | .reqEnergyTransferRejected => .reqEnergyTransferRejected

def getTxEvent : Reason → TxEvent
  | .deAuthorized | .remote | .local | .masterPass | .stoppedByEV
  | .reqEnergyTransferRejected => .deauthorized
  | .evDisconnected => .evDisconnected
  | .immediateReset => .immediateReset
  | _ => .none

def stopReasonToTriggerReason : Reason → TriggerReason
  | .deAuthorized => .deauthorized
  | .energyLimitReached | .socLimitReached => .energyLimitReached
  | .evDisconnected => .evCommunicationLost
  | .immediateReset | .reboot => .resetCommand
  | .local | .masterPass | .stoppedByEV => .stopAuthorized
  | .localOutOfCredit => .chargingStateChanged
  | .remote => .remoteStop
  | .timeLimitReached => .timeLimitReached
  | .timeout => .evConnectTimeout
  | .emergencyStop | .groundFault | .powerQuality | .other | .reqEnergyTransferRejected
  | .overcurrentFault | .powerLoss => .abnormalCondition

/-! ## The charge point -/

inductive Call
  | onTransactionStarted (data : TransactionData)
  | onTransactionFinished (data : TransactionData)
  | onSessionStarted (connectorId : Nat)
  | onSessionFinished (connectorId : Nat)
  | onChargingStateChanged (state : ChargingState) (trigger : Option TriggerReason)
  | onAuthorized (connectorId : Nat) (idToken : Nat)
  | onEnabled (connectorId : Nat)
  | onUnavailable (connectorId : Nat)
  | onReserved (connectorId : Nat)
  | onReservationCleared (connectorId : Nat)
  deriving DecidableEq

/-- The module for one EVSE: its part of the transaction handler, and what has been called,
in order. -/
structure Evse where
  handler : TransactionHandler := {}
  calls : List Call := []
  deriving DecidableEq

variable (s : Evse)

def Evse.call (c : Call) : Evse := { s with calls := s.calls ++ [c] }

def Evse.update (f : TransactionData → TransactionData) : Evse :=
  { s with handler := { s.handler with data := s.handler.data.map f } }

/-! ## Processing -/

def Evse.processTxEventEffect (effect : TxEventEffect) : Evse :=
  match effect, s.handler.data with
  | .startTransaction, some data =>
    let data := { data with started := true }
    { s with handler := { s.handler with data := some data } }.call (.onTransactionStarted data)
  | .stopTransaction, some data =>
    { s with handler := { s.handler with data := none } }.call (.onTransactionFinished data)
  -- without data it throws, but then no event has an effect
  | _, _ => s

def Evse.submit (points : TxPoints) (event : TxEvent) : Evse :=
  let (handler, effect) := s.handler.submitEvent points event
  { s with handler := handler }.processTxEventEffect effect

def sessionData (event : SessionEvent) (connectorId : Nat) (reservationId : Option Nat) :
    StartSessionReason → Option ProvidedIdToken → TransactionData
  | .evConnected, _ =>
    { connectorId := connectorId, sessionId := event.uuid, triggerReason := .cablePluggedIn
      chargingState := .evConnected, reservationId := reservationId }
  | .authorized, none =>
    { connectorId := connectorId, sessionId := event.uuid, triggerReason := .authorized
      chargingState := .idle, reservationId := reservationId }
  | .authorized, some tag =>
    { connectorId := connectorId, sessionId := event.uuid
      triggerReason := if tag.authorizationType = .ocpp then .remoteStart else .authorized
      chargingState := .idle
      idToken := some tag.idToken
      groupIdToken := tag.parentIdToken
      reservationId := reservationId
      remoteStartId := tag.requestId }

variable (points : TxPoints)

variable (s : Evse)

variable (event : SessionEvent)

variable (connectorId : Nat)

/-- `process_session_started`; the data of the session before are replaced. -/
def processSessionStarted (reason : StartSessionReason) (idTag : Option ProvidedIdToken)
    (reservationId : Option Nat) : Evse :=
  let s := { s with handler := { s.handler with
    data := some (sessionData event connectorId reservationId reason idTag) } }
  match reason with
  | .evConnected => (s.submit points .evConnected).call (.onSessionStarted connectorId)
  | .authorized => s.submit points .authorized

def processSessionFinished : Evse :=
  let s := s.update ({ · with
    chargingState := .idle
    stopReason := .evDisconnected
    triggerReason := .evCommunicationLost })
  (s.submit points .evDisconnected).call (.onSessionFinished connectorId)

/-- The session was started by an authorization, so that the EV is plugged in now. -/
def TransactionData.authorizedFirst (data : TransactionData) : Bool :=
  data.triggerReason = .authorized || data.triggerReason = .remoteStart

def processTransactionStarted
    (idTag : ProvidedIdToken) (reservationId : Option Nat) : Evse :=
  match s.handler.data with
  | none =>
    ((s.call (.onSessionStarted connectorId)).submit points .authorized).submit points
      .evConnected
  | some data =>
    let trigger : TriggerReason :=
      if data.authorizedFirst then .cablePluggedIn else .authorized
    let trigger := if idTag.authorizationType = .ocpp then .remoteStart else trigger
    let s' := s.update ({ · with
      reservationId := reservationId.or data.reservationId
      remoteStartId := idTag.requestId
      idToken := some idTag.idToken
      groupIdToken := idTag.parentIdToken.or data.groupIdToken
      chargingState := if data.authorizedFirst then .evConnected else data.chargingState
      triggerReason := trigger })
    if data.authorizedFirst then
      (s'.call (.onSessionStarted connectorId)).submit points .evConnected
    else s'.submit points .authorized

def finishedState (data : TransactionData) (reason : Reason) (event : TxEvent) : ChargingState :=
  if reason = .evDisconnected then .idle
  else if reason = .immediateReset ∧ data.chargingState ≠ .idle then .evConnected
  else if event = .deauthorized then .evConnected
  else data.chargingState

def processTransactionFinished
    (reason : Option StopTransactionReason) (idTag : Option ProvidedIdToken) : Evse :=
  let ocppReason := (reason.map toOcppReason).getD .other
  let event := (reason.map (getTxEvent ∘ toOcppReason)).getD .none
  let s := s.update fun data => { data with
    triggerReason := stopReasonToTriggerReason ocppReason
    stopReason := ocppReason
    idToken := idTag.map (·.idToken)
    chargingState := finishedState data ocppReason event }
  let s := s.submit points event
  if event = .deauthorized then
    s.call (.onChargingStateChanged .evConnected
      (some (if ocppReason = .remote then .remoteStop else .stopAuthorized)))
  -- the authorization is always withdrawn
  else s.submit points .deauthorized

def processChargingStarted : Evse :=
  let s := s.update ({ · with triggerReason := .chargingStateChanged, chargingState := .charging })
  (s.submit points .energyTransferStarted).call (.onChargingStateChanged .charging none)

def processChargingResumed : Evse :=
  (s.update ({ · with chargingState := .charging })).call (.onChargingStateChanged .charging none)

def processChargingPausedEV : Evse :=
  let s := s.update ({ · with
    chargingState := .suspendedEV
    triggerReason := .chargingStateChanged
    stopReason := .stoppedByEV })
  (s.submit points .energyTransferStopped).call (.onChargingStateChanged .suspendedEV none)

def processChargingPausedEVSE : Evse :=
  let remote := s.handler.data.any (·.stopReason = .remote)
  let s := s.update fun data => { data with
    chargingState := .suspendedEVSE
    triggerReason := if remote then .chargingStateChanged else data.triggerReason }
  (s.submit points .energyTransferStopped).call (.onChargingStateChanged .suspendedEVSE
    (some (if remote then .remoteStop else .chargingStateChanged)))

def processDeauthorized : Evse :=
  (s.update ({ · with triggerReason := .stopAuthorized })).submit points .deauthorized

def dispatch : Evse :=
  match event.kind with
  | .sessionStarted reason idTag reservationId =>
    processSessionStarted points s event connectorId reason idTag reservationId
  | .sessionFinished => processSessionFinished points s connectorId
  | .transactionStarted idTag reservationId =>
    processTransactionStarted points s connectorId idTag reservationId
  | .transactionFinished reason idTag => processTransactionFinished points s reason idTag
  | .chargingStarted => processChargingStarted points s
  | .chargingResumed => processChargingResumed s
  | .chargingPausedEV => processChargingPausedEV points s
  | .chargingPausedEVSE => processChargingPausedEVSE points s
  | .disabled => s.call (.onUnavailable connectorId)
  | .enabled => s.call (.onEnabled connectorId)
  | .deauthorized => processDeauthorized points s
  | .reservationStart => s.call (.onReserved connectorId)
  | .reservationEnd => s.call (.onReservationCleared connectorId)
  -- authorizations are part of the session or the transaction that is started
  | .authorized | .ignored => s

def getAuthorizedIdToken : Option Nat :=
  match event.kind with
  | .sessionStarted _ idTag _ => idTag.map (·.idToken)
  | .transactionStarted idTag _ => some idTag.idToken
  | _ => none

def processSessionEvent : Evse :=
  let connectorId := event.connectorId.getD 1
  let s := dispatch points s event connectorId
  match getAuthorizedIdToken event with
  | some token => s.call (.onAuthorized connectorId token)
  | none => s

end EverestCore.Ocpp
