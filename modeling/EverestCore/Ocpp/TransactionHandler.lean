import Mathlib.Data.List.Basic

/-!
# The transaction handler

`transaction_handler.hpp` and `transaction_handler.cpp`. The events of an EVSE accumulate as
level conditions; the configured start and stop points read them and decide when an OCPP
transaction starts and stops. The maps of the handler are indexed by the EVSE, so one EVSE
is modelled.

Timestamps and meter values only pass through and are left out.
-/

namespace EverestCore.Ocpp

/-! ## Points, events and effects -/

inductive TxStartStopPoint
  | parkingBayOccupancy | evConnected | authorized | powerPathClosed | energyTransfer
  | dataSigned
  deriving DecidableEq

inductive TxEvent
  | none | evConnected | evDisconnected | authorized | deauthorized | parkingBayOccupied
  | parkingBayUnoccupied | energyTransferStarted | energyTransferStopped
  | signedStartDataReceived | immediateReset
  deriving DecidableEq

inductive TxEventEffect
  | startTransaction | stopTransaction | none
  deriving DecidableEq

inductive TriggerReason
  | authorized | cablePluggedIn | remoteStart | chargingStateChanged | evCommunicationLost
  | stopAuthorized | remoteStop | deauthorized | abnormalCondition | energyLimitReached
  | resetCommand | timeLimitReached | evConnectTimeout
  deriving DecidableEq

inductive ChargingState
  | charging | evConnected | suspendedEV | suspendedEVSE | idle
  deriving DecidableEq

inductive Reason
  | deAuthorized | emergencyStop | energyLimitReached | evDisconnected | groundFault
  | immediateReset | masterPass | local | localOutOfCredit | other | overcurrentFault
  | powerLoss | powerQuality | reboot | remote | socLimitReached | stoppedByEV
  | timeLimitReached | timeout | reqEnergyTransferRejected
  deriving DecidableEq

/-! ## Conditions -/

structure TxStartStopConditions where
  isAuthorized : Bool := false
  isEvConnected : Bool := false
  isParkingBayOccupied : Bool := false
  isEnergyTransfered : Bool := false
  isSignedDataReceived : Bool := false
  isImmediateReset : Bool := false
  deriving DecidableEq

variable (c : TxStartStopConditions)

def TxStartStopConditions.submitEvent :
    TxEvent → TxStartStopConditions
  | .evConnected => { c with isEvConnected := true }
  | .evDisconnected => { c with isEvConnected := false, isEnergyTransfered := false }
  | .authorized => { c with isAuthorized := true }
  | .deauthorized => { c with isAuthorized := false }
  | .parkingBayOccupied => { c with isParkingBayOccupied := true }
  | .parkingBayUnoccupied => { c with isParkingBayOccupied := false }
  | .energyTransferStarted => { c with isEnergyTransfered := true }
  | .energyTransferStopped => { c with isEnergyTransfered := false }
  | .signedStartDataReceived => { c with isSignedDataReceived := true }
  | .immediateReset => { c with isImmediateReset := true }
  | .none => c

def TxStartStopConditions.isStartConditionFullfilled :
    TxStartStopPoint → Bool
  | .parkingBayOccupancy => c.isParkingBayOccupied
  | .evConnected => c.isEvConnected
  | .authorized => c.isAuthorized
  | .powerPathClosed => c.isAuthorized && c.isEvConnected
  | .energyTransfer => c.isEnergyTransfered
  | .dataSigned => c.isSignedDataReceived

def TxStartStopConditions.isStopConditionFullfilled
    (point : TxStartStopPoint) : Bool :=
  if c.isImmediateReset then true
  else
    match point with
    | .parkingBayOccupancy => !c.isParkingBayOccupied
    | .evConnected => !c.isEvConnected
    | .authorized => !c.isAuthorized
    | .powerPathClosed => !c.isAuthorized || !c.isEvConnected
    | .energyTransfer => !c.isEnergyTransfered
    | .dataSigned => false

/-! ## The handler -/

/-- `TransactionData`; tokens and ids are numbers. -/
structure TransactionData where
  started : Bool := false
  connectorId : Nat
  sessionId : Nat
  triggerReason : TriggerReason
  chargingState : ChargingState
  stopReason : Reason := .other
  idToken : Option Nat := none
  groupIdToken : Option Nat := none
  reservationId : Option Nat := none
  remoteStartId : Option Nat := none
  deriving DecidableEq

/-- The start and stop points; the constructor throws if either set is empty. -/
structure TxPoints where
  start : List TxStartStopPoint
  stop : List TxStartStopPoint
  start_ne_nil : start ≠ []
  stop_ne_nil : stop ≠ []

structure TransactionHandler where
  conditions : TxStartStopConditions := {}
  data : Option TransactionData := none
  deriving DecidableEq

def TransactionHandler.shouldTransactionStart (h : TransactionHandler) (points : TxPoints) :
    Bool :=
  match h.data with
  | none => false
  | some data => !data.started && points.start.any h.conditions.isStartConditionFullfilled

def TransactionHandler.shouldTransactionStop (h : TransactionHandler) (points : TxPoints) :
    Bool :=
  match h.data with
  | none => false
  | some data => data.started && points.stop.any h.conditions.isStopConditionFullfilled

def TransactionHandler.submitEvent (h : TransactionHandler) (points : TxPoints)
    (event : TxEvent) : TransactionHandler × TxEventEffect :=
  let h := { h with conditions := h.conditions.submitEvent event }
  if h.shouldTransactionStart points then (h, .startTransaction)
  else if h.shouldTransactionStop points then (h, .stopTransaction)
  else (h, .none)

end EverestCore.Ocpp
