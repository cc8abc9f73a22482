import EverestCore.Lib.Permutations
import Mathlib.Tactic.Linarith

/-!
# The reservation handler of the Auth module

A reservation is made for one EVSE, or globally for any EVSE with a fitting connector. A
global reservation is accepted only if the cars can arrive in any order and park at any
EVSE that is usable for them.

`std::next_permutation` and `std::prev_permutation` are taken by their effect; times are
numbers. Callbacks are not part of the handler: the ids it cancels are returned.
-/

namespace EverestCore.Auth

open EverestCore.Lib

/-! ## EVSEs and connectors -/

inductive ConnectorTypeEnum
  | cCCS1
  | cCCS2
  | cG105
  | cTesla
  | cType1
  | cType2
  | s309_1P_16A
  | s309_1P_32A
  | s309_3P_16A
  | s309_3P_32A
  | sBS1361
  | sCEE_7_7
  | sType2
  | sType3
  | other1PhMax16A
  | other1PhOver16A
  | other3Ph
  | pan
  | wInductive
  | wResonant
  | undetermined
  | unknown
  deriving DecidableEq

/-- Connector types are ordered as they are declared. -/
instance : LinearOrder ConnectorTypeEnum :=
  LinearOrder.lift' ConnectorTypeEnum.ctorIdx
    (Function.LeftInverse.injective ConnectorTypeEnum.ofNat_ctorIdx)

/-- The states of a connector, in the order that `getNewConnectorState` relies on. -/
inductive ConnectorState
  | available
  | unavailable
  | faulted
  | occupied
  | unavailableFaulted
  | faultedOccupied
  deriving DecidableEq

structure Connector where
  id : Nat
  type : ConnectorTypeEnum := .unknown
  state : ConnectorState := .available
  deriving DecidableEq

structure EvseContext where
  connectors : List Connector
  pluggedIn : Bool := false
  deriving DecidableEq

abbrev Evses := Std.TreeMap Nat EvseContext

/-- A connector fits a type if one of the two is unknown or they are the same. -/
def Connector.fits (connector : Connector) (type : ConnectorTypeEnum) : Bool :=
  connector.type = type || connector.type = .unknown || type = .unknown

/-! ## Reservations -/

structure Reservation where
  reservationId : Int
  evseId : Option Int := none
  idToken : String
  expiryTime : Int
  parentIdToken : Option String := none
  connectorType : Option ConnectorTypeEnum := none
  deriving DecidableEq

def Reservation.carType (reservation : Reservation) : ConnectorTypeEnum :=
  reservation.connectorType.getD .unknown

abbrev EvseReservations := Std.TreeMap Nat Reservation

inductive ReservationResult
  | accepted
  | faulted
  | occupied
  | rejected
  | unavailable
  deriving DecidableEq

def connectorStateToReservationResult : ConnectorState → ReservationResult
  | .available => .accepted
  | .unavailable => .unavailable
  | .faulted => .faulted
  | .unavailableFaulted => .faulted
  | .faultedOccupied => .faulted
  | .occupied => .occupied

/-! ## Checks of one EVSE -/

def hasEvseConnectorType (evseConnectors : List Connector) (connectorType : ConnectorTypeEnum) :
    Bool :=
  connectorType = .unknown ||
    evseConnectors.any fun connector =>
      connector.type = .unknown || connector.type = connectorType

variable (evses : Evses)

def doesEvseConnectorTypeExist (connectorType : ConnectorTypeEnum) : Bool :=
  evses.toList.any fun entry => hasEvseConnectorType entry.2.connectors connectorType

def getEvseConnectorStateReservationResult
    (evseSpecificReservations : EvseReservations) (evseId : Nat) : ReservationResult :=
  match evses[evseId]? with
  | none => .rejected
  | some evse =>
    if evse.pluggedIn then connectorStateToReservationResult .occupied
    else
      -- only one connector of an EVSE can be used at a time
      match evse.connectors.find? fun connector =>
        connector.state = .occupied || connector.state = .faultedOccupied with
      | some connector => connectorStateToReservationResult connector.state
      | none => if evseSpecificReservations.contains evseId then .occupied else .accepted

/-- The worse of two states, as far as it is reported. -/
def getNewConnectorState (currentState newState : ConnectorState) : ConnectorState :=
  if newState = .occupied then .occupied
  else if newState.ctorIdx > currentState.ctorIdx then
    if newState.ctorIdx > ConnectorState.occupied.ctorIdx then
      if newState = .faultedOccupied then .occupied
      else if newState = .unavailableFaulted then
        if currentState ≠ .occupied then .faulted else currentState
      else currentState
    else newState
  else currentState

/-- The first fitting connector that is available decides; otherwise the states of the
fitting connectors are combined. -/
def connectorAvailability (connectorType : ConnectorTypeEnum) :
    ConnectorState → List Connector → ReservationResult
  | connectorState, [] => connectorStateToReservationResult connectorState
  | connectorState, connector :: rest =>
    if connector.fits connectorType then
      if connector.state = .available then .accepted
      else
        connectorAvailability connectorType
          (getNewConnectorState connectorState connector.state) rest
    else connectorAvailability connectorType connectorState rest

def getConnectorAvailabilityReservationResult (evseId : Nat)
    (connectorType : ConnectorTypeEnum) : ReservationResult :=
  match evses[evseId]? with
  | none => .rejected
  | some evse => connectorAvailability connectorType .unavailable evse.connectors

/-! ## Arrival orders -/

def getAllPossibleOrders (connectors : List ConnectorTypeEnum) :
    List (List ConnectorTypeEnum) :=
  if connectors = [] then [] else allOrders connectors

/-- The loop over the EVSEs for the next car: it must find one, and each one it may choose
must leave room for the cars that follow. -/
def tryEvses (evses : Evses) (evseSpecificReservations : EvseReservations)
    (usedEvseIds : List Nat) (nextCar : ConnectorTypeEnum) (isLast : Bool)
    (nextLevel : List Nat → Bool) : Bool → List (Nat × EvseContext) → Bool
  | isPossible, [] => isPossible
  | isPossible, (evseId, evse) :: rest =>
    if evseId ∈ usedEvseIds then
      tryEvses evses evseSpecificReservations usedEvseIds nextCar isLast nextLevel isPossible rest
    else if getEvseConnectorStateReservationResult evses evseSpecificReservations evseId =
          .accepted ∧
        hasEvseConnectorType evse.connectors nextCar ∧
        getConnectorAvailabilityReservationResult evses evseId nextCar = .accepted then
      if isLast then true
      else if nextLevel (usedEvseIds ++ [evseId]) then
        tryEvses evses evseSpecificReservations usedEvseIds nextCar isLast nextLevel true rest
      else false
    else
      tryEvses evses evseSpecificReservations usedEvseIds nextCar isLast nextLevel isPossible rest

/-- Whether the cars can arrive in the given order. The order is never empty. -/
def canVirtualCarArrive (evses : Evses) (evseSpecificReservations : EvseReservations) :
    List Nat → List ConnectorTypeEnum → Bool
  | _, [] => false
  | usedEvseIds, nextCar :: nextArrivalOrder =>
    tryEvses evses evseSpecificReservations usedEvseIds nextCar nextArrivalOrder.isEmpty
      (fun nextUsedEvseIds =>
        canVirtualCarArrive evses evseSpecificReservations nextUsedEvseIds nextArrivalOrder)
      false evses.toList

/-- The cars to expect: one for each global reservation, and the new one. -/
def carTypes (globalReservationType : Option ConnectorTypeEnum)
    (reservationsNoEvse : List Reservation) : List ConnectorTypeEnum :=
  reservationsNoEvse.map Reservation.carType ++ globalReservationType.toList

def isReservationPossible (globalReservationType : Option ConnectorTypeEnum)
    (reservationsNoEvse : List Reservation) (evseSpecificReservations : EvseReservations) : Bool :=
  let types := carTypes globalReservationType reservationsNoEvse
  if types.length + evseSpecificReservations.size > evses.size then false
  else (getAllPossibleOrders types).all (canVirtualCarArrive evses evseSpecificReservations [])

/-! ## The handler -/

structure StoredReservation where
  evseId : Option Nat
  reservation : Reservation
  deriving DecidableEq

structure ReservationHandler where
  evses : Evses
  evseReservations : EvseReservations := {}
  globalReservations : List Reservation := []
  -- the reservation ids with a running timer
  timers : List Int := []
  lastReservedStatus : List Nat := []
  -- the array in the key value store, if a store is configured
  store : Option (List StoredReservation) := none

namespace ReservationHandler

variable (h : ReservationHandler)

/-- The current reservations, in the order in which they are stored. -/
def content : List StoredReservation :=
  (h.evseReservations.toList.map fun entry => ⟨some entry.1, entry.2⟩) ++
    h.globalReservations.map fun reservation => ⟨none, reservation⟩

def storeReservations : ReservationHandler :=
  if h.store.isSome ∧ h.content ≠ [] then { h with store := some h.content } else h

variable (reservationId : Int)

/-- The EVSE of a reservation. If several EVSEs had it, the last one would count. -/
def evseOf : Option Nat :=
  h.evseReservations.foldl
    (fun evseId key reservation =>
      if reservation.reservationId = reservationId then some key else evseId) none

def removeReservation : ReservationHandler :=
  match h.evseOf reservationId with
  | some evseId => { h with evseReservations := h.evseReservations.erase evseId }
  | none =>
    { h with
      globalReservations := h.globalReservations.eraseP fun reservation =>
        reservation.reservationId = reservationId }

/-- Whether a reservation was cancelled, with its EVSE. Only a reservation with a timer can
be cancelled. -/
def cancelReservation :
    (Bool × Option Nat) × ReservationHandler :=
  if reservationId ∈ h.timers then
    let evseId := h.evseOf reservationId
    let stopped := { h with timers := h.timers.erase reservationId }
    ((true, evseId), (stopped.removeReservation reservationId).storeReservations)
  else ((false, none), h)

def setReservationTimer (reservation : Reservation) :
    ReservationHandler :=
  { h with timers := reservation.reservationId :: h.timers.erase reservation.reservationId }

def getAllEvsesWithConnectorType (connectorType : ConnectorTypeEnum) :
    List EvseContext :=
  (h.evses.toList.map Prod.snd).filter fun evse =>
    hasEvseConnectorType evse.connectors connectorType

/-- The result reported for a reservation that is not possible. -/
def getReservationEvseConnectorState (connectorType : ConnectorTypeEnum) :
    ReservationResult :=
  if h.globalReservations ≠ [] ∨ ¬ h.evseReservations.isEmpty then .occupied
  else if h.evses.toList.any fun entry => entry.2.pluggedIn then
    connectorStateToReservationResult .occupied
  else
    let evsesWithConnectorType := h.getAllEvsesWithConnectorType connectorType
    if evsesWithConnectorType = [] then .rejected
    else
      let connectors :=
        (evsesWithConnectorType.flatMap EvseContext.connectors).filter fun connector =>
          connector.fits connectorType && connector.state ≠ .available
      connectorStateToReservationResult
        (connectors.foldl (fun state connector => getNewConnectorState state connector.state)
          .unavailable)

def makeEvseReservation (evseId : Nat) (reservation : Reservation) :
    ReservationResult × ReservationHandler :=
  let evseState := getEvseConnectorStateReservationResult h.evses h.evseReservations evseId
  let connectorState :=
    getConnectorAvailabilityReservationResult h.evses evseId reservation.carType
  let reserved := { h with evseReservations := h.evseReservations.insert evseId reservation }
  if h.evseReservations.contains evseId then (.occupied, h)
  else
    match h.evses[evseId]? with
    | none => (.rejected, h)
    | some evse =>
      if ¬ hasEvseConnectorType evse.connectors reservation.carType then (.rejected, h)
      else if evseState ≠ .accepted then (evseState, h)
      else if connectorState ≠ .accepted then (connectorState, h)
      else if h.globalReservations = [] then (.accepted, reserved.setReservationTimer reservation)
      else if isReservationPossible h.evses none h.globalReservations
          reserved.evseReservations then
        (.accepted, reserved.setReservationTimer reservation)
      else (h.getReservationEvseConnectorState reservation.carType, h)

def makeGlobalReservation (reservation : Reservation) :
    ReservationResult × ReservationHandler :=
  if (reservation.connectorType.any fun type => !doesEvseConnectorTypeExist h.evses type) then
    (.rejected, h)
  else if isReservationPossible h.evses (some reservation.carType) h.globalReservations
      h.evseReservations then
    let reserved :=
      { h with globalReservations := h.globalReservations ++ [reservation] }.storeReservations
    (.accepted, reserved.setReservationTimer reservation)
  else (h.getReservationEvseConnectorState reservation.carType, h)

/-- A reservation with a known id replaces the old one, also if it is then rejected. -/
def makeReservation (now : Int) (evseId : Option Nat)
    (reservation : Reservation) : ReservationResult × ReservationHandler :=
  if now > reservation.expiryTime then (.rejected, h)
  else
    let h := (h.cancelReservation reservation.reservationId).2
    match evseId with
    | some evseId => h.makeEvseReservation evseId reservation
    | none => h.makeGlobalReservation reservation

/-- The reservations in the store are made again. Those that are not accepted are returned. -/
def loadReservations (now : Int) :
    List StoredReservation × ReservationHandler :=
  (h.store.getD []).foldl
    (fun loaded stored =>
      let made := loaded.2.makeReservation now stored.evseId stored.reservation
      if made.1 = .accepted then (loaded.1, made.2) else (loaded.1 ++ [stored], made.2))
    ([], h)

/-! ## Failed connectors -/

def recheckEvseReservations : EvseReservations × List Int :=
  h.evseReservations.foldl
    (fun kept evseId reservation =>
      let evseSpecificReservations := kept.1.insert evseId reservation
      if isReservationPossible h.evses none [] evseSpecificReservations then
        (evseSpecificReservations, kept.2)
      else (evseSpecificReservations.erase evseId, kept.2 ++ [reservation.reservationId]))
    ({}, [])

def recheckGlobalReservations (evses : Evses) (evseSpecificReservations : EvseReservations) :
    List Reservation → List Reservation × List Int → List Reservation × List Int
  | [], kept => kept
  | reservation :: rest, kept =>
    recheckGlobalReservations evses evseSpecificReservations rest
      (if isReservationPossible evses reservation.connectorType kept.1
          evseSpecificReservations then
        (kept.1 ++ [reservation], kept.2)
      else (kept.1, kept.2 ++ [reservation.reservationId]))

def impossibleReservations : List Int :=
  let evseKept := h.recheckEvseReservations
  (recheckGlobalReservations h.evses evseKept.1 h.globalReservations ([], evseKept.2)).2

def reservationOfConnector (evseId : Nat) (connector : Connector) :
    Option Reservation :=
  h.evseReservations[evseId]?.filter fun reservation =>
    reservation.connectorType.any fun type =>
      connector.type = type || connector.type = .unknown || type = .unknown

/-- The ids to cancel when a connector has changed its state, in this order. -/
def connectorCancellations (connectorState : ConnectorState)
    (evseId connectorId : Nat) : List Int :=
  if connectorState = .available then []
  else
    match h.evses[evseId]? with
    | none => []
    | some evse =>
      match evse.connectors.find? fun connector => connector.id = connectorId with
      | none => []
      | some connector =>
        match h.reservationOfConnector evseId connector with
        | some reservation => [reservation.reservationId]
        | none => h.impossibleReservations

def cancelReservations (reservationIds : List Int) :
    ReservationHandler :=
  reservationIds.foldl (fun h reservationId => (h.cancelReservation reservationId).2) h

def onConnectorStateChanged (connectorState : ConnectorState)
    (evseId connectorId : Nat) : ReservationHandler :=
  h.cancelReservations (h.connectorCancellations connectorState evseId connectorId)

def onReservationUsed : ReservationHandler :=
  (h.cancelReservation reservationId).2

end ReservationHandler

end EverestCore.Auth
