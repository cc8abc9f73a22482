import EverestCore.Charging.State
import EverestCore.Auth.Operations

/-!
# Auth and the EVSE managers

A reservation for an EVSE is kept twice: by the reservation handler of the Auth module and by
the EVSE manager, which shows it to the other modules. Auth calls the managers directly; the
managers answer and publish session events, which Auth receives later, in order.

The managers are addressed by the id of their EVSE. Nothing in a step changes the state of a
charger: the EVSEs stay idle.
-/

namespace EverestCore.Auth

open EverestCore.Lib
open EverestCore.Charging (EvseState)

/-! ## The EVSE manager -/

inductive SessionEvent
  | reservationStart
  | reservationEnd
  deriving DecidableEq

/-- What an EVSE manager knows of its reservation. -/
structure EvseManager where
  -- what is read of the charger
  currentState : EvseState := .idle
  fatalError : Bool := false
  sessionActive : Bool := false
  reserved : Bool := false
  reservationId : Int := -1
  deriving DecidableEq

namespace EvseManager

variable (m : EvseManager)

def reserve (id : Int) (signalReservationEvent : Bool) :
    (Bool × List SessionEvent) × EvseManager :=
  if m.currentState = .disabled then ((false, []), m)
  else if m.fatalError then ((false, []), m)
  else if m.currentState ≠ .idle then ((false, []), m)
  else
    if m.reserved = false ∨ m.reservationId = -1 ∨ m.reservationId = id then
      let reservationId := if id ≥ 0 then id else m.reservationId
      -- when overwriting the reservation, don't signal
      let signal := (m.reservationId ≠ id ∨ reservationId = -1) ∧ signalReservationEvent
      ((true, if signal then [.reservationStart] else []),
        { m with reserved := true, reservationId })
    else ((false, []), m)

def cancelReservation (signalEvent : Bool) : List SessionEvent × EvseManager :=
  if m.reserved then
    (if signalEvent then [.reservationEnd] else [],
      { m with reserved := false, reservationId := -1 })
  else ([], m)

/-- A token that a reservation was made for has been accepted. It starts a session, which
removes the reservation; then the id is stored again for the transaction. -/
def authorizeResponse (reservationId : Int) : EvseManager :=
  let started :=
    if m.sessionActive then m else { (m.cancelReservation false).2 with sessionActive := true }
  (started.reserve reservationId false).2

end EvseManager

/-! ## EVSEs needed for global reservations -/

def isEqualCaseInsensitive (str1 str2 : String) : Bool :=
  str1.toList.map Char.toLower = str2.toList.map Char.toLower

namespace ReservationHandler

variable (h : ReservationHandler)

def availableEvses : List Nat :=
  h.evses.keys.filter fun evseId =>
    getEvseConnectorStateReservationResult h.evses h.evseReservations evseId = .accepted &&
    getConnectorAvailabilityReservationResult h.evses evseId .unknown = .accepted

/-- The available EVSEs that no other car may use: all of them if there are no more of them
than global reservations, otherwise those with the type of a reservation that could not be
made a second time. -/
def globallyReservedEvses : List Nat :=
  if h.availableEvses.length = h.globalReservations.length then h.availableEvses
  else
    (h.evses.toList.filter fun entry =>
      h.globalReservations.any fun reservation =>
        !isReservationPossible h.evses reservation.connectorType h.globalReservations
          h.evseReservations &&
        (entry.1 ∈ h.availableEvses &&
          hasEvseConnectorType entry.2.connectors reservation.carType)).map Prod.fst

structure ReservationEvseStatus where
  reserved : List Nat
  available : List Nat

/-- What has changed since the last check. -/
def checkNumberGlobalReservationsMatchNumberAvailableEvses :
    ReservationEvseStatus × ReservationHandler :=
  let reservedEvses := h.globallyReservedEvses
  ({ reserved := reservedEvses.filter fun evseId => evseId ∉ h.lastReservedStatus
     available := h.availableEvses.filter fun evseId =>
      evseId ∉ reservedEvses ∧ evseId ∈ h.lastReservedStatus },
    { h with lastReservedStatus := reservedEvses })

def matchesReservedIdentifier (idToken : String) (evseId : Nat)
    (parentIdToken : Option String) : Option Int :=
  let isMatch (reservation : Reservation) : Bool :=
    isEqualCaseInsensitive reservation.idToken idToken ||
      (parentIdToken.any fun parent =>
        reservation.parentIdToken.any fun reserved => isEqualCaseInsensitive parent reserved)
  match h.evseReservations[evseId]? with
  | some reservation => if isMatch reservation then some reservation.reservationId else none
  | none => (h.globalReservations.find? isMatch).map Reservation.reservationId

end ReservationHandler

/-! ## The system -/

inductive ReservationEndReason
  | expired
  | cancelled
  | usedToStartCharging
  | globalReservationRequirementDropped
  deriving DecidableEq

inductive ReservationStatus
  | expired
  | removed
  | placed
  deriving DecidableEq

/-- Auth and the managers, with the events on their way. -/
structure AuthSystem where
  handler : ReservationHandler
  managers : Nat → EvseManager := fun _ => {}
  -- the session events of each manager that Auth has not received yet
  queues : Nat → List SessionEvent := fun _ => []
  published : List (Int × ReservationStatus) := []

namespace AuthSystem

variable (s : AuthSystem)

variable (evseId : Nat)

def withManager (events : List SessionEvent)
    (manager : EvseManager) : AuthSystem :=
  { s with
    managers := Function.update s.managers evseId manager
    queues := Function.update s.queues evseId (s.queues evseId ++ events) }

variable (reservationId : Int)

def callReserve : Bool × AuthSystem :=
  let reserved := (s.managers evseId).reserve reservationId true
  (reserved.1.1, s.withManager evseId reserved.1.2 reserved.2)

def callCancelReservation : AuthSystem :=
  let cancelled := (s.managers evseId).cancelReservation true
  s.withManager evseId cancelled.1 cancelled.2

def publishReservationUpdate (status : ReservationStatus) :
    AuthSystem :=
  { s with published := s.published ++ [(reservationId, status)] }

/-! ### Callbacks -/

/-- A manager that refuses the reservation lets Auth cancel it, without a callback. -/
def reservedCallback (evseId : Option Nat) (reservationId : Int) :
    Bool × AuthSystem :=
  match evseId with
  | some evseId =>
    let reserved := s.callReserve evseId reservationId
    if reserved.1 then (true, reserved.2.publishReservationUpdate reservationId .placed)
    else
      (false,
        { reserved.2 with handler := (reserved.2.handler.cancelReservation reservationId).2 })
  | none => (true, s.publishReservationUpdate reservationId .placed)

/-- The manager is called only if the reservation was for its EVSE. -/
def cancelAtManager : Option Nat → AuthSystem
  | some evseId => if evseId > 0 then s.callCancelReservation evseId else s
  | none => s

def reservationCancelledCallback (evseId : Option Nat) (reservationId : Int)
    (reason : ReservationEndReason) (sendReservationUpdate : Bool) : AuthSystem :=
  let cancelled := s.cancelAtManager evseId
  match sendReservationUpdate, reason with
  | true, .expired => cancelled.publishReservationUpdate reservationId .expired
  | true, .cancelled => cancelled.publishReservationUpdate reservationId .removed
  | _, _ => cancelled

def checkEvseReservedAndSendUpdates : AuthSystem :=
  let status := s.handler.checkNumberGlobalReservationsMatchNumberAvailableEvses
  let available := status.1.available.foldl
    (fun s evseId =>
      s.reservationCancelledCallback (some evseId) (-1) .globalReservationRequirementDropped false)
    { s with handler := status.2 }
  status.1.reserved.foldl (fun s evseId => (s.reservedCallback (some evseId) (-1)).2) available

def callReserved (evseId : Option Nat) :
    Bool × AuthSystem :=
  let reserved := s.reservedCallback evseId reservationId
  if reserved.1 then (true, reserved.2.checkEvseReservedAndSendUpdates) else reserved

def cancelReservation (reason : ReservationEndReason)
    (sendReservationUpdate : Bool) : AuthSystem :=
  let cancelled := s.handler.cancelReservation reservationId
  if cancelled.1.1 then
    ({ s with handler := cancelled.2 }.reservationCancelledCallback cancelled.1.2 reservationId
      reason sendReservationUpdate).checkEvseReservedAndSendUpdates
  else { s with handler := cancelled.2 }

/-! ### Commands and events -/

/-- The EVSE of a request. A negative id counts as none. -/
def requestedEvse (request : Reservation) : Option Nat :=
  request.evseId.bind fun evseId => if evseId ≥ 0 then some evseId.toNat else none

/-- The result, if the command returns one: there is no manager for a negative EVSE id, and
the access to it throws. -/
def reserveNow (now : Int) (request : Reservation) :
    Option ReservationResult × AuthSystem :=
  let made := s.handler.makeReservation now (requestedEvse request) request
  let s := { s with handler := made.2 }
  if made.1 = .accepted then
    if request.evseId.any fun evseId => evseId < 1 then (none, s)
    else
      let reserved := s.callReserved request.reservationId (requestedEvse request)
      (some (if reserved.1 then .accepted else .rejected), reserved.2)
  else (some made.1, s)

/-- The connector takes the event, and each cancellation has its callback. -/
def submitEventForConnector (evseId connectorId : Nat) (event : ConnectorEvent) :
    AuthSystem :=
  match s.handler.evses[evseId]? with
  | none => s
  | some evse =>
    match evse.connectors.find? fun connector => connector.id = connectorId with
    | none => s
    | some connector =>
      let state := connector.state.handleEvent event
      let changed := s.handler.withConnectorState evseId connectorId state
      (changed.connectorCancellations state evseId connectorId).foldl
        (fun s reservationId => s.cancelReservation reservationId .cancelled true)
        { s with handler := changed }

def handleSessionEvent (event : SessionEvent) : AuthSystem :=
  if evseId ∈ s.handler.evses then
    match event with
    | .reservationStart => s
    | .reservationEnd =>
      match s.handler.evseReservations[evseId]? with
      | some reservation => s.cancelReservation reservation.reservationId .cancelled true
      | none => s
  else s

def useReservation (idToken : String)
    (parentIdToken : Option String) : AuthSystem :=
  if evseId ∈ s.handler.evses then
    match s.handler.matchesReservedIdentifier idToken evseId parentIdToken with
    | none => s
    | some reservationId =>
      { s with
        handler := s.handler.onReservationUsed reservationId
        managers := Function.update s.managers evseId
          ((s.managers evseId).authorizeResponse reservationId) }
  else s

end AuthSystem

/-- What can happen in the two modules. -/
inductive AuthLabel
  | reserveNow (now : Int) (request : Reservation)
  | cancelReservation (reservationId : Int)
  | timerExpired (reservationId : Int)
  -- session events are followed by a check of the global reservations, faults are not
  | connectorEvent (evseId connectorId : Nat) (event : ConnectorEvent) (checkReservations : Bool)
  | useReservation (evseId : Nat) (idToken : String) (parentIdToken : Option String)
  -- the manager ends a reservation itself, after an error or when it is disabled
  | managerCancels (evseId : Nat)
  | deliver (evseId : Nat)
  deriving DecidableEq

namespace AuthSystem

def step (s : AuthSystem) : AuthLabel → AuthSystem
  | .reserveNow now request => (s.reserveNow now request).2
  | .cancelReservation reservationId => s.cancelReservation reservationId .cancelled false
  | .timerExpired reservationId => s.cancelReservation reservationId .expired true
  | .connectorEvent evseId connectorId event checkReservations =>
    let s := s.submitEventForConnector evseId connectorId event
    if checkReservations then s.checkEvseReservedAndSendUpdates else s
  | .useReservation evseId idToken parentIdToken => s.useReservation evseId idToken parentIdToken
  | .managerCancels evseId => s.callCancelReservation evseId
  | .deliver evseId =>
    match s.queues evseId with
    | [] => s
    | event :: rest =>
      { s with queues := Function.update s.queues evseId rest }.handleSessionEvent evseId event

def initEvse (evses : Evses) (evseId : Nat) (connectors : List Connector) : Evses :=
  if evseId = 0 then evses else evses.insert evseId { connectors }

def initial (evses : List (Nat × List Connector)) : AuthSystem :=
  { handler := { evses := evses.foldl (fun evses evse => initEvse evses evse.1 evse.2) {} } }

end AuthSystem

end EverestCore.Auth
