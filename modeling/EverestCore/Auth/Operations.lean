import EverestCore.Lib.Machine
import EverestCore.Auth.WellFormed

/-!
# Operations of the reservation handler

The EVSEs are shared with the Auth handler, which plugs cars in and out and passes connector
events on. A run is any sequence of these and of the handler's own operations.

**Main result**: `wellFormed_run`. Every operation keeps the handler well formed.
-/

namespace EverestCore.Auth

open EverestCore.Lib List

/-! ## Connector events -/

inductive ConnectorEvent
  | enable
  | disable
  | errorCleared
  | faulted
  | transactionStarted
  | sessionFinished
  deriving DecidableEq

/-- The arcs of the connector state machine. -/
def ConnectorState.handleEvent : ConnectorState → ConnectorEvent → ConnectorState
  | .available, .transactionStarted => .occupied
  | .available, .disable => .unavailable
  | .available, .faulted => .faulted
  | .unavailable, .enable => .available
  | .unavailable, .faulted => .unavailableFaulted
  | .faulted, .errorCleared => .available
  | .faulted, .disable => .unavailableFaulted
  | .occupied, .sessionFinished => .available
  | .occupied, .faulted => .faultedOccupied
  | .faultedOccupied, .errorCleared => .occupied
  | .faultedOccupied, .sessionFinished => .faulted
  | .unavailableFaulted, .enable => .faulted
  | .unavailableFaulted, .errorCleared => .unavailable
  | state, _ => state

def setConnectorState (connectorId : Nat) (state : ConnectorState) :
    List Connector → List Connector
  | [] => []
  | connector :: rest =>
    if connector.id = connectorId then { connector with state } :: rest
    else connector :: setConnectorState connectorId state rest

namespace ReservationHandler

def withConnectorState (h : ReservationHandler) (evseId connectorId : Nat)
    (state : ConnectorState) : ReservationHandler :=
  { h with
    evses := h.evses.modify evseId fun evse =>
      { evse with connectors := setConnectorState connectorId state evse.connectors } }

/-- The handler is told the new state. -/
def submitEventForConnector (h : ReservationHandler) (evseId connectorId : Nat)
    (event : ConnectorEvent) : ReservationHandler :=
  match h.evses[evseId]? with
  | none => h
  | some evse =>
    match evse.connectors.find? fun connector => connector.id = connectorId with
    | none => h
    | some connector =>
      let state := connector.state.handleEvent event
      (h.withConnectorState evseId connectorId state).onConnectorStateChanged state evseId
        connectorId

end ReservationHandler

/-! ## Runs -/

/-- What can happen to the handler. -/
inductive Operation
  | makeReservation (now : Int) (evseId : Option Nat) (reservation : Reservation)
  | cancelReservation (reservationId : Int)
  | onReservationUsed (reservationId : Int)
  | timerExpired (reservationId : Int)
  | connectorEvent (evseId connectorId : Nat) (event : ConnectorEvent)
  | plugged (evseId : Nat) (pluggedIn : Bool)
  deriving DecidableEq

namespace ReservationHandler

def step (h : ReservationHandler) : Operation → ReservationHandler
  | .makeReservation now evseId reservation => (h.makeReservation now evseId reservation).2
  | .cancelReservation reservationId => (h.cancelReservation reservationId).2
  | .onReservationUsed reservationId => h.onReservationUsed reservationId
  -- a timer that is stopped does not expire, and then nothing would be cancelled
  | .timerExpired reservationId => (h.cancelReservation reservationId).2
  | .connectorEvent evseId connectorId event => h.submitEventForConnector evseId connectorId event
  | .plugged evseId pluggedIn =>
    { h with evses := h.evses.modify evseId fun evse => { evse with pluggedIn } }

end ReservationHandler

/-! ## A connector that changes its state -/

section

variable {connectors : List Connector} {connectorId : Nat} {connector : Connector}

variable (hfind : connectors.find? (fun connector => connector.id = connectorId) = some connector)

include hfind

theorem setConnectorState_of_find (state : ConnectorState) :
    ∃ before after, connectors = before ++ connector :: after ∧
      setConnectorState connectorId state connectors =
        before ++ { connector with state } :: after := by
  induction connectors with
  | nil => cases hfind
  | cons head rest ih =>
    rw [setConnectorState]
    by_cases hid : head.id = connectorId
    · rw [find?_cons_of_pos (by simpa using hid)] at hfind
      cases hfind
      exact ⟨[], rest, rfl, if_pos hid⟩
    · rw [find?_cons_of_neg (by simpa using hid)] at hfind
      obtain ⟨before, after, hrest, hset⟩ := ih hfind
      exact ⟨head :: before, after, by rw [hrest]; rfl, by rw [if_neg hid, hset]; rfl⟩

theorem find?_setConnectorState (state : ConnectorState) :
    (setConnectorState connectorId state connectors).find?
      (fun connector => connector.id = connectorId) = some { connector with state } := by
  induction connectors with
  | nil => cases hfind
  | cons head rest ih =>
    rw [setConnectorState]
    by_cases hid : head.id = connectorId
    · rw [find?_cons_of_pos (by simpa using hid)] at hfind
      cases hfind
      rw [if_pos hid, find?_cons_of_pos (by simpa using hid)]
    · rw [find?_cons_of_neg (by simpa using hid)] at hfind
      rw [if_neg hid, find?_cons_of_neg (by simpa using hid), ih hfind]

omit hfind

theorem map_type_setConnectorState (connectorId : Nat) (state : ConnectorState)
    (connectors : List Connector) :
    (setConnectorState connectorId state connectors).map Connector.type =
      connectors.map Connector.type := by
  induction connectors with
  | nil => rfl
  | cons head rest ih =>
    rw [setConnectorState]
    split
    · rfl
    · rw [map_cons, map_cons, ih]

end

/-! ## Well-formedness along runs -/

variable (evse : EvseContext)

def EvseContext.types : List ConnectorTypeEnum :=
  evse.connectors.map Connector.type

theorem exists_fits_iff (carType : ConnectorTypeEnum) :
    (∃ connector ∈ evse.connectors, connector.fits carType = true) ↔
      ∃ type ∈ evse.types, type = carType ∨ type = .unknown ∨ carType = .unknown := by
  simp [EvseContext.types, Connector.fits, or_assoc]

theorem hasEvseConnectorType_eq (connectorType : ConnectorTypeEnum) :
    hasEvseConnectorType evse.connectors connectorType =
      (connectorType = .unknown ||
        evse.types.any fun type => type = .unknown || type = connectorType) := by
  rw [hasEvseConnectorType, EvseContext.types, any_map]
  rfl

namespace ReservationHandler

variable {h : ReservationHandler}

/-- Only the types of the connectors matter. -/
theorem WellFormed.withEvses (hwf : h.WellFormed) {evses : Evses}
    (htypes : ∀ evseId : Nat,
      evses[evseId]?.map EvseContext.types = h.evses[evseId]?.map EvseContext.types) :
    { h with evses := evses }.WellFormed := by
  have hevse : ∀ (evseId : Nat) (evse : EvseContext), h.evses[evseId]? = some evse →
      ∃ evse', evses[evseId]? = some evse' ∧ evse'.types = evse.types := by
    intro evseId evse hget
    have hmap := htypes evseId
    rw [hget] at hmap
    exact Option.map_eq_some_iff.mp hmap
  refine ⟨hwf.timers, hwf.nodup, fun evseId reservation hget => ?_,
    fun reservation hmem type htype => ?_⟩
  · obtain ⟨evse, hold, hfits⟩ := hwf.fits evseId reservation hget
    obtain ⟨evse', hnew, heq⟩ := hevse evseId evse hold
    rw [exists_fits_iff, ← heq, ← exists_fits_iff] at hfits
    exact ⟨evse', hnew, hfits⟩
  · have hexists := hwf.types reservation hmem type htype
    simp only [doesEvseConnectorTypeExist, any_eq_true, Prod.exists,
      Std.TreeMap.mem_toList_iff_getElem?_eq_some] at hexists ⊢
    obtain ⟨evseId, evse, hold, hhas⟩ := hexists
    obtain ⟨evse', hnew, heq⟩ := hevse evseId evse hold
    rw [hasEvseConnectorType_eq, ← heq, ← hasEvseConnectorType_eq] at hhas
    exact ⟨evseId, evse', hnew, hhas⟩

theorem WellFormed.withConnectorState (hwf : h.WellFormed) (evseId connectorId : Nat)
    (state : ConnectorState) : (h.withConnectorState evseId connectorId state).WellFormed :=
  hwf.withEvses (map_getElem?_modify fun evse =>
    map_type_setConnectorState connectorId state evse.connectors)

theorem WellFormed.submitEventForConnector (hwf : h.WellFormed) (evseId connectorId : Nat)
    (event : ConnectorEvent) : (h.submitEventForConnector evseId connectorId event).WellFormed := by
  unfold ReservationHandler.submitEventForConnector
  split
  · exact hwf
  · split
    · exact hwf
    · exact (hwf.withConnectorState evseId connectorId _).cancelReservations _

/-- Every operation keeps the handler well formed. -/
theorem WellFormed.step (hwf : h.WellFormed) (operation : Operation) :
    (h.step operation).WellFormed := by
  cases operation with
  | makeReservation now evseId reservation => exact hwf.makeReservation now evseId reservation
  | cancelReservation id | onReservationUsed id | timerExpired id => exact hwf.cancelReservation id
  | connectorEvent evseId connectorId event =>
    exact hwf.submitEventForConnector evseId connectorId event
  | plugged evseId pluggedIn => exact hwf.withEvses (map_getElem?_modify fun _ => rfl)

theorem wellFormed_initial (evses : Evses) (store : Option (List StoredReservation)) :
    WellFormed { evses, store } where
  timers := nofun
  nodup := nodup_nil
  fits := fun evseId reservation hget => absurd hget (by simp)
  types := nofun

/-- Every state of a run is well formed. -/
theorem wellFormed_run (evses : Evses) (store : Option (List StoredReservation))
    (operations : List Operation) : (run step { evses, store } operations).WellFormed :=
  invariant_run (I := WellFormed) (fun _ operation hwf => hwf.step operation) operations
    (wellFormed_initial evses store)

end ReservationHandler

end EverestCore.Auth
