import EverestCore.Auth.ReservationStore

/-!
# Reservations and their timers

A reservation is cancelled through its timer: without one, `cancelReservation` does nothing.
The timers are set and removed on other paths than the reservations, and still match them:
there is exactly one timer for each reservation, after any sequence of calls.

**Main result**: `timers_match_reservations`.
-/

namespace EverestCore.Auth

open EverestCore.Lib

/-! ## Calls -/

/-- The public functions of the handler. -/
inductive ReservationCall
  | operation (operation : Operation)
  | cancelEvseReservation (evseId : Nat)
  | loadReservations (now : Int)
  | onConnectorStateChanged (connectorState : ConnectorState) (evseId connectorId : Nat)
  deriving DecidableEq

namespace ReservationHandler

def cancelEvseReservation (h : ReservationHandler) (evseId : Nat) : Bool × ReservationHandler :=
  match h.evseReservations[evseId]? with
  | some reservation =>
    let cancelled := h.cancelReservation reservation.reservationId
    (cancelled.1.1, cancelled.2)
  | none => (false, h)

def call (h : ReservationHandler) : ReservationCall → ReservationHandler
  | .operation operation => h.step operation
  | .cancelEvseReservation evseId => (h.cancelEvseReservation evseId).2
  | .loadReservations now => (h.loadReservations now).2
  | .onConnectorStateChanged connectorState evseId connectorId =>
    h.onConnectorStateChanged connectorState evseId connectorId

variable {h : ReservationHandler}

/-! ## The invariant -/

/-- The handler is well formed, and there are no timers but those of its reservations. -/
structure Matched (h : ReservationHandler) : Prop where
  wellFormed : h.WellFormed
  timers : h.timers.Perm h.ids

/-- A cancellation removes one id, -/
theorem ids_cancelReservation (hwf : h.WellFormed) (id : Int) :
    (h.cancelReservation id).2.ids = h.ids.erase id := by
  have hfilter : (h.cancelReservation id).2.ids = h.ids.filter (· ≠ id) := by
    rw [ids, content_cancelReservation hwf, ids, List.filter_map]
    rfl
  rw [hfilter, hwf.nodup.erase_eq_filter]
  refine List.filter_congr fun id' _ => ?_
  rw [bne, decide_not, beq_eq_decide]

/-- and one timer. -/
theorem timers_cancelReservation (h : ReservationHandler) (id : Int) :
    (h.cancelReservation id).2.timers = h.timers.erase id := by
  obtain ⟨_, hcancel, -⟩ := h.cancelReservation_eq id
  rw [hcancel]
  split
  · rfl
  · rename_i hid
    exact (List.erase_of_not_mem hid).symm

variable (hmatched : h.Matched)

include hmatched

theorem Matched.nodup : h.timers.Nodup :=
  hmatched.timers.nodup_iff.mpr hmatched.wellFormed.nodup

theorem Matched.cancelReservation (id : Int) : (h.cancelReservation id).2.Matched := by
  refine ⟨hmatched.wellFormed.cancelReservation id, ?_⟩
  rw [timers_cancelReservation, ids_cancelReservation hmatched.wellFormed]
  exact hmatched.timers.erase id

theorem Matched.withReservation {evseId : Option Nat}
    {reservation : Reservation} (hid : reservation.reservationId ∉ h.ids)
    (hadmits : h.AdmitsAny evseId reservation) :
    (h.withReservation evseId reservation).Matched := by
  refine ⟨hmatched.wellFormed.withReservation hid hadmits, ?_⟩
  have hnew : reservation.reservationId ∉ h.timers :=
    fun hmem => hid (hmatched.timers.mem_iff.mp hmem)
  have hids : (h.withReservation evseId reservation).ids.Perm
      (reservation.reservationId :: h.ids) := (content_withReservation hadmits).map _
  rw [(h.withReservation_fields evseId reservation).2, List.erase_of_not_mem hnew]
  exact (hmatched.timers.cons _).trans hids.symm

theorem Matched.makeReservation (now : Int) (evseId : Option Nat)
    (reservation : Reservation) : (h.makeReservation now evseId reservation).2.Matched := by
  have hcancelled := hmatched.cancelReservation reservation.reservationId
  obtain ⟨-, hmake⟩ | ⟨-, hadmits, hmake⟩ | ⟨-, -, _, -, hmake⟩ :=
    h.makeReservation_cases now evseId reservation
  · rw [hmake]
    exact hmatched
  · rw [hmake]
    exact hcancelled.withReservation (id_not_mem_cancelled hmatched.wellFormed _) hadmits
  · rw [hmake]
    exact hcancelled

theorem Matched.cancelReservations (ids : List Int) : (h.cancelReservations ids).Matched := by
  induction ids generalizing h with
  | nil => exact hmatched
  | cons id rest ih => exact ih (hmatched.cancelReservation id)

theorem Matched.loadReservations (now : Int) : (h.loadReservations now).2.Matched := by
  rw [loadReservations_snd]
  refine List.foldlRecOn _ _ (motive := Matched) hmatched fun g hg stored _ => ?_
  exact hg.makeReservation now stored.evseId stored.reservation

/-! ## Steps -/

theorem Matched.withEvses {evses : Evses}
    (htypes : ∀ evseId : Nat,
      evses[evseId]?.map EvseContext.types = h.evses[evseId]?.map EvseContext.types) :
    { h with evses := evses }.Matched :=
  ⟨hmatched.wellFormed.withEvses htypes, hmatched.timers⟩

theorem Matched.submitEventForConnector (evseId connectorId : Nat) (event : ConnectorEvent) :
    (h.submitEventForConnector evseId connectorId event).Matched := by
  unfold ReservationHandler.submitEventForConnector
  split
  · exact hmatched
  · split
    · exact hmatched
    · refine Matched.cancelReservations (hmatched.withEvses ?_) _
      exact map_getElem?_modify fun evse => map_type_setConnectorState connectorId _ evse.connectors

theorem Matched.step (operation : Operation) : (h.step operation).Matched := by
  cases operation with
  | makeReservation now evseId reservation => exact hmatched.makeReservation now evseId reservation
  | cancelReservation id | onReservationUsed id
  | timerExpired id => exact hmatched.cancelReservation id
  | connectorEvent evseId connectorId event =>
    exact hmatched.submitEventForConnector evseId connectorId event
  | plugged evseId pluggedIn => exact hmatched.withEvses (map_getElem?_modify fun _ => rfl)

theorem Matched.cancelEvseReservation (evseId : Nat) :
    (h.cancelEvseReservation evseId).2.Matched := by
  unfold ReservationHandler.cancelEvseReservation
  split
  · exact hmatched.cancelReservation _
  · exact hmatched

/-- Every call keeps timers and reservations matched. -/
theorem Matched.call (call : ReservationCall) : (h.call call).Matched := by
  cases call with
  | operation operation => exact hmatched.step operation
  | cancelEvseReservation evseId => exact hmatched.cancelEvseReservation evseId
  | loadReservations now => exact hmatched.loadReservations now
  | onConnectorStateChanged state evseId connectorId => exact hmatched.cancelReservations _

omit hmatched

variable (evses : Evses)

variable (store : Option (List StoredReservation))

theorem matched_initial : Matched { evses, store } :=
  ⟨wellFormed_initial evses store, List.Perm.refl []⟩

/-! ## Main result -/

theorem Matched.cancelReservation_fst (hmatched : h.Matched) (id : Int) :
    (h.cancelReservation id).1.1 = true ↔ id ∈ h.ids := by
  rw [← hmatched.timers.mem_iff]
  unfold ReservationHandler.cancelReservation
  split <;> simpa

/-- **Ids, timers and reservations match**: after any calls the ids of the reservations are
distinct, the timers are exactly those of the reservations, and the reserved EVSEs exist. So
a cancellation succeeds exactly for the id of a reservation, and leaves none with the id. -/
theorem timers_match_reservations (evses : Evses) (store : Option (List StoredReservation))
    (calls : List ReservationCall) :
    let h := run call { evses, store } calls
    h.ids.Nodup ∧ h.timers.Nodup ∧ (∀ id, id ∈ h.timers ↔ id ∈ h.ids) ∧
      (∀ evseId ∈ h.evseReservations, evseId ∈ h.evses) ∧
      ∀ id, ((h.cancelReservation id).1.1 = true ↔ id ∈ h.ids) ∧
        id ∉ (h.cancelReservation id).2.ids := by
  intro h
  have hmatched : h.Matched := (invariant_run (fun _ call hmatched => hmatched.call call) calls
    (matched_initial evses store))
  refine ⟨hmatched.wellFormed.nodup, hmatched.nodup, fun id => hmatched.timers.mem_iff,
    hmatched.wellFormed.reserved_mem, fun id => ?_⟩
  exact ⟨hmatched.cancelReservation_fst id, id_not_mem_cancelled hmatched.wellFormed id⟩

/-- **Every reservation is for something that exists**: an EVSE with a connector that fits, or a
type that some EVSE has. -/
theorem reservations_fit (calls : List ReservationCall) :
    let h := run call { evses, store } calls
    (∀ (evseId : Nat) (r : Reservation), h.evseReservations[evseId]? = some r →
      ∃ evse, h.evses[evseId]? = some evse ∧ ∃ c ∈ evse.connectors, c.fits r.carType = true) ∧
    ∀ r ∈ h.globalReservations, ∀ type, r.connectorType = some type →
      doesEvseConnectorTypeExist h.evses type = true := by
  intro h
  have hmatched : h.Matched := invariant_run (fun _ call hmatched => hmatched.call call) calls
    (matched_initial evses store)
  exact ⟨hmatched.wellFormed.fits, hmatched.wellFormed.types⟩

end ReservationHandler

end EverestCore.Auth
