import EverestCore.Auth.Tokens

/-!
# Is an EVSE reserved for a token?

OCPP asks the Auth module whether an EVSE is reserved, and for whom. The handler looks up
the reservation of the EVSE that was asked about, but before that it passes on whether there
is an EVSE id instead of the id: what decides is whether EVSE 1 is reserved.
-/

namespace EverestCore.Auth

open EverestCore.Lib

inductive ReservationCheckStatus
  | notReserved
  | reservedForToken
  | reservedForOtherToken
  | reservedForOtherTokenAndHasParentToken
  deriving DecidableEq

/-- A reservation is for a token if the ids or the parent ids are the same. -/
def Reservation.isFor (reservation : Reservation) (idToken : String)
    (parentIdToken : Option String) : Bool :=
  isEqualCaseInsensitive reservation.idToken idToken ||
    (parentIdToken.any fun parent =>
      reservation.parentIdToken.any fun reserved => isEqualCaseInsensitive parent reserved)

namespace ReservationHandler

variable (h : ReservationHandler)

def isEvseReserved (evseId : Nat) : Bool :=
  h.evseReservations.contains evseId

variable (idToken : String)

/-- Without an EVSE id only the global reservations are searched. -/
def matchesAnyReservedIdentifier
    (evseId : Option Nat) (parentIdToken : Option String) : Option Int :=
  match evseId with
  | some evseId => h.matchesReservedIdentifier idToken evseId parentIdToken
  | none =>
    (h.globalReservations.find? fun reservation =>
      reservation.isFor idToken parentIdToken).map Reservation.reservationId

def handleReservationExists (evseId : Option Nat)
    (groupIdToken : Option String) : ReservationCheckStatus :=
  let reservationId := h.matchesAnyReservedIdentifier idToken evseId groupIdToken
  match evseId with
  | none => if reservationId.isSome then .reservedForToken else .notReserved
  | some id =>
    -- the argument is `evse_id.has_value()`, which is converted to an EVSE id
    if !h.isEvseReserved evseId.isSome.toNat then .notReserved
    else if reservationId.isSome then .reservedForToken
    else if groupIdToken.isNone then
      if AuthHandler.hasReservationParentId h id then .reservedForOtherTokenAndHasParentToken
      else .reservedForOtherToken
    else .reservedForOtherToken

/-- The answer for an EVSE: what its own reservation says about the token. -/
def reservationStatus (evseId : Nat)
    (groupIdToken : Option String) : ReservationCheckStatus :=
  match h.evseReservations[evseId]? with
  | none => .notReserved
  | some reservation =>
    if h.matchesReservedIdentifier idToken evseId groupIdToken =
        some reservation.reservationId then .reservedForToken
    else if groupIdToken = none ∧ reservation.parentIdToken.isSome then
      .reservedForOtherTokenAndHasParentToken
    else .reservedForOtherToken

variable {h : ReservationHandler}

theorem isEvseReserved_iff (evseId : Nat) :
    h.isEvseReserved evseId = true ↔ evseId ∈ h.evseReservations :=
  Std.TreeMap.contains_iff_mem

theorem matchesReservedIdentifier_of_reserved {evseId : Nat} {reservation : Reservation}
    (hget : h.evseReservations[evseId]? = some reservation) (idToken : String)
    (parentIdToken : Option String) :
    h.matchesReservedIdentifier idToken evseId parentIdToken =
      if reservation.isFor idToken parentIdToken then some reservation.reservationId else none := by
  unfold matchesReservedIdentifier Reservation.isFor
  rw [hget]

theorem reservationStatus_eq_notReserved_iff (evseId : Nat) (groupIdToken : Option String) :
    h.reservationStatus idToken evseId groupIdToken = .notReserved ↔
      evseId ∉ h.evseReservations := by
  unfold reservationStatus
  cases hget : h.evseReservations[evseId]? with
  | none =>
    refine iff_of_true rfl fun hmem => ?_
    obtain ⟨reservation, hsome⟩ := mem_iff_exists_getElem?.mp hmem
    cases hget.symm.trans hsome
  | some reservation =>
    have hmem : evseId ∈ h.evseReservations := mem_iff_exists_getElem?.mpr ⟨reservation, hget⟩
    refine iff_of_false ?_ (not_not.mpr hmem)
    dsimp only
    split_ifs <;> exact not_false

/-- What decides is EVSE 1. -/
theorem handleReservationExists_eq_notReserved_iff (evseId : Nat) (groupIdToken : Option String) :
    h.handleReservationExists idToken (some evseId) groupIdToken = .notReserved ↔
      1 ∉ h.evseReservations := by
  unfold handleReservationExists
  by_cases hone : 1 ∈ h.evseReservations
  · have hreserved : h.isEvseReserved 1 = true := (isEvseReserved_iff 1).mpr hone
    refine iff_of_false ?_ (not_not.mpr hone)
    simp only [Option.isSome_some, Bool.toNat_true, hreserved, Bool.not_true, Bool.false_eq_true,
      if_false]
    split_ifs <;> exact not_false
  · have hreserved : h.isEvseReserved 1 = false :=
      Bool.eq_false_iff.mpr fun htrue => hone ((isEvseReserved_iff 1).mp htrue)
    simp [hreserved, hone]

theorem handleReservationExists_of_reserved (hone : 1 ∈ h.evseReservations) {evseId : Nat}
    {reservation : Reservation} (hget : h.evseReservations[evseId]? = some reservation)
    (hevse : evseId ∈ h.evses) (idToken : String) (groupIdToken : Option String) :
    h.handleReservationExists idToken (some evseId) groupIdToken =
      h.reservationStatus idToken evseId groupIdToken := by
  have hreserved : h.isEvseReserved 1 = true := (isEvseReserved_iff 1).mpr hone
  have hparent : AuthHandler.hasReservationParentId h evseId =
      reservation.parentIdToken.isSome := by
    rw [AuthHandler.hasReservationParentId, if_neg (not_not.mpr hevse), hget]
  unfold handleReservationExists reservationStatus matchesAnyReservedIdentifier
  rw [hget]
  simp only [Option.isSome_some, Bool.toNat_true, hreserved, hparent,
    matchesReservedIdentifier_of_reserved hget]
  by_cases hfor : reservation.isFor idToken groupIdToken = true
  · simp [hfor]
  · cases groupIdToken <;> simp [hfor]

/-- **The answer is right** exactly if EVSE 1 is reserved when the EVSE asked about is. -/
theorem reservation_exists_iff (hevses : ∀ evseId ∈ h.evseReservations, evseId ∈ h.evses)
    (idToken : String) (evseId : Nat) (groupIdToken : Option String) :
    h.handleReservationExists idToken (some evseId) groupIdToken =
        h.reservationStatus idToken evseId groupIdToken ↔
      (1 ∈ h.evseReservations ↔ evseId ∈ h.evseReservations) := by
  constructor
  · intro heq
    have hone := handleReservationExists_eq_notReserved_iff (h := h) idToken evseId groupIdToken
    rw [heq, reservationStatus_eq_notReserved_iff] at hone
    exact (not_iff_not.mp hone).symm
  · intro hsame
    by_cases hmem : evseId ∈ h.evseReservations
    · obtain ⟨reservation, hget⟩ := mem_iff_exists_getElem?.mp hmem
      exact handleReservationExists_of_reserved (hsame.mpr hmem) hget (hevses evseId hmem) idToken
        groupIdToken
    · rw [(reservationStatus_eq_notReserved_iff idToken evseId groupIdToken).mpr hmem]
      exact (handleReservationExists_eq_notReserved_iff idToken evseId groupIdToken).mpr
        fun hone => hmem (hsame.mp hone)

end ReservationHandler

/-- Two EVSEs, of which one is reserved for a token. -/
def reservedAt (evseId : Nat) (idToken : String) : ReservationHandler where
  evses := (({} : Evses).insert 1 { connectors := [{ id := 1 }] }).insert 2
    { connectors := [{ id := 1 }] }
  evseReservations := ({} : EvseReservations).insert evseId
    { reservationId := 7, idToken, expiryTime := 100 }
  timers := [7]

theorem reservation_of_first_evse_exists :
    (∀ evseId ∈ (reservedAt 1 "A").evseReservations, evseId ∈ (reservedAt 1 "A").evses) ∧
      ((reservedAt 1 "A").handleReservationExists "A" (some 1) none =
          (reservedAt 1 "A").reservationStatus "A" 1 none ↔
        (1 ∈ (reservedAt 1 "A").evseReservations ↔ 1 ∈ (reservedAt 1 "A").evseReservations)) := by
  have hevses : ∀ evseId ∈ (reservedAt 1 "A").evseReservations,
      evseId ∈ (reservedAt 1 "A").evses := by
    intro evseId hmem
    simp only [reservedAt, Std.TreeMap.mem_insert, Std.LawfulEqCmp.compare_eq_iff_eq] at hmem ⊢
    rcases hmem with rfl | hmem
    · exact .inr (.inl rfl)
    · exact absurd hmem Std.TreeMap.not_mem_emptyc
  exact ⟨hevses, ReservationHandler.reservation_exists_iff hevses "A" 1 none⟩

/-- The reservation of EVSE 2 is not found, and the one of EVSE 1 is taken for one of EVSE 2. -/
theorem reservation_of_second_evse_not_found :
    (reservedAt 2 "A").handleReservationExists "A" (some 2) none = .notReserved ∧
      (reservedAt 2 "A").reservationStatus "A" 2 none = .reservedForToken ∧
      (reservedAt 1 "A").handleReservationExists "B" (some 2) none = .reservedForOtherToken ∧
      (reservedAt 1 "A").reservationStatus "B" 2 none = .notReserved := by
  decide +kernel

end EverestCore.Auth
