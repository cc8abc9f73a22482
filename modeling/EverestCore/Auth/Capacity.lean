import EverestCore.Auth.Surviving
import EverestCore.Auth.EvseManagers

/-!
# Capacity that is taken and freed

A car takes an EVSE away from the reservations, with or without one of its own. A cancelled
reservation or a repaired connector gives capacity back.

**Main results**: `transactionStarted_keeps_reservations`,
`reservation_used_keeps_others_iff` and `isReservationPossible_freed`.
-/

namespace EverestCore.Auth

open EverestCore.Lib ReservationHandler Std Option

variable {evses evses' : Evses} {specific specific' : EvseReservations}

/-! ## EVSEs that are taken -/

/-- A reserved EVSE is not usable. -/
theorem isUsable_insert_iff (evseId : Nat) (reservation : Reservation)
    (carType : ConnectorTypeEnum) (other : Nat) :
    isUsable evses (specific.insert evseId reservation) carType other = true ↔
      other ≠ evseId ∧ isUsable evses specific carType other = true := by
  rw [isUsable_iff, isUsable_iff]
  simp only [TreeMap.mem_insert, LawfulEqCmp.compare_eq_iff_eq, not_or]
  constructor
  · rintro ⟨evse, hevse, hfree, ⟨hne, hnot⟩, hserves⟩
    exact ⟨fun heq => hne heq.symm, evse, hevse, hfree, hnot, hserves⟩
  · rintro ⟨hne, evse, hevse, hfree, hnot, hserves⟩
    exact ⟨evse, hevse, hfree, ⟨fun heq => hne heq.symm, hnot⟩, hserves⟩

namespace ReservationHandler

variable {h : ReservationHandler}

/-! ## Admission -/

/-- The details of this reservation are not important. -/
def dummyReservation : Reservation :=
  { reservationId := 0, idToken := "", expiryTime := 0 }

variable (h)

def isChargingPossible (evseId : Nat) : Bool :=
  if evseId ∈ h.evseReservations then false
  else if evseId ∉ h.evses then false
  else
    isReservationPossible h.evses none h.globalReservations
      (h.evseReservations.insert evseId dummyReservation)

theorem isChargingPossible_iff (evseId : Nat) :
    h.isChargingPossible evseId = true ↔
      evseId ∉ h.evseReservations ∧ evseId ∈ h.evses ∧
        isReservationPossible h.evses none h.globalReservations
          (h.evseReservations.insert evseId dummyReservation) = true := by
  unfold isChargingPossible
  split
  · rename_i hreserved
    simp [hreserved]
  · split <;> simp_all

/-! ## A transaction starts -/

variable (evseId connectorId : Nat)

def withTransaction : ReservationHandler :=
  (h.step (.plugged evseId true)).withConnectorState evseId connectorId .occupied

def transactionStarted : ReservationHandler :=
  (h.withTransaction evseId connectorId).onConnectorStateChanged .occupied evseId connectorId

theorem mem_evses_withTransaction (evseId connectorId other : Nat) :
    other ∈ (h.withTransaction evseId connectorId).evses ↔ other ∈ h.evses := by
  rw [withTransaction, withConnectorState, TreeMap.mem_modify, step, TreeMap.mem_modify]

theorem getElem?_withTransaction (evseId connectorId other : Nat) :
    (h.withTransaction evseId connectorId).evses[other]? =
      if other = evseId then
        h.evses[other]?.map fun evse =>
          { connectors := setConnectorState connectorId .occupied evse.connectors
            pluggedIn := true }
      else h.evses[other]? := by
  rw [withTransaction, withConnectorState, getElem?_modify_eq, step, getElem?_modify_eq]
  split
  · rw [map_map]
    rfl
  · rfl

/-- A transaction takes the EVSE away as a reservation would. -/
theorem isUsable_withTransaction
    (reservation : Reservation) (carType : ConnectorTypeEnum) (other : Nat) :
    isUsable (h.withTransaction evseId connectorId).evses h.evseReservations carType other =
      isUsable h.evses (h.evseReservations.insert evseId reservation) carType other := by
  rw [Bool.eq_iff_iff, isUsable_insert_iff, isUsable_iff, isUsable_iff, getElem?_withTransaction]
  by_cases hother : other = evseId
  · rw [if_pos hother]
    refine iff_of_false ?_ fun hne => hne.1 hother
    rintro ⟨evse, hevse, hfree, -⟩
    obtain ⟨before, -, rfl⟩ := map_eq_some_iff.mp hevse
    cases hfree.1
  · rw [if_neg hother, and_iff_right hother]

/-! ## The check of all reservations -/

variable {reservation : Reservation}

variable {h}

theorem isReservationPossible_check_of {kept : List Reservation}
    (hpossible : isReservationPossible evses none (kept ++ [reservation]) specific = true) :
    isReservationPossible evses reservation.connectorType kept specific = true := by
  cases htype : reservation.connectorType with
  | none => exact isReservationPossible_of_append hpossible
  | some type =>
    have hcar : type = reservation.carType := by simp [Reservation.carType, htype]
    rw [hcar, isReservationPossible_some]
    exact hpossible

theorem recheckGlobalReservations_ids (evses : Evses) (specific : EvseReservations)
    (reservations kept : List Reservation) (ids : List Int) :
    ids <+: (recheckGlobalReservations evses specific reservations (kept, ids)).2 := by
  induction reservations generalizing kept ids with
  | nil => exact List.prefix_rfl
  | cons reservation rest ih =>
    rw [recheckGlobalReservations]
    split
    · exact ih _ _
    · exact (List.prefix_append _ _).trans (ih _ _)

/-- All global reservations are kept exactly if the check of the last one succeeds with all
the others: it covers the checks before it. -/
theorem recheckGlobalReservations_keeps_iff (evses : Evses) (specific : EvseReservations)
    (reservations kept : List Reservation) (ids : List Int) :
    (recheckGlobalReservations evses specific reservations (kept, ids)).2 = ids ↔
      ∀ last, reservations.getLast? = some last →
        isReservationPossible evses last.connectorType (kept ++ reservations.dropLast)
          specific = true := by
  induction reservations generalizing kept ids with
  | nil => simp [recheckGlobalReservations]
  | cons reservation rest ih =>
    rw [recheckGlobalReservations]
    split
    · rename_i hpossible
      rw [ih]
      cases rest with
      | nil => simpa using hpossible
      | cons next rest => simp
    · -- the reservation is cancelled, and the later checks include it
      rename_i himpossible
      refine iff_of_false (fun hids => ?_) fun hlast => himpossible ?_
      · have hprefix := recheckGlobalReservations_ids evses specific rest kept
          (ids ++ [reservation.reservationId])
        rw [hids] at hprefix
        have hlength := hprefix.length_le
        rw [List.length_append, List.length_singleton] at hlength
        omega
      · cases rest with
        | nil => simpa using hlast reservation rfl
        | cons next rest =>
          obtain ⟨last, hget⟩ : ∃ last, (next :: rest).getLast? = some last :=
            ⟨_, List.getLast?_eq_some_getLast (by simp)⟩
          have hnext := hlast last (by rw [List.getLast?_cons_cons, hget])
          rw [List.dropLast_cons_cons, List.append_cons] at hnext
          exact isReservationPossible_check_of (isReservationPossible_of_append hnext)

/-- Only the last reservation is looked at with all the others. -/
theorem impossibleReservations_eq_nil_iff
    (hevses : ∀ evseId ∈ h.evseReservations, evseId ∈ h.evses) :
    h.impossibleReservations = [] ↔
      ∀ last, h.globalReservations.getLast? = some last →
        isReservationPossible h.evses last.connectorType h.globalReservations.dropLast
          h.evseReservations = true := by
  obtain ⟨kept, hevse, hkept⟩ := recheckEvseReservations_eq fun evseId reservation hget =>
    hevses evseId (mem_iff_exists_getElem?.mpr ⟨reservation, hget⟩)
  rw [impossibleReservations, hevse]
  rw [recheckGlobalReservations_keeps_iff]
  simp [isReservationPossible_congr hkept]

theorem impossibleReservations_eq_nil (hevses : ∀ evseId ∈ h.evseReservations, evseId ∈ h.evses)
    (hpossible : isReservationPossible h.evses none h.globalReservations h.evseReservations =
      true) : h.impossibleReservations = [] := by
  rw [impossibleReservations_eq_nil_iff hevses]
  intro last hlast
  refine isReservationPossible_check_of ?_
  rw [List.dropLast_append_getLast? last hlast]
  exact hpossible

variable {evseId : Nat}

theorem connectorCancellations_of_free (hfree : evseId ∉ h.evseReservations)
    (state : ConnectorState) (connectorId : Nat) :
    h.connectorCancellations state evseId connectorId = [] ∨
      h.connectorCancellations state evseId connectorId = h.impossibleReservations := by
  unfold connectorCancellations
  split
  · exact .inl rfl
  split
  · exact .inl rfl
  split
  · exact .inl rfl
  · rename_i connector _
    have hnone : h.reservationOfConnector evseId connector = none := by
      rw [reservationOfConnector, TreeMap.getElem?_eq_none hfree]
      rfl
    rw [hnone]
    exact .inr rfl

theorem connectorCancellations_withTransaction {evseId connectorId : Nat}
    (hfree : evseId ∉ h.evseReservations) {evse : EvseContext}
    (hevse : h.evses[evseId]? = some evse) {connector : Connector}
    (hfind : evse.connectors.find? (fun connector => connector.id = connectorId) =
      some connector) :
    (h.withTransaction evseId connectorId).connectorCancellations .occupied evseId connectorId =
      (h.withTransaction evseId connectorId).impossibleReservations := by
  have hget := h.getElem?_withTransaction evseId connectorId evseId
  rw [if_pos rfl, hevse, map_some] at hget
  have hnone : (h.withTransaction evseId connectorId).evseReservations[evseId]? = none :=
    TreeMap.getElem?_eq_none hfree
  rw [connectorCancellations, if_neg (by decide), hget]
  dsimp only
  rw [find?_setConnectorState hfind]
  dsimp only
  rw [reservationOfConnector, hnone]
  rfl

/-- What was possible without the EVSE still is. -/
theorem possible_withTransaction (hevse : evseId ∈ specific)
    (hsub : ∀ other ∈ h.evseReservations, other ∈ specific)
    (hpossible : isReservationPossible h.evses none h.globalReservations specific = true)
    (connectorId : Nat) :
    isReservationPossible (h.withTransaction evseId connectorId).evses none h.globalReservations
      h.evseReservations = true := by
  refine isReservationPossible_of_unreserved (h.mem_evses_withTransaction evseId connectorId)
    hsub (fun other hother => ?_) hpossible
  rw [getElem?_withTransaction, if_neg]
  rintro rfl
  exact hother hevse

/-! ## A car without a reservation -/

/-- **A car without a reservation costs no reservation**: where charging is possible, nothing
is cancelled when the transaction starts. -/
theorem transactionStarted_keeps_reservations {h : ReservationHandler}
    (hevses : ∀ evseId ∈ h.evseReservations, evseId ∈ h.evses) {evseId : Nat}
    (hpossible : h.isChargingPossible evseId = true) (connectorId : Nat) :
    (h.withTransaction evseId connectorId).connectorCancellations .occupied evseId connectorId =
        [] ∧
      (h.transactionStarted evseId connectorId).content = h.content := by
  obtain ⟨hfree, -, hpossible⟩ := (h.isChargingPossible_iff evseId).mp hpossible
  -- the EVSE is taken as if it had been reserved for the car
  have himpossible : (h.withTransaction evseId connectorId).impossibleReservations = [] := by
    refine impossibleReservations_eq_nil (fun other hother => ?_) ?_
    · exact (h.mem_evses_withTransaction evseId connectorId other).mpr (hevses other hother)
    · refine possible_withTransaction TreeMap.mem_insert_self (fun other hother => ?_)
        hpossible connectorId
      exact TreeMap.mem_insert.mpr (.inr hother)
  have hnone : (h.withTransaction evseId connectorId).connectorCancellations .occupied evseId
      connectorId = [] := by
    rcases connectorCancellations_of_free (h := h.withTransaction evseId connectorId) hfree
      .occupied connectorId with hnone | hall
    · exact hnone
    · exact hall.trans himpossible
  refine ⟨hnone, ?_⟩
  rw [transactionStarted, onConnectorStateChanged, hnone]
  rfl

/-! ### Two EVSEs with different connectors -/

def twoTypes : Evses :=
  (({} : Evses).insert 1 { connectors := [{ id := 1, type := .cCCS2 }] }).insert 2
    { connectors := [{ id := 1, type := .cType2 }] }

def dcReservation : Reservation :=
  { reservationId := 7, idToken := "DC", expiryTime := 100, connectorType := some .cCCS2 }

def acReservation : Reservation :=
  { reservationId := 8, idToken := "AC", expiryTime := 100, connectorType := some .cType2 }

/-- A global reservation for one of the types. -/
def withDcReserved : ReservationHandler :=
  (makeReservation { evses := twoTypes } 0 none dcReservation).2

theorem wellFormed_withDcReserved : withDcReserved.WellFormed :=
  (wellFormed_initial twoTypes none).makeReservation _ _ _

/-- At the EVSE with the other type a car is admitted, and the reservation is kept. -/
theorem transactionStarted_beside_reservation :
    (withDcReserved.withTransaction 2 1).connectorCancellations .occupied 2 1 = [] ∧
      (withDcReserved.transactionStarted 2 1).content = withDcReserved.content :=
  transactionStarted_keeps_reservations wellFormed_withDcReserved.reserved_mem (by decide) 1

/-! ## A car with a reservation -/

/-- The other global reservations are possible with the EVSE taken. The last one does not
count if it has no connector type. -/
def OthersFit (h : ReservationHandler) (evseId : Nat) (reservationId : Int) : Prop :=
  let others := h.globalReservations.filter fun reservation =>
    reservation.reservationId ≠ reservationId
  ∀ last, others.getLast? = some last →
    isReservationPossible h.evses last.connectorType others.dropLast
      (h.evseReservations.insert evseId dummyReservation) = true

variable {parentIdToken : Option String} {reservationId : Int} {idToken : String}

theorem matchesReservedIdentifier_cases
    (hmatch : h.matchesReservedIdentifier idToken evseId parentIdToken = some reservationId) :
    (∃ reservation, h.evseReservations[evseId]? = some reservation ∧
      reservation.reservationId = reservationId) ∨
    (evseId ∉ h.evseReservations ∧
      ∃ reservation ∈ h.globalReservations, reservation.reservationId = reservationId) := by
  unfold matchesReservedIdentifier at hmatch
  dsimp only at hmatch
  split at hmatch
  · rename_i reservation hget
    split at hmatch
    · exact .inl ⟨reservation, hget, some.inj hmatch⟩
    · cases hmatch
  · rename_i hget
    obtain ⟨reservation, hfind, hid⟩ := map_eq_some_iff.mp hmatch
    refine .inr ⟨fun hmem => ?_, reservation, List.mem_of_find?_eq_some hfind, hid⟩
    obtain ⟨_, hsome⟩ := mem_iff_exists_getElem?.mp hmem
    cases hget.symm.trans hsome

variable (hwf : h.WellFormed)

include hwf

theorem not_mem_onReservationUsed
    (hmatch : h.matchesReservedIdentifier idToken evseId parentIdToken = some reservationId) :
    evseId ∉ (h.onReservationUsed reservationId).evseReservations := by
  intro hmem
  obtain ⟨left, hleft⟩ := mem_iff_exists_getElem?.mp hmem
  obtain ⟨hold, hid⟩ := (getElem?_cancelReservation hwf reservationId evseId left).mp hleft
  rcases matchesReservedIdentifier_cases hmatch with ⟨reservation, hget, hused⟩ | ⟨hfree, -⟩
  · cases hget.symm.trans hold
    exact hid hused
  · exact hfree (mem_iff_exists_getElem?.mpr ⟨left, hold⟩)

theorem WellFormed.withTransaction (evseId connectorId : Nat) :
    (h.withTransaction evseId connectorId).WellFormed :=
  (hwf.step (.plugged evseId true)).withConnectorState evseId connectorId .occupied

theorem mem_ids_of_mem_impossible {id : Int}
    (hmem : id ∈ h.impossibleReservations) : id ∈ h.ids := by
  obtain ⟨kept, hevse, -⟩ := recheckEvseReservations_eq fun evseId reservation hget =>
    hwf.mem_evses hget
  obtain ⟨dropped, hsub, hglobal⟩ := recheckGlobalReservations_eq h.evses kept
    (nodup_globalReservations hwf.nodup) [] []
  rw [impossibleReservations, hevse] at hmem
  rw [hglobal, List.nil_append] at hmem
  obtain ⟨reservation, hreservation, rfl⟩ := List.mem_map.mp (hsub id hmem)
  exact id_mem_ids_global hreservation

/-- Nothing is lost exactly if nothing is impossible. -/
theorem content_cancel_impossible_iff :
    (h.cancelReservations h.impossibleReservations).content = h.content ↔
      h.impossibleReservations = [] := by
  constructor
  · intro hcontent
    rw [content_cancelReservations hwf, List.filter_eq_self] at hcontent
    refine List.eq_nil_iff_forall_not_mem.mpr fun id hmem => ?_
    obtain ⟨stored, hstored, rfl⟩ := List.mem_map.mp (mem_ids_of_mem_impossible hwf hmem)
    exact of_decide_eq_true (hcontent stored hstored) hmem
  · intro hnone
    rw [hnone]
    rfl

theorem getElem?_onReservationUsed_global
    (hmem : reservation ∈ h.globalReservations) (evseId : Nat) :
    (h.onReservationUsed reservation.reservationId).evseReservations[evseId]? =
      h.evseReservations[evseId]? := by
  refine ext fun left => ?_
  rw [onReservationUsed, getElem?_cancelReservation hwf, and_iff_left_iff_imp]
  intro hget hid
  cases eq_of_id_eq hwf.nodup (mem_content_evse.mpr hget) (mem_content_global.mpr hmem) hid

omit hwf

theorem isReservationPossible_withTransaction (hfree : evseId ∉ h.evseReservations)
    (globalReservationType : Option ConnectorTypeEnum) (reservationsNoEvse : List Reservation)
    (hsize : (carTypes globalReservationType reservationsNoEvse).length +
      h.evseReservations.size + 1 ≤ h.evses.size) (connectorId : Nat) :
    isReservationPossible (h.withTransaction evseId connectorId).evses globalReservationType
        reservationsNoEvse h.evseReservations =
      isReservationPossible h.evses globalReservationType reservationsNoEvse
        (h.evseReservations.insert evseId dummyReservation) := by
  have hkeys := h.mem_evses_withTransaction evseId connectorId
  have husable := h.isUsable_withTransaction evseId connectorId dummyReservation
  rw [Bool.eq_iff_iff, isReservationPossible_iff_arrives, isReservationPossible_iff_arrives,
    size_eq_of_mem_iff hkeys, size_insert_of_not_mem hfree, keys_eq_of_mem_iff hkeys]
  simp only [husable]
  exact and_congr_left fun _ => iff_of_true (by omega) (by omega)

theorem length_carTypes_last {reservations : List Reservation} {last : Reservation}
    (hlast : reservations.getLast? = some last) :
    (carTypes last.connectorType reservations.dropLast).length ≤ reservations.length := by
  have htype : last.connectorType.toList.length ≤ 1 := by cases last.connectorType <;> simp
  rw [← List.dropLast_append_getLast? last hlast, carTypes]
  simp only [List.length_append, List.length_map, List.dropLast_concat, List.length_singleton]
  omega

/-- With a global reservation used at an EVSE, nothing else is impossible exactly if the others
fit. -/
theorem impossible_withTransaction_iff (hwf : h.WellFormed)
    (hpossible : isReservationPossible h.evses none h.globalReservations h.evseReservations = true)
    (hfree : evseId ∉ h.evseReservations) (hmem : reservation ∈ h.globalReservations)
    (connectorId : Nat) :
    ((h.onReservationUsed reservation.reservationId).withTransaction evseId
        connectorId).impossibleReservations = [] ↔
      h.OthersFit evseId reservation.reservationId := by
  have hsame := getElem?_onReservationUsed_global hwf hmem
  have hlength : (h.onReservationUsed reservation.reservationId).globalReservations.length <
      h.globalReservations.length := by
    rw [onReservationUsed, globalReservations_cancelReservation hwf]
    exact List.length_filter_lt_length_iff_exists.mpr ⟨reservation, hmem, by simp⟩
  have hused : (h.onReservationUsed reservation.reservationId).WellFormed :=
    hwf.cancelReservation reservation.reservationId
  have hevses : (h.onReservationUsed reservation.reservationId).evses = h.evses :=
    evses_cancelReservation h _
  have hothers : (h.onReservationUsed reservation.reservationId).globalReservations =
      h.globalReservations.filter fun other =>
        other.reservationId ≠ reservation.reservationId :=
    globalReservations_cancelReservation hwf _
  generalize h.onReservationUsed reservation.reservationId = used at *
  have hfree' : evseId ∉ used.evseReservations := by
    rw [mem_iff_exists_getElem?, hsame, ← mem_iff_exists_getElem?]
    exact hfree
  have hspecific : used.evseReservations.size = h.evseReservations.size :=
    size_eq_of_mem_iff fun other => by
      rw [mem_iff_exists_getElem?, mem_iff_exists_getElem?, hsame]
  have hinsert : ∀ other : Nat, (used.evseReservations.insert evseId dummyReservation)[other]? =
      (h.evseReservations.insert evseId dummyReservation)[other]? := by
    intro other
    rw [getElem?_insert_eq, getElem?_insert_eq, hsame]
  -- before, there was an EVSE for the used reservation too
  have hsize := ((isReservationPossible_iff_arrives none h.globalReservations).mp hpossible).1
  rw [carTypes, List.length_append, List.length_map, toList_none, List.length_nil] at hsize
  rw [impossibleReservations_eq_nil_iff fun other hother => ?_, OthersFit, ← hothers]
  · refine forall_congr' fun last => forall_congr' fun hlast => ?_
    have hcars : (carTypes last.connectorType used.globalReservations.dropLast).length ≤
        used.globalReservations.length := length_carTypes_last hlast
    have htaken := isReservationPossible_withTransaction hfree' last.connectorType
      used.globalReservations.dropLast (by rw [hevses]; omega) connectorId
    rw [← isReservationPossible_congr hinsert, ← hevses, ← htaken]
    rfl
  · exact (used.mem_evses_withTransaction evseId connectorId other).mpr
      (hused.reserved_mem other hother)

/-- **A used reservation costs nobody else theirs** exactly if it was made for the EVSE, or
the other global reservations are possible with the EVSE taken. -/
theorem reservation_used_keeps_others_iff {h : ReservationHandler} (hwf : h.WellFormed)
    (hpossible : isReservationPossible h.evses none h.globalReservations h.evseReservations = true)
    {idToken : String} {evseId : Nat} {parentIdToken : Option String} {reservationId : Int}
    (hmatch : h.matchesReservedIdentifier idToken evseId parentIdToken = some reservationId)
    {connectorId : Nat} {evse : EvseContext} (hevse : h.evses[evseId]? = some evse)
    {connector : Connector}
    (hfind : evse.connectors.find? (fun connector => connector.id = connectorId) =
      some connector) :
    ((h.onReservationUsed reservationId).transactionStarted evseId connectorId).content =
        (h.onReservationUsed reservationId).content ↔
      evseId ∈ h.evseReservations ∨ h.OthersFit evseId reservationId := by
  have hused : (h.onReservationUsed reservationId).WellFormed := hwf.cancelReservation reservationId
  have hevses : (h.onReservationUsed reservationId).evses = h.evses := evses_cancelReservation h _
  rw [transactionStarted, onConnectorStateChanged,
    connectorCancellations_withTransaction (not_mem_onReservationUsed hwf hmatch)
      (hevses ▸ hevse) hfind]
  refine Iff.trans (content_cancel_impossible_iff (hused.withTransaction evseId connectorId)) ?_
  rcases matchesReservedIdentifier_cases hmatch with
    ⟨reservation, hget, rfl⟩ | ⟨hfree, reservation, hmem, rfl⟩
  · -- the EVSE was kept free for this car
    have hreserved := mem_iff_exists_getElem?.mpr ⟨reservation, hget⟩
    refine iff_of_true (impossibleReservations_eq_nil (fun other hother => ?_) ?_) (.inl hreserved)
    · exact (mem_evses_withTransaction _ evseId connectorId other).mpr
        (hused.reserved_mem other hother)
    · refine possible_withTransaction hreserved
        (fun other hother => mem_evseReservations_of_cancelReservation hwf hother) ?_ connectorId
      rw [evses_cancelReservation, globalReservations_cancelReservation hwf]
      exact isReservationPossible_of_sublist List.filter_sublist hpossible
  · rw [impossible_withTransaction_iff hwf hpossible hfree hmem, or_iff_right hfree]

theorem othersFit_of_usable (hwf : h.WellFormed)
    (hpossible : isReservationPossible h.evses none h.globalReservations h.evseReservations = true)
    (hmem : reservation ∈ h.globalReservations)
    (husable : isUsable h.evses h.evseReservations reservation.carType evseId = true) :
    h.OthersFit evseId reservation.reservationId := by
  obtain ⟨evse, hevse, -, hfree, -⟩ := (isUsable_iff _ _).mp husable
  have hperm : (reservation :: h.globalReservations.filter fun other =>
      other.reservationId ≠ reservation.reservationId).Perm h.globalReservations := by
    rw [← eraseP_eq_filter (nodup_globalReservations hwf.nodup)]
    obtain ⟨other, before, after, -, hid, hlist, herase⟩ := List.exists_of_eraseP
      (p := fun other : Reservation => other.reservationId = reservation.reservationId) hmem
      (by simp)
    have hother : other ∈ h.globalReservations := by simp [hlist]
    cases eq_of_id_eq hwf.nodup (mem_content_global.mpr hother) (mem_content_global.mpr hmem)
      (of_decide_eq_true hid)
    rw [herase, hlist]
    exact List.perm_middle.symm
  unfold OthersFit
  intro others last hlast
  refine isReservationPossible_check_of ?_
  rw [List.dropLast_append_getLast? last hlast]
  have hall := isReservationPossible_of_perm hperm.symm hpossible
  rw [isReservationPossible_iff_arrives] at hall ⊢
  have hcars : carTypes none (reservation :: others) =
      reservation.carType :: carTypes none others := rfl
  rw [hcars, List.length_cons] at hall
  refine ⟨by rw [size_insert_of_not_mem hfree]; omega, fun order horder => ?_⟩
  simp only [isUsable_insert_iff]
  exact arrives_without (TreeMap.mem_keys.mpr (mem_iff_exists_getElem?.mpr ⟨evse, hevse⟩))
    husable hall.2 horder

def withBothReserved : ReservationHandler :=
  (withDcReserved.makeReservation 0 none acReservation).2

theorem wellFormed_withBothReserved : withBothReserved.WellFormed :=
  wellFormed_withDcReserved.makeReservation _ _ _

/-- A reservation is used at an EVSE that it does not fit. The other one, which needs this
EVSE, is cancelled. -/
theorem reservation_used_costs_other :
    isReservationPossible withBothReserved.evses none withBothReserved.globalReservations
        withBothReserved.evseReservations = true ∧
      withBothReserved.evses[1]? = some { connectors := [{ id := 1, type := .cCCS2 }] } ∧
      withBothReserved.matchesReservedIdentifier "AC" 1 none = some 8 ∧
      (withBothReserved.onReservationUsed 8).ids = [7] ∧
      ((withBothReserved.onReservationUsed 8).transactionStarted 1 1).ids = [] := by
  decide

/-- At the other EVSE it costs nothing. -/
theorem reservation_used_at_fitting_evse :
    ((withBothReserved.onReservationUsed 8).transactionStarted 2 1).content =
      (withBothReserved.onReservationUsed 8).content := by
  have hevse : withBothReserved.evses[2]? =
      some { connectors := [{ id := 1, type := .cType2 }] } := by decide
  have hmatch : withBothReserved.matchesReservedIdentifier "AC" 2 none = some 8 := by decide
  have hmem : acReservation ∈ withBothReserved.globalReservations := by decide
  refine (reservation_used_keeps_others_iff wellFormed_withBothReserved (by decide) hmatch hevse
    rfl).mpr (.inr ?_)
  exact othersFit_of_usable wellFormed_withBothReserved (by decide) hmem (by decide)

end ReservationHandler

/-! ## Capacity that is freed -/

/-- A connector is repaired. -/
def withConnectorAvailable (evses : Evses) (evseId connectorId : Nat) : Evses :=
  evses.modify evseId fun evse =>
    { evse with connectors := setConnectorState connectorId .available evse.connectors }

theorem mem_of_mem_setConnectorState {connectorId : Nat} {connectors : List Connector}
    {connector : Connector}
    (hmem : connector ∈ setConnectorState connectorId .available connectors) :
    connector ∈ connectors ∨ connector.state = .available := by
  induction connectors with
  | nil => cases hmem
  | cons head rest ih =>
    rw [setConnectorState] at hmem
    split at hmem
    · rcases List.mem_cons.mp hmem with rfl | hrest
      · exact .inr rfl
      · exact .inl (List.mem_cons_of_mem _ hrest)
    · rcases List.mem_cons.mp hmem with rfl | hrest
      · exact .inl List.mem_cons_self
      · exact (ih hrest).imp_left (List.mem_cons_of_mem _)

theorem mem_setConnectorState_of_available {connectorId : Nat} {connectors : List Connector}
    {connector : Connector} (hmem : connector ∈ connectors)
    (havailable : connector.state = .available) :
    connector ∈ setConnectorState connectorId .available connectors := by
  induction connectors with
  | nil => cases hmem
  | cons head rest ih =>
    rw [setConnectorState]
    rcases List.mem_cons.mp hmem with rfl | hrest
    · split
      · rw [← havailable]
        exact List.mem_cons_self
      · exact List.mem_cons_self
    · split
      · exact List.mem_cons_of_mem _ hrest
      · exact List.mem_cons_of_mem _ (ih hrest)

theorem isUsable_withConnectorAvailable_of_ne {evseId other : Nat} (hne : other ≠ evseId)
    (connectorId : Nat) (carType : ConnectorTypeEnum) :
    isUsable (withConnectorAvailable evses evseId connectorId) specific carType other = true ↔
      isUsable evses specific carType other = true := by
  rw [isUsable_iff, isUsable_iff, withConnectorAvailable, getElem?_modify_eq, if_neg hne]

theorem isUsable_withConnectorAvailable_of_usable {evseId : Nat} {carType : ConnectorTypeEnum}
    (husable : isUsable evses specific carType evseId = true) (connectorId : Nat) :
    isUsable (withConnectorAvailable evses evseId connectorId) specific carType evseId = true := by
  obtain ⟨evse, hevse, hfree, hnot, connector, hmem, hfits, havailable⟩ :=
    (isUsable_iff carType evseId).mp husable
  refine (isUsable_iff carType evseId).mpr
    ⟨{ evse with connectors := setConnectorState connectorId .available evse.connectors }, ?_,
      ⟨hfree.1, fun other hother => ?_⟩, hnot, connector,
      mem_setConnectorState_of_available hmem havailable, hfits, havailable⟩
  · rw [withConnectorAvailable, getElem?_modify_eq, if_pos rfl, hevse]
    rfl
  · rcases mem_of_mem_setConnectorState hother with hold | hnew
    · exact hfree.2 other hold
    · rw [hnew]
      decide

/-- A connector that becomes available keeps the cars possible exactly if each car that could
not use the EVSE before leaves room for the others when it takes it. -/
theorem isReservationPossible_withConnectorAvailable_iff {reservationsNoEvse : List Reservation}
    (hpossible : isReservationPossible evses none reservationsNoEvse specific = true)
    (evseId connectorId : Nat) :
    isReservationPossible (withConnectorAvailable evses evseId connectorId) none
        reservationsNoEvse specific = true ↔
      ∀ reservation ∈ reservationsNoEvse,
        isUsable (withConnectorAvailable evses evseId connectorId) specific reservation.carType
          evseId = true →
        isUsable evses specific reservation.carType evseId = false →
          isReservationPossible evses none (reservationsNoEvse.erase reservation)
            (specific.insert evseId reservation) = true := by
  have hkeys : ∀ other, other ∈ withConnectorAvailable evses evseId connectorId ↔ other ∈ evses :=
    fun other => TreeMap.mem_modify
  have hcars : ∀ reservation ∈ reservationsNoEvse,
      (carTypes none reservationsNoEvse).Perm
        (reservation.carType :: carTypes none (reservationsNoEvse.erase reservation)) := by
    intro reservation hmem
    simpa [carTypes] using (List.perm_cons_erase hmem).map Reservation.carType
  have hlength : ∀ reservation ∈ reservationsNoEvse,
      (carTypes none (reservationsNoEvse.erase reservation)).length + 1 =
        (carTypes none reservationsNoEvse).length := by
    intro reservation hmem
    rw [(hcars reservation hmem).length_eq, List.length_cons]
  -- away from the EVSE nothing has changed
  have htaken : ∀ (order : List ConnectorTypeEnum),
      Arrives (fun carType other => other ≠ evseId ∧
        isUsable (withConnectorAvailable evses evseId connectorId) specific carType other = true)
        evses.keys [] order ↔
      Arrives (fun carType other => other ≠ evseId ∧ isUsable evses specific carType other = true)
        evses.keys [] order := by
    refine arrives_congr_free fun carType other _ => and_congr_right fun _ => ?_
    exact and_congr_right fun hne => isUsable_withConnectorAvailable_of_ne hne connectorId carType
  rw [isReservationPossible_iff_arrives] at hpossible ⊢
  rw [keys_eq_of_mem_iff hkeys, size_eq_of_mem_iff hkeys, and_iff_right hpossible.1]
  constructor
  · intro hall reservation hmem hnew _
    obtain ⟨evse, hevse, -, hfree, -⟩ := (isUsable_iff _ _).mp hnew
    have hplace : evseId ∈ evses.keys :=
      TreeMap.mem_keys.mpr ((hkeys evseId).mp (mem_iff_exists_getElem?.mpr ⟨evse, hevse⟩))
    rw [isReservationPossible_iff_arrives, size_insert_of_not_mem hfree]
    refine ⟨by have := hlength reservation hmem; omega, fun order horder => ?_⟩
    simp only [isUsable_insert_iff]
    refine (htaken order).mp (arrives_without hplace hnew (fun order' horder' => ?_) horder)
    exact hall order' (horder'.trans (hcars reservation hmem).symm)
  · intro hleaves order horder
    refine arrives_of_new_place (e := evseId)
      (fun carType other hne => isUsable_withConnectorAvailable_of_ne hne connectorId carType)
      (fun carType husable => isUsable_withConnectorAvailable_of_usable husable connectorId)
      (hpossible.2 order horder) fun first carType rest heq hnew hold => ?_
    -- the car that takes the EVSE has a reservation
    have hmem : carType ∈ carTypes none reservationsNoEvse :=
      horder.subset (heq ▸ List.mem_append_cons_self)
    obtain ⟨reservation, hreservation, rfl⟩ : ∃ reservation ∈ reservationsNoEvse,
        reservation.carType = carType := by simpa [carTypes] using hmem
    have hrest := hleaves reservation hreservation hnew (Bool.eq_false_of_not_eq_true hold)
    rw [isReservationPossible_iff_arrives] at hrest
    simp only [isUsable_insert_iff] at hrest
    rw [arrives_used_iff, htaken]
    refine hrest.2 _ (List.Perm.cons_inv ((List.perm_middle.symm.trans ?_).trans
      (hcars reservation hreservation)))
    rw [← heq]
    exact horder

/-- **Freed capacity**: what is possible stays possible with one reservation less. With a
connector more it does exactly if each car that could not use the EVSE before leaves room for
the others there. -/
theorem isReservationPossible_freed (evses : Evses) (reservationsNoEvse : List Reservation)
    (specific : EvseReservations)
    (hpossible : isReservationPossible evses none reservationsNoEvse specific = true) :
    (∀ i, isReservationPossible evses none (reservationsNoEvse.eraseIdx i) specific = true) ∧
    (∀ evseId, isReservationPossible evses none reservationsNoEvse (specific.erase evseId) =
      true) ∧
    ∀ evseId connectorId,
      isReservationPossible (withConnectorAvailable evses evseId connectorId) none
          reservationsNoEvse specific = true ↔
        ∀ reservation ∈ reservationsNoEvse,
          isUsable (withConnectorAvailable evses evseId connectorId) specific
            reservation.carType evseId = true →
          isUsable evses specific reservation.carType evseId = false →
            isReservationPossible evses none (reservationsNoEvse.erase reservation)
              (specific.insert evseId reservation) = true := by
  refine ⟨fun i => ?_, fun evseId => ?_, ?_⟩
  · exact isReservationPossible_of_sublist (List.eraseIdx_sublist _ i) hpossible
  · refine isReservationPossible_of_unreserved (fun _ => Iff.rfl) (fun other hmem => ?_)
      (fun _ _ => rfl) hpossible
    exact (TreeMap.mem_erase.mp hmem).2
  · exact isReservationPossible_withConnectorAvailable_iff hpossible

def withFailedConnector : Evses :=
  (({} : Evses).insert 1 { connectors := [{ id := 1, type := .cCCS2 }] }).insert 2
    { connectors :=
        [{ id := 1, type := .cCCS2, state := .unavailable }, { id := 2, type := .cType2 }] }

/-- The repaired connector lets the first car take the EVSE that the second one needs. -/
theorem freed_connector_strands_car :
    isReservationPossible withFailedConnector none
        [dcReservation, acReservation] {} = true ∧
      (withFailedConnector[2]?.any fun evse =>
        !evse.pluggedIn && evse.connectors.all fun connector => connector.state ≠ .occupied) =
          true ∧
      isReservationPossible (withConnectorAvailable withFailedConnector 2 1) none
        [dcReservation, acReservation] {} = false := by
  decide

/-- It does no harm if there is a third EVSE for the second car. -/
theorem freed_connector_leaves_room :
    let evses := withFailedConnector.insert 3 { connectors := [{ id := 1, type := .cType2 }] }
    isReservationPossible (withConnectorAvailable evses 2 1) none
      [dcReservation, acReservation] {} = true := by
  intro evses
  refine ((isReservationPossible_freed evses [dcReservation, acReservation] {}
    (by decide)).2.2 2 1).mpr fun reservation hmem _ _ => ?_
  simp only [List.mem_cons, List.not_mem_nil, or_false] at hmem
  rcases hmem with rfl | rfl <;> decide

end EverestCore.Auth
