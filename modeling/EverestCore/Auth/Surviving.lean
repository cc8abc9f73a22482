import EverestCore.Auth.Operations

/-!
# Reservations that survive a connector failure

When a connector fails, the handler cancels the reservation of its EVSE if the connector fits
its type, and otherwise checks all reservations again, one after the other. Neither way looks
at a reservation without a connector type.

**Main result**: `survivors_served_iff`.
-/

namespace EverestCore.Auth

open EverestCore.Lib ReservationHandler Reservation Std

/-! ## The condition -/

/-- Each global reservation without a type is possible together with those kept before it. -/
def UntypedFit (evses : Evses) (evseSpecificReservations : EvseReservations) :
    List Reservation → List Reservation → Prop
  | [], _ => True
  | reservation :: rest, kept =>
    if isReservationPossible evses none (kept ++ [reservation]) evseSpecificReservations then
      UntypedFit evses evseSpecificReservations rest (kept ++ [reservation])
    else
      -- only a reservation with a type is cancelled
      reservation.connectorType ≠ none ∧
        UntypedFit evses evseSpecificReservations rest kept

namespace ReservationHandler

/-- Every reservation can be honoured: one for an EVSE has an available connector there, and
the cars of the others can arrive in any order. -/
@[mk_iff] structure Served (h : ReservationHandler) : Prop where
  onEvse : ∀ (evseId : Nat) (reservation : Reservation),
    h.evseReservations[evseId]? = some reservation →
      ∃ evse, h.evses[evseId]? = some evse ∧ evse.Serves reservation.carType
  anywhere : isReservationPossible h.evses none h.globalReservations h.evseReservations = true

/-- What a connector failure must leave intact, as the handler does not check it. -/
structure Tolerates (h : ReservationHandler) (evseId : Nat) (evse : EvseContext)
    (connector : Connector) (state : ConnectorState) : Prop where
  onEvse : ∀ reservation, h.evseReservations[evseId]? = some reservation →
    reservation.connectorType = none →
      ∃ other ∈ setConnectorState connector.id state evse.connectors, other.state = .available
  anywhere : h.reservationOfConnector evseId connector = none →
    UntypedFit (h.withConnectorState evseId connector.id state).evses h.evseReservations
      h.globalReservations []

end ReservationHandler

/-! ## The new check of all reservations -/

section

variable {evses : Evses} {evseSpecificReservations : EvseReservations}

theorem recheckGlobalReservations_cons (reservation : Reservation)
    (rest kept : List Reservation) (ids : List Int)
    (hkept : isReservationPossible evses none kept evseSpecificReservations = true) :
    recheckGlobalReservations evses evseSpecificReservations
        (reservation :: rest) (kept, ids) =
      recheckGlobalReservations evses evseSpecificReservations rest
        (if isReservationPossible evses none (kept ++ [reservation]) evseSpecificReservations ∨
            reservation.connectorType = none then
          (kept ++ [reservation], ids)
        else (kept, ids ++ [reservation.reservationId])) := by
  rw [recheckGlobalReservations]
  cases htype : reservation.connectorType with
  | none => simp [hkept]
  | some type =>
    have hcar : type = reservation.carType := by simp [carType, htype]
    simp [hcar, isReservationPossible_some]

theorem recheckGlobalReservations_eq (evses : Evses) (evseSpecificReservations : EvseReservations)
    {reservations : List Reservation}
    (hnodup : (reservations.map reservationId).Nodup) (kept : List Reservation) (ids : List Int) :
    ∃ dropped : List Int, (∀ id ∈ dropped, id ∈ reservations.map reservationId) ∧
      recheckGlobalReservations evses evseSpecificReservations reservations
          (kept, ids) =
        (kept ++ reservations.filter (fun reservation => reservation.reservationId ∉ dropped),
          ids ++ dropped) := by
  induction reservations generalizing kept ids with
  | nil => exact ⟨[], by simp, by simp [recheckGlobalReservations]⟩
  | cons reservation rest ih =>
    rw [List.map_cons, List.nodup_cons] at hnodup
    rw [recheckGlobalReservations]
    split
    · -- the reservation is kept
      obtain ⟨dropped, hsub, heq⟩ := ih hnodup.2 (kept ++ [reservation]) ids
      refine ⟨dropped, fun id hmem => List.mem_cons_of_mem _ (hsub id hmem), ?_⟩
      have hnew : reservation.reservationId ∉ dropped := fun hmem => hnodup.1 (hsub _ hmem)
      rw [heq, List.filter_cons_of_pos (by simpa using hnew), List.append_assoc]
      rfl
    · -- the reservation is cancelled
      obtain ⟨dropped, hsub, heq⟩ := ih hnodup.2 kept (ids ++ [reservation.reservationId])
      refine ⟨reservation.reservationId :: dropped, ?_, ?_⟩
      · rw [List.map_cons]
        exact fun id hmem => List.mem_cons.mpr ((List.mem_cons.mp hmem).imp_right (hsub id))
      · rw [heq, List.filter_cons_of_neg (by simp), List.append_assoc]
        refine Prod.ext (congrArg (kept ++ ·) (List.filter_congr fun other hmem => ?_)) rfl
        have hne : other.reservationId ≠ reservation.reservationId :=
          fun h => hnodup.1 (h ▸ List.mem_map_of_mem hmem)
        simp [hne]

theorem recheckGlobalReservations_possible_iff {reservations : List Reservation}
    (hnodup : (reservations.map reservationId).Nodup) {kept : List Reservation} (ids : List Int)
    (hkept : isReservationPossible evses none kept evseSpecificReservations = true) :
    isReservationPossible evses none
        (recheckGlobalReservations evses evseSpecificReservations reservations
          (kept, ids)).1 evseSpecificReservations = true ↔
      UntypedFit evses evseSpecificReservations reservations kept := by
  induction reservations generalizing kept ids with
  | nil => exact iff_of_true hkept trivial
  | cons reservation rest ih =>
    rw [List.map_cons, List.nodup_cons] at hnodup
    rw [recheckGlobalReservations_cons _ _ _ _ hkept, UntypedFit]
    by_cases hpossible : isReservationPossible evses none (kept ++ [reservation])
        evseSpecificReservations = true
    · rw [if_pos (.inl hpossible), if_pos hpossible]
      exact ih hnodup.2 _ hpossible
    · rw [if_neg hpossible]
      by_cases htype : reservation.connectorType = none
      · -- it is kept nevertheless, and what is kept later does not help
        rw [if_pos (.inr htype)]
        refine iff_of_false (fun h => hpossible ?_) fun h => h.1 htype
        obtain ⟨_, -, heq⟩ := recheckGlobalReservations_eq evses evseSpecificReservations
          hnodup.2 (kept ++ [reservation]) ids
        rw [heq] at h
        exact isReservationPossible_of_append h
      · rw [if_neg (by simp [hpossible, htype]), and_iff_right htype]
        exact ih hnodup.2 _ hkept

end

namespace ReservationHandler

variable {h : ReservationHandler}

/-- Reservations for an EVSE pass the second check. -/
theorem recheckEvseReservations_eq
    (hevses : ∀ (evseId : Nat) (reservation : Reservation),
      h.evseReservations[evseId]? = some reservation → evseId ∈ h.evses) :
    ∃ kept, h.recheckEvseReservations = (kept, []) ∧
      ∀ evseId : Nat, kept[evseId]? = h.evseReservations[evseId]? := by
  -- a map whose keys are EVSEs is not larger than the map of EVSEs, so each check succeeds
  have hfold : ∀ (entries : List (Nat × Reservation)) (kept : EvseReservations),
      (∀ entry ∈ entries, entry.1 ∈ h.evses) → (∀ evseId ∈ kept, evseId ∈ h.evses) →
      entries.foldl
        (fun kept entry =>
          if isReservationPossible h.evses none [] (kept.1.insert entry.1 entry.2) then
            (kept.1.insert entry.1 entry.2, kept.2)
          else ((kept.1.insert entry.1 entry.2).erase entry.1, kept.2 ++ [entry.2.reservationId]))
        (kept, ([] : List Int)) =
      (entries.foldl (fun kept entry => kept.insert entry.1 entry.2) kept, []) := by
    intro entries
    induction entries with
    | nil => intro kept _ _; rfl
    | cons entry rest ih =>
      intro kept hentries hkept
      have hinsert : ∀ evseId ∈ kept.insert entry.1 entry.2, evseId ∈ h.evses := by
        intro evseId hmem
        rcases TreeMap.mem_insert.mp hmem with heq | hold
        · rw [← LawfulEqCmp.eq_of_compare heq]
          exact hentries entry List.mem_cons_self
        · exact hkept evseId hold
      rw [List.foldl_cons, List.foldl_cons,
        if_pos (isReservationPossible_nil_iff.mpr (size_le_of_mem hinsert))]
      exact ih _ (fun entry hmem => hentries entry (List.mem_cons_of_mem _ hmem)) hinsert
  refine ⟨h.evseReservations.toList.foldl (fun kept entry => kept.insert entry.1 entry.2) {},
    ?_, fun evseId => ?_⟩
  · rw [recheckEvseReservations, TreeMap.foldl_eq_foldl_toList]
    refine hfold _ {} ?_ fun evseId hmem => absurd hmem TreeMap.not_mem_emptyc
    rintro ⟨evseId, reservation⟩ hmem
    exact hevses evseId reservation (TreeMap.mem_toList_iff_getElem?_eq_some.mp hmem)
  · -- the last entry for a key counts
    rw [foldl_keeps_last (v := fun kept : EvseReservations => kept[evseId]?)
      (g := fun entry => if entry.1 = evseId then some entry.2 else none)]
    · rw [findSome?_toList _ evseId some]
      simp
    · intro kept entry
      rw [getElem?_insert_eq]
      by_cases hid : entry.1 = evseId
      · simp [hid]
      · simp [hid, Ne.symm hid]

theorem untypedFit_congr {evses : Evses} {specific specific' : EvseReservations}
    (hmem : ∀ evseId : Nat, specific'[evseId]? = specific[evseId]?)
    (reservations kept : List Reservation) :
    UntypedFit evses specific' reservations kept ↔ UntypedFit evses specific reservations kept := by
  induction reservations generalizing kept with
  | nil => exact Iff.rfl
  | cons reservation rest ih =>
    rw [UntypedFit, UntypedFit, isReservationPossible_congr hmem, ih, ih]

/-- What the second check leaves is served. -/
theorem served_recheck_iff (hwf : h.WellFormed) :
    (h.cancelReservations h.impossibleReservations).Served ↔
      (∀ (evseId : Nat) (reservation : Reservation),
        h.evseReservations[evseId]? = some reservation →
          ∃ evse, h.evses[evseId]? = some evse ∧ evse.Serves reservation.carType) ∧
      UntypedFit h.evses h.evseReservations h.globalReservations [] := by
  obtain ⟨kept, hevse, hkept⟩ := recheckEvseReservations_eq fun evseId reservation hget =>
    hwf.mem_evses hget
  obtain ⟨dropped, hsub, hglobal⟩ := recheckGlobalReservations_eq h.evses kept
    (nodup_globalReservations hwf.nodup) [] []
  have hids : h.impossibleReservations = dropped := by
    rw [impossibleReservations, hevse]
    rw [hglobal]
    rfl
  -- no EVSE reservation has the id of a global one
  have hsame : ∀ evseId : Nat,
      (h.cancelReservations dropped).evseReservations[evseId]? = h.evseReservations[evseId]? := by
    intro evseId
    refine Option.ext fun reservation => ?_
    rw [getElem?_cancelReservations hwf, and_iff_left_iff_imp]
    intro hget hmem
    obtain ⟨other, hother, hid⟩ := List.mem_map.mp (hsub _ hmem)
    cases eq_of_id_eq hwf.nodup (mem_content_evse.mpr hget) (mem_content_global.mpr hother) hid.symm
  have hempty : isReservationPossible h.evses none [] kept = true := by
    rw [isReservationPossible_congr hkept]
    exact hwf.possible_nil fun _ => Iff.rfl
  have hfit := recheckGlobalReservations_possible_iff (nodup_globalReservations hwf.nodup) [] hempty
  rw [hglobal, List.nil_append, ← globalReservations_cancelReservations hwf,
    isReservationPossible_congr hkept, untypedFit_congr hkept] at hfit
  rw [hids, served_iff, evses_cancelReservations, isReservationPossible_congr hsame, hfit]
  simp [hsame]

/-! ## A failed connector -/

theorem getElem?_withConnectorState_of_ne {evseId other : Nat} (hne : other ≠ evseId)
    (connectorId : Nat) (state : ConnectorState) :
    (h.withConnectorState evseId connectorId state).evses[other]? = h.evses[other]? := by
  rw [withConnectorState, getElem?_modify_eq, if_neg hne]

theorem getElem?_withConnectorState_self {evseId : Nat} {evse : EvseContext}
    (hevse : h.evses[evseId]? = some evse) (connectorId : Nat) (state : ConnectorState) :
    (h.withConnectorState evseId connectorId state).evses[evseId]? =
      some { evse with connectors := setConnectorState connectorId state evse.connectors } := by
  rw [withConnectorState, getElem?_modify_eq, if_pos rfl, hevse]
  rfl

section

variable {evseId : Nat} {evse : EvseContext} {connector : Connector}

theorem served_of_reservationOfConnector (hwf : h.WellFormed) (hserved : h.Served)
    {reservation : Reservation}
    (hneeds : h.reservationOfConnector evseId connector = some reservation)
    (connectorId : Nat) (state : ConnectorState) :
    ((h.withConnectorState evseId connectorId state).cancelReservations
      [reservation.reservationId]).Served := by
  have hwf' := hwf.withConnectorState evseId connectorId state
  have hget : h.evseReservations[evseId]? = some reservation :=
    (Option.filter_eq_some_iff.mp hneeds).1
  have hleft : ∀ (other : Nat) (left : Reservation),
      ((h.withConnectorState evseId connectorId state).cancelReservations
        [reservation.reservationId]).evseReservations[other]? = some left →
      other ≠ evseId ∧ h.evseReservations[other]? = some left := by
    intro other left hother
    obtain ⟨hold, hid⟩ := (getElem?_cancelReservations hwf' _ _ _).mp hother
    refine ⟨?_, hold⟩
    rintro rfl
    cases hget.symm.trans hold
    exact hid List.mem_cons_self
  refine ⟨fun other left hother => ?_, ?_⟩
  · obtain ⟨hne, hold⟩ := hleft other left hother
    rw [evses_cancelReservations, getElem?_withConnectorState_of_ne hne]
    exact hserved.onEvse other left hold
  · rw [evses_cancelReservations]
    refine isReservationPossible_cancelReservation hwf' (fun _ => TreeMap.mem_modify)
      (fun other hfree => getElem?_withConnectorState_of_ne ?_ connectorId state) hserved.anywhere _
    rintro rfl
    exact hfree (mem_iff_exists_getElem?.mpr ⟨reservation, hget⟩)

theorem served_onEvse_iff (hserved : h.Served) (hevse : h.evses[evseId]? = some evse)
    (hfind : evse.connectors.find? (fun other => other.id = connector.id) = some connector)
    (hneeds : h.reservationOfConnector evseId connector = none) (state : ConnectorState) :
    (∀ (other : Nat) (reservation : Reservation),
        h.evseReservations[other]? = some reservation →
          ∃ evse, (h.withConnectorState evseId connector.id state).evses[other]? = some evse ∧
            evse.Serves reservation.carType) ↔
      ∀ reservation, h.evseReservations[evseId]? = some reservation →
        reservation.connectorType = none →
          ∃ other ∈ setConnectorState connector.id state evse.connectors,
            other.state = .available := by
  have hself := getElem?_withConnectorState_self hevse connector.id state
  constructor
  · intro hall reservation hget _
    obtain ⟨changed, hchanged, other, hmem, -, havailable⟩ := hall evseId reservation hget
    cases hself.symm.trans hchanged
    exact ⟨other, hmem, havailable⟩
  · intro huntyped other reservation hget
    by_cases hother : other = evseId
    · subst hother
      refine ⟨_, hself, ?_⟩
      cases htype : reservation.connectorType with
      | none =>
        -- any available connector fits
        obtain ⟨left, hmem, havailable⟩ := huntyped reservation hget htype
        exact ⟨left, hmem, by simp [Connector.fits, carType, htype], havailable⟩
      | some type =>
        -- the connector that was available before does not fit the failed one's type
        obtain ⟨evse', hevse', left, hmem, hfits, havailable⟩ :=
          hserved.onEvse other reservation hget
        cases hevse.symm.trans hevse'
        obtain ⟨before, after, hlist, hset⟩ := setConnectorState_of_find hfind state
        have hne : left ≠ connector := by
          rintro rfl
          simp only [reservationOfConnector, hget, Option.filter_eq_none_iff] at hneeds
          refine hneeds reservation rfl ?_
          simpa [htype, Connector.fits, carType] using hfits
        refine ⟨left, ?_, hfits, havailable⟩
        show left ∈ setConnectorState connector.id state evse.connectors
        rw [hlist] at hmem
        rw [hset]
        simp only [List.mem_append, List.mem_cons] at hmem ⊢
        tauto
    · rw [getElem?_withConnectorState_of_ne hother]
      exact hserved.onEvse other reservation hget

end

/-- **The reservations that survive a connector failure can be honoured** exactly if the
EVSE's reservation, if it has no connector type, still has an available connector, and the
global reservations without a type still fit when it is their turn in the check. -/
theorem survivors_served_iff {h : ReservationHandler} (hwf : h.WellFormed) (hserved : h.Served)
    {evseId connectorId : Nat} {evse : EvseContext} {connector : Connector}
    (hevse : h.evses[evseId]? = some evse)
    (hfind : evse.connectors.find? (fun other => other.id = connectorId) = some connector)
    (event : ConnectorEvent) (hfailed : connector.state.handleEvent event ≠ .available) :
    (h.submitEventForConnector evseId connectorId event).Served ↔
      h.Tolerates evseId evse connector (connector.state.handleEvent event) := by
  have hid : connector.id = connectorId := by simpa using List.find?_some hfind
  subst hid
  generalize hstate : connector.state.handleEvent event = state at hfailed ⊢
  have hself := getElem?_withConnectorState_self hevse connector.id state
  have hfind' := find?_setConnectorState hfind state
  -- the changed connector has the same type
  have hneeds : (h.withConnectorState evseId connector.id state).reservationOfConnector evseId
      { connector with state } = h.reservationOfConnector evseId connector := rfl
  have hsubmit : h.submitEventForConnector evseId connector.id event =
      (h.withConnectorState evseId connector.id state).onConnectorStateChanged state evseId
        connector.id := by
    simp [submitEventForConnector, hevse, hfind, hstate]
  rw [hsubmit, onConnectorStateChanged, connectorCancellations, if_neg hfailed]
  simp only [hself, hfind', hneeds]
  cases hreservation : h.reservationOfConnector evseId connector with
  | some reservation =>
    refine iff_of_true (served_of_reservationOfConnector hwf hserved hreservation _ _) ⟨?_, ?_⟩
    · intro other hget huntyped
      obtain ⟨hget', htyped⟩ := Option.filter_eq_some_iff.mp hreservation
      cases hget.symm.trans hget'
      simp [huntyped] at htyped
    · intro hnone
      cases hreservation.symm.trans hnone
  | none =>
    rw [served_recheck_iff (hwf.withConnectorState evseId connector.id state)]
    refine Iff.trans (and_congr_left fun _ =>
      served_onEvse_iff hserved hevse hfind hreservation state) ?_
    exact ⟨fun ⟨honEvse, hanywhere⟩ => ⟨honEvse, fun _ => hanywhere⟩,
      fun htolerates => ⟨htolerates.onEvse, htolerates.anywhere hreservation⟩⟩

/-! ### EVSEs with one connector -/

def ccsEvse : EvseContext := { connectors := [{ id := 1, type := .cCCS2 }] }

def singleEvse : Evses := ({} : Evses).insert 1 ccsEvse

def withReservations (evses : Evses) (types : List (Option ConnectorTypeEnum)) :
    ReservationHandler :=
  run step { evses } (types.mapIdx fun i connectorType => .makeReservation 0 none
    { reservationId := i, idToken := "TOKEN", expiryTime := 100, connectorType })

theorem served_of_global {h : ReservationHandler} (hnone : h.evseReservations.isEmpty = true)
    (hpossible : isReservationPossible h.evses none h.globalReservations h.evseReservations =
      true) : h.Served := by
  refine ⟨fun evseId reservation hget => ?_, hpossible⟩
  rw [TreeMap.getElem?_of_isEmpty hnone] at hget
  cases hget

/-- The only connector fails and the reservation has no connector type: it is kept, with no
connector left for it. -/
theorem untyped_reservation_outlives_connector :
    (withReservations singleEvse [none]).Served ∧
      ((withReservations singleEvse [none]).submitEventForConnector 1 1 .faulted).content =
        (withReservations singleEvse [none]).content ∧
      ¬ ((withReservations singleEvse [none]).submitEventForConnector 1 1 .faulted).Served := by
  refine ⟨served_of_global (by decide) (by decide), by decide, fun hserved => ?_⟩
  exact absurd hserved.anywhere (by decide)

/-- One of two EVSEs fails: the reservation without a type is kept and can be served at the
other one, the later one with a type is cancelled. -/
theorem survivors_served_beside_typed :
    let h := withReservations (singleEvse.insert 2 ccsEvse) [none, some .cCCS2]
    (h.submitEventForConnector 1 1 .faulted).globalReservations.map reservationId = [0] ∧
      (h.submitEventForConnector 1 1 .faulted).Served := by
  intro h
  have hevse : h.evses[1]? = some ccsEvse := by decide
  refine ⟨by decide, (survivors_served_iff (wellFormed_run _ none _)
    (served_of_global (h := h) (by decide) (by decide)) hevse rfl .faulted
    (by decide)).mpr ⟨?_, ?_⟩⟩
  · intro reservation hget
    rw [TreeMap.getElem?_of_isEmpty (by decide)] at hget
    cases hget
  · intro _
    show UntypedFit _ _ [_, _] []
    rw [UntypedFit, if_pos (by decide), UntypedFit, if_neg (by decide)]
    exact ⟨by decide, trivial⟩

end ReservationHandler

end EverestCore.Auth
