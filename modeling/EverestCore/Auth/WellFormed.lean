import EverestCore.Lib.MapFold
import EverestCore.Auth.Possible

/-!
# Well-formed handlers

Reservation ids are unique, every reservation has a timer, and an EVSE reservation has a
connector that fits on its EVSE. All operations of the handler keep this, and on such a
handler a cancellation removes exactly the reservation with the given id.
-/

namespace EverestCore.Auth

open EverestCore.Lib Std List

namespace ReservationHandler

/-- The ids of all reservations. -/
def ids (h : ReservationHandler) : List Int :=
  h.content.map fun stored => stored.reservation.reservationId

structure WellFormed (h : ReservationHandler) : Prop where
  timers : ∀ id ∈ h.ids, id ∈ h.timers
  nodup : h.ids.Nodup
  fits : ∀ (evseId : Nat) (reservation : Reservation),
    h.evseReservations[evseId]? = some reservation →
      ∃ evse, h.evses[evseId]? = some evse ∧
        ∃ connector ∈ evse.connectors, connector.fits reservation.carType = true
  types : ∀ reservation ∈ h.globalReservations, ∀ type,
    reservation.connectorType = some type → doesEvseConnectorTypeExist h.evses type = true

variable {h : ReservationHandler}

/-! ## Entries -/

variable {reservation : Reservation} {evseId : Nat}

theorem mem_content_evse :
    ⟨some evseId, reservation⟩ ∈ h.content ↔ h.evseReservations[evseId]? = some reservation := by
  rw [← TreeMap.mem_toList_iff_getElem?_eq_some]
  simp [content]

theorem mem_content_global :
    ⟨none, reservation⟩ ∈ h.content ↔ reservation ∈ h.globalReservations := by
  simp [content]

theorem id_mem_ids_evse (hget : h.evseReservations[evseId]? = some reservation) :
    reservation.reservationId ∈ h.ids :=
  mem_map_of_mem (f := fun stored : StoredReservation => stored.reservation.reservationId)
    (mem_content_evse.mpr hget)

theorem id_mem_ids_global (hmem : reservation ∈ h.globalReservations) :
    reservation.reservationId ∈ h.ids :=
  mem_map_of_mem (f := fun stored : StoredReservation => stored.reservation.reservationId)
    (mem_content_global.mpr hmem)

/-- An id belongs to one reservation. -/
theorem eq_of_id_eq (hnodup : h.ids.Nodup) {stored stored' : StoredReservation}
    (hmem : stored ∈ h.content) (hmem' : stored' ∈ h.content)
    (hid : stored.reservation.reservationId = stored'.reservation.reservationId) :
    stored = stored' :=
  inj_on_of_nodup_map hnodup hmem hmem' hid

theorem content_eq {h' : ReservationHandler} {entries : List (Nat × Reservation)}
    (hentries : h'.evseReservations.toList = entries) {globals : List Reservation}
    (hglobals : h'.globalReservations = globals) :
    h'.content = (entries.map fun entry => ⟨some entry.1, entry.2⟩) ++
      globals.map fun reservation => ⟨none, reservation⟩ := by
  rw [content, hentries, hglobals]

theorem WellFormed.mem_evses (hwf : h.WellFormed)
    (hget : h.evseReservations[evseId]? = some reservation) : evseId ∈ h.evses := by
  obtain ⟨evse, hevse, -⟩ := hwf.fits evseId reservation hget
  exact mem_iff_exists_getElem?.mpr ⟨evse, hevse⟩

theorem WellFormed.reserved_mem (hwf : h.WellFormed) :
    ∀ evseId ∈ h.evseReservations, evseId ∈ h.evses := by
  intro evseId hmem
  obtain ⟨reservation, hget⟩ := mem_iff_exists_getElem?.mp hmem
  exact hwf.mem_evses hget

theorem WellFormed.possible_nil (hwf : h.WellFormed) {evses : Evses}
    (hkeys : ∀ evseId, evseId ∈ evses ↔ evseId ∈ h.evses) :
    isReservationPossible evses none [] h.evseReservations = true := by
  rw [isReservationPossible_nil_iff]
  exact size_le_of_mem fun evseId hmem => (hkeys evseId).mpr (hwf.reserved_mem evseId hmem)

theorem storeReservations_eq (h : ReservationHandler) :
    ∃ store, h.storeReservations = { h with store } ∧ store.isSome = h.store.isSome := by
  unfold storeReservations
  split
  · rename_i hstore
    exact ⟨some h.content, rfl, hstore.1.symm⟩
  · exact ⟨h.store, rfl, rfl⟩

/-! ## Cancelled reservations -/

theorem evseOf_eq (h : ReservationHandler) (id : Int) :
    h.evseOf id = h.evseReservations.toList.reverse.findSome? fun entry =>
      if entry.2.reservationId = id then some entry.1 else none := by
  rw [evseOf, TreeMap.foldl_eq_foldl_toList,
    foldl_keeps_last (v := fun evseId : Option Nat => evseId)
      (g := fun entry : Nat × Reservation =>
        if entry.2.reservationId = id then some entry.1 else none), Option.or_none]
  intro evseId entry
  split <;> simp

theorem evseOf_eq_some {id : Int} (hevse : h.evseOf id = some evseId) :
    ∃ reservation, h.evseReservations[evseId]? = some reservation ∧
      reservation.reservationId = id := by
  rw [evseOf_eq] at hevse
  obtain ⟨entry, hmem, hentry⟩ := exists_of_findSome?_eq_some hevse
  split at hentry
  · rename_i hid
    cases hentry
    exact ⟨entry.2, TreeMap.mem_toList_iff_getElem?_eq_some.mp (mem_reverse.mp hmem), hid⟩
  · cases hentry

theorem evseOf_eq_none {id : Int} (hevse : h.evseOf id = none)
    (hget : h.evseReservations[evseId]? = some reservation) :
    reservation.reservationId ≠ id := by
  rw [evseOf_eq] at hevse
  have hentry := findSome?_eq_none_iff.mp hevse (evseId, reservation)
    (mem_reverse.mpr (TreeMap.mem_toList_iff_getElem?_eq_some.mpr hget))
  intro hid
  rw [if_pos hid] at hentry
  cases hentry

theorem evseOf_of_getElem? (hnodup : h.ids.Nodup)
    (hget : h.evseReservations[evseId]? = some reservation) :
    h.evseOf reservation.reservationId = some evseId := by
  cases hevse : h.evseOf reservation.reservationId with
  | none => exact absurd rfl (evseOf_eq_none hevse hget)
  | some evseId' =>
    obtain ⟨reservation', hget', hid⟩ := evseOf_eq_some hevse
    have heq := eq_of_id_eq hnodup (mem_content_evse.mpr hget') (mem_content_evse.mpr hget) hid
    rw [StoredReservation.mk.injEq] at heq
    rw [heq.1]

theorem eraseP_eq_filter {α : Type} {key : α → Int} {l : List α} (hnodup : (l.map key).Nodup)
    (k : Int) : l.eraseP (fun a => key a = k) = l.filter fun a => key a ≠ k := by
  induction l with
  | nil => rfl
  | cons a rest ih =>
    rw [map_cons, nodup_cons] at hnodup
    by_cases hkey : key a = k
    · have hrest : ∀ b ∈ rest, key b ≠ k := fun b hb hk =>
        hnodup.1 (mem_map.mpr ⟨b, hb, hk.trans hkey.symm⟩)
      rw [eraseP_cons_of_pos (by simpa using hkey), filter_cons_of_neg (by simpa using hkey)]
      exact (filter_eq_self.mpr fun b hb => by simpa using hrest b hb).symm
    · rw [eraseP_cons_of_neg (by simpa using hkey),
        filter_cons_of_pos (by simpa using hkey),
        ih hnodup.2]

theorem nodup_globalReservations (hnodup : h.ids.Nodup) :
    (h.globalReservations.map Reservation.reservationId).Nodup := by
  rw [ids, content, map_append, map_map, map_map] at hnodup
  exact hnodup.of_append_right

theorem getElem?_removeReservation (hnodup : h.ids.Nodup) (id : Int) (evseId : Nat)
    (reservation : Reservation) :
    (h.removeReservation id).evseReservations[evseId]? = some reservation ↔
      h.evseReservations[evseId]? = some reservation ∧ reservation.reservationId ≠ id := by
  unfold removeReservation
  split
  · rename_i evseId' hevse
    obtain ⟨reservation', hget', hid⟩ := evseOf_eq_some hevse
    simp only [TreeMap.getElem?_erase, LawfulEqCmp.compare_eq_iff_eq]
    by_cases heq : evseId' = evseId
    · subst heq
      rw [if_pos rfl, hget']
      refine iff_of_false nofun ?_
      rintro ⟨h, hne⟩
      cases h
      exact hne hid
    · rw [if_neg heq]
      refine (and_iff_left_of_imp fun hget hid' => ?_).symm
      have hsame := eq_of_id_eq hnodup (mem_content_evse.mpr hget') (mem_content_evse.mpr hget)
        (hid.trans hid'.symm)
      rw [StoredReservation.mk.injEq, Option.some.injEq] at hsame
      exact heq hsame.1
  · rename_i hevse
    exact (and_iff_left_of_imp fun hget => evseOf_eq_none hevse hget).symm

theorem globalReservations_removeReservation (hnodup : h.ids.Nodup) (id : Int) :
    (h.removeReservation id).globalReservations =
      h.globalReservations.filter fun reservation => reservation.reservationId ≠ id := by
  unfold removeReservation
  split
  · -- the id belongs to an EVSE reservation
    rename_i evseId hevse
    obtain ⟨reservation, hget, hid⟩ := evseOf_eq_some hevse
    refine (filter_eq_self.mpr fun reservation' hmem => ?_).symm
    rw [decide_eq_true_eq]
    intro hid'
    have hsame := eq_of_id_eq hnodup (mem_content_evse.mpr hget) (mem_content_global.mpr hmem)
      (hid.trans hid'.symm)
    rw [StoredReservation.mk.injEq] at hsame
    cases hsame.1
  · exact eraseP_eq_filter (nodup_globalReservations hnodup) id

/-! ### The whole operation -/

theorem cancelReservation_eq (h : ReservationHandler) (id : Int) :
    ∃ store, (h.cancelReservation id).2 =
        (if id ∈ h.timers then
          { h.removeReservation id with timers := h.timers.erase id, store }
        else h) ∧
      store.isSome = h.store.isSome := by
  unfold cancelReservation
  split
  · let stopped := { h with timers := h.timers.erase id }
    have hremove : stopped.removeReservation id =
        { h.removeReservation id with timers := h.timers.erase id } := by
      show stopped.removeReservation id = _
      unfold removeReservation
      rw [show stopped.evseOf id = h.evseOf id from rfl]
      split <;> rfl
    obtain ⟨store, hstore, hsome⟩ := (stopped.removeReservation id).storeReservations_eq
    refine ⟨store, ?_, ?_⟩
    · show (stopped.removeReservation id).storeReservations = _
      rw [hstore, hremove]
    · rw [hsome, hremove]
      show (h.removeReservation id).store.isSome = _
      unfold removeReservation
      split <;> rfl
  · exact ⟨h.store, rfl, rfl⟩

section

variable (hwf : h.WellFormed) (id : Int)

include hwf

theorem not_mem_ids (hid : id ∉ h.timers) : id ∉ h.ids :=
  fun hmem => hid (hwf.timers id hmem)

/-- A cancellation removes exactly its reservation. -/
theorem getElem?_cancelReservation (evseId : Nat) (reservation : Reservation) :
    (h.cancelReservation id).2.evseReservations[evseId]? = some reservation ↔
      h.evseReservations[evseId]? = some reservation ∧ reservation.reservationId ≠ id := by
  obtain ⟨_, hcancel, -⟩ := h.cancelReservation_eq id
  rw [hcancel]
  split
  · exact getElem?_removeReservation hwf.nodup id evseId reservation
  · rename_i hid
    refine (and_iff_left_of_imp fun hget heq => ?_).symm
    exact not_mem_ids hwf id hid (heq ▸ id_mem_ids_evse hget)

theorem globalReservations_cancelReservation :
    (h.cancelReservation id).2.globalReservations =
      h.globalReservations.filter fun reservation => reservation.reservationId ≠ id := by
  obtain ⟨_, hcancel, -⟩ := h.cancelReservation_eq id
  rw [hcancel]
  split
  · exact globalReservations_removeReservation hwf.nodup id
  · rename_i hid
    refine (filter_eq_self.mpr fun reservation hmem => ?_).symm
    rw [decide_eq_true_eq]
    exact fun heq => not_mem_ids hwf id hid (heq ▸ id_mem_ids_global hmem)

/-- **A cancellation removes exactly the reservation with the id.** -/
theorem content_cancelReservation :
    (h.cancelReservation id).2.content =
      h.content.filter fun stored => stored.reservation.reservationId ≠ id := by
  have hentries : (h.cancelReservation id).2.evseReservations.toList =
      h.evseReservations.toList.filter fun entry => entry.2.reservationId ≠ id := by
    refine toList_eq_of_mem_iff (TreeMap.ordered_keys_toList.filter _) ?_
    intro evseId reservation
    rw [mem_filter, decide_eq_true_eq, TreeMap.mem_toList_iff_getElem?_eq_some,
      getElem?_cancelReservation hwf]
  rw [content_eq hentries (globalReservations_cancelReservation hwf id), content,
    filter_append, filter_map, filter_map]
  rfl

end

theorem evses_cancelReservation (h : ReservationHandler) (id : Int) :
    (h.cancelReservation id).2.evses = h.evses := by
  obtain ⟨_, hcancel, -⟩ := h.cancelReservation_eq id
  rw [hcancel]
  split
  · show (h.removeReservation id).evses = h.evses
    unfold removeReservation
    split <;> rfl
  · rfl

theorem mem_evseReservations_of_cancelReservation (hwf : h.WellFormed) {id : Int}
    (hmem : evseId ∈ (h.cancelReservation id).2.evseReservations) :
    evseId ∈ h.evseReservations := by
  obtain ⟨reservation, hget⟩ := mem_iff_exists_getElem?.mp hmem
  have hold := ((getElem?_cancelReservation hwf id evseId reservation).mp hget).1
  exact mem_iff_exists_getElem?.mpr ⟨reservation, hold⟩

theorem isReservationPossible_cancelReservation (hwf : h.WellFormed) {evses evses' : Evses}
    (hkeys : ∀ evseId, evseId ∈ evses' ↔ evseId ∈ evses)
    (hsame : ∀ evseId ∉ h.evseReservations, evses'[evseId]? = evses[evseId]?)
    (hpossible : isReservationPossible evses none h.globalReservations h.evseReservations = true)
    (id : Int) :
    isReservationPossible evses' none (h.cancelReservation id).2.globalReservations
      (h.cancelReservation id).2.evseReservations = true := by
  rw [globalReservations_cancelReservation hwf]
  refine isReservationPossible_of_sublist filter_sublist ?_
  exact isReservationPossible_of_unreserved hkeys
    (fun _ hmem => mem_evseReservations_of_cancelReservation hwf hmem) hsame hpossible

theorem WellFormed.cancelReservation (hwf : h.WellFormed) (id : Int) :
    (h.cancelReservation id).2.WellFormed := by
  have hids : (h.cancelReservation id).2.ids = h.ids.filter (· ≠ id) := by
    rw [ids, content_cancelReservation hwf, ids, filter_map]
    rfl
  constructor
  · intro id' hmem
    rw [hids, mem_filter, decide_eq_true_eq] at hmem
    obtain ⟨_, hcancel, -⟩ := h.cancelReservation_eq id
    rw [hcancel]
    split
    · exact (mem_erase_of_ne hmem.2).mpr (hwf.timers id' hmem.1)
    · exact hwf.timers id' hmem.1
  · rw [hids]
    exact hwf.nodup.filter _
  · intro evseId reservation hget
    rw [evses_cancelReservation]
    exact hwf.fits evseId reservation ((getElem?_cancelReservation hwf id _ _).mp hget).1
  · intro reservation hmem
    rw [globalReservations_cancelReservation hwf, mem_filter] at hmem
    rw [evses_cancelReservation]
    exact hwf.types reservation hmem.1

/-! ## New reservations -/

variable (h)

def withEvseReservation (evseId : Nat) (reservation : Reservation) :
    ReservationHandler :=
  { h with evseReservations := h.evseReservations.insert evseId reservation }.setReservationTimer
    reservation

variable (reservation)

def withGlobalReservation :
    ReservationHandler :=
  { h with
    globalReservations :=
      h.globalReservations ++ [reservation] }.storeReservations.setReservationTimer reservation

/-- An EVSE can be reserved. -/
structure Admits (evseId : Nat) (reservation : Reservation) : Prop where
  notReserved : evseId ∉ h.evseReservations
  serves : ∃ evse, h.evses[evseId]? = some evse ∧ evse.IsFree ∧ evse.Serves reservation.carType
  possible : h.globalReservations = [] ∨
    isReservationPossible h.evses none h.globalReservations
      (h.evseReservations.insert evseId reservation) = true

/-- A global reservation can be accepted. -/
structure AdmitsGlobal : Prop where
  type : ∀ type, reservation.connectorType = some type →
    doesEvseConnectorTypeExist h.evses type = true
  possible : isReservationPossible h.evses (some reservation.carType) h.globalReservations
    h.evseReservations = true

theorem getReservationEvseConnectorState_ne_accepted (connectorType : ConnectorTypeEnum) :
    h.getReservationEvseConnectorState connectorType ≠ .accepted := by
  unfold getReservationEvseConnectorState
  dsimp only
  split
  · decide
  split
  · decide
  split
  · decide
  · -- the combination of states never becomes available
    rw [ne_eq, connectorStateToReservationResult_eq_accepted]
    refine foldlRecOn _ _ (motive := fun state => state ≠ ConnectorState.available) (by decide) ?_
    exact fun state hstate connector _ => getNewConnectorState_ne_available hstate connector.state

/-- It is accepted exactly if it is admitted. -/
theorem makeEvseReservation_cases (evseId : Nat) (reservation : Reservation) :
    (h.Admits evseId reservation ∧ h.makeEvseReservation evseId reservation =
      (.accepted, h.withEvseReservation evseId reservation)) ∨
    (¬ h.Admits evseId reservation ∧
      ∃ result, result ≠ .accepted ∧ h.makeEvseReservation evseId reservation = (result, h)) := by
  unfold makeEvseReservation
  dsimp only
  split
  · rename_i hreserved
    exact .inr ⟨fun hadmits => hadmits.notReserved (TreeMap.contains_iff_mem.mp hreserved),
      _, by decide, rfl⟩
  rename_i hreserved
  rw [TreeMap.contains_iff_mem] at hreserved
  split
  · rename_i hevse
    refine .inr ⟨fun hadmits => ?_, _, by decide, rfl⟩
    obtain ⟨evse, hget, -⟩ := hadmits.serves
    rw [hevse] at hget
    cases hget
  rename_i evse hevse
  -- what the EVSE must meet, in the terms of its definition
  have hserves : h.Admits evseId reservation → evse.IsFree ∧ evse.Serves reservation.carType := by
    intro hadmits
    obtain ⟨evse', hget, hserves⟩ := hadmits.serves
    rw [hevse] at hget
    cases hget
    exact hserves
  split
  · rename_i htype
    refine .inr ⟨fun hadmits => ?_, _, by decide, rfl⟩
    obtain ⟨connector, hmem, hfits, -⟩ := (hserves hadmits).2
    exact htype (hasEvseConnectorType_of_fits hmem hfits)
  split
  · rename_i hstate
    refine .inr ⟨fun hadmits => hstate ?_, _, hstate, rfl⟩
    exact (getEvseConnectorState_iff hevse).mpr ⟨(hserves hadmits).1, hreserved⟩
  rename_i hstate
  rw [not_not, getEvseConnectorState_iff hevse] at hstate
  split
  · rename_i havailable
    refine .inr ⟨fun hadmits => havailable ?_, _, havailable, rfl⟩
    exact (getConnectorAvailability_iff hevse _).mpr (hserves hadmits).2
  rename_i havailable
  rw [not_not, getConnectorAvailability_iff hevse] at havailable
  split
  · rename_i hglobal
    exact .inl ⟨⟨hreserved, ⟨evse, hevse, hstate.1, havailable⟩, .inl hglobal⟩, rfl⟩
  rename_i hglobal
  split
  · rename_i hpossible
    exact .inl ⟨⟨hreserved, ⟨evse, hevse, hstate.1, havailable⟩, .inr hpossible⟩, rfl⟩
  · rename_i hpossible
    exact .inr ⟨fun hadmits => hadmits.possible.elim hglobal hpossible, _,
      getReservationEvseConnectorState_ne_accepted h _, rfl⟩

theorem makeGlobalReservation_cases :
    (h.AdmitsGlobal reservation ∧ h.makeGlobalReservation reservation =
      (.accepted, h.withGlobalReservation reservation)) ∨
    (¬ h.AdmitsGlobal reservation ∧
      ∃ result, result ≠ .accepted ∧ h.makeGlobalReservation reservation = (result, h)) := by
  unfold makeGlobalReservation
  split
  · rename_i htype
    obtain ⟨type, hconnector, hexists⟩ := Option.any_eq_true _ _ |>.mp htype
    refine .inr ⟨fun hadmits => ?_, _, by decide, rfl⟩
    rw [hadmits.type type hconnector] at hexists
    cases hexists
  rename_i htype
  split
  · rename_i hpossible
    refine .inl ⟨⟨fun type hconnector => ?_, hpossible⟩, rfl⟩
    rw [hconnector] at htype
    simpa using htype
  · rename_i hpossible
    exact .inr ⟨fun hadmits => hpossible hadmits.possible, _,
      getReservationEvseConnectorState_ne_accepted h _, rfl⟩

variable {reservation}

/-- Whether a reservation can be made, after an old one with its id has been removed. -/
def AdmitsAny (evseId : Option Nat) (reservation : Reservation) : Prop :=
  match evseId with
  | some evseId => h.Admits evseId reservation
  | none => h.AdmitsGlobal reservation

def withReservation (evseId : Option Nat) (reservation : Reservation) :
    ReservationHandler :=
  match evseId with
  | some evseId => h.withEvseReservation evseId reservation
  | none => h.withGlobalReservation reservation

/-- **Everything a new reservation can do**: nothing, if it has expired; otherwise an old
one with its id is cancelled, and the new one is made or not. -/
theorem makeReservation_cases (now : Int) (evseId : Option Nat) (reservation : Reservation) :
    let cancelled := (h.cancelReservation reservation.reservationId).2
    (reservation.expiryTime < now ∧
      h.makeReservation now evseId reservation = (.rejected, h)) ∨
    (¬ reservation.expiryTime < now ∧ cancelled.AdmitsAny evseId reservation ∧
      h.makeReservation now evseId reservation =
        (.accepted, cancelled.withReservation evseId reservation)) ∨
    (¬ reservation.expiryTime < now ∧ ¬ cancelled.AdmitsAny evseId reservation ∧
      ∃ result, result ≠ .accepted ∧
        h.makeReservation now evseId reservation = (result, cancelled)) := by
  intro cancelled
  unfold makeReservation
  split
  · rename_i hexpired
    exact .inl ⟨hexpired, rfl⟩
  · rename_i hexpired
    refine .inr ?_
    cases evseId with
    | some evseId =>
      exact (cancelled.makeEvseReservation_cases evseId reservation).imp
        (fun hmade => ⟨hexpired, hmade⟩) fun hnot => ⟨hexpired, hnot⟩
    | none =>
      exact (cancelled.makeGlobalReservation_cases reservation).imp
        (fun hmade => ⟨hexpired, hmade⟩) fun hnot => ⟨hexpired, hnot⟩

/-! ### The new entry -/

variable {h}

theorem content_withEvseReservation (hevse : evseId ∉ h.evseReservations)
    (reservation : Reservation) :
    (h.withEvseReservation evseId reservation).content.Perm
      (⟨some evseId, reservation⟩ :: h.content) := by
  have hkeys : ∀ entry ∈ h.evseReservations.toList,
      decide (¬ (evseId == entry.1) = true) = true := by
    intro entry hmem
    rw [decide_eq_true_eq, beq_iff_eq]
    rintro rfl
    exact hevse (mem_iff_exists_getElem?.mpr
      ⟨entry.2, TreeMap.mem_toList_iff_getElem?_eq_some.mp hmem⟩)
  have hinsert := TreeMap.toList_insert_perm (t := h.evseReservations) (k := evseId)
    (v := reservation)
  rw [filter_eq_self.mpr hkeys] at hinsert
  exact (hinsert.map _).append_right _

theorem withGlobalReservation_fields (h : ReservationHandler) (reservation : Reservation) :
    (h.withGlobalReservation reservation).globalReservations =
        h.globalReservations ++ [reservation] ∧
      (h.withGlobalReservation reservation).evseReservations = h.evseReservations ∧
      (h.withGlobalReservation reservation).evses = h.evses ∧
      (h.withGlobalReservation reservation).timers =
        reservation.reservationId :: h.timers.erase reservation.reservationId := by
  obtain ⟨_, hstore, -⟩ := storeReservations_eq
    { h with globalReservations := h.globalReservations ++ [reservation] }
  rw [withGlobalReservation, hstore]
  exact ⟨rfl, rfl, rfl, rfl⟩

/-- One reservation more. -/
theorem content_withReservation {evseId : Option Nat} (hadmits : h.AdmitsAny evseId reservation) :
    (h.withReservation evseId reservation).content.Perm (⟨evseId, reservation⟩ :: h.content) := by
  cases evseId with
  | some evseId => exact content_withEvseReservation hadmits.notReserved reservation
  | none =>
    obtain ⟨hglobals, hspecific, -⟩ := h.withGlobalReservation_fields reservation
    have hcontent : (h.withGlobalReservation reservation).content =
        h.content ++ [⟨none, reservation⟩] := by
      simp [content, hglobals, hspecific]
    show (h.withGlobalReservation reservation).content.Perm _
    rw [hcontent]
    exact perm_append_singleton _ _

theorem withReservation_fields (h : ReservationHandler) (evseId : Option Nat)
    (reservation : Reservation) :
    (h.withReservation evseId reservation).evses = h.evses ∧
      (h.withReservation evseId reservation).timers =
        reservation.reservationId :: h.timers.erase reservation.reservationId := by
  cases evseId with
  | some evseId => exact ⟨rfl, rfl⟩
  | none => exact (h.withGlobalReservation_fields reservation).2.2

theorem wellFormed_iff (h : ReservationHandler) :
    h.WellFormed ↔ (∀ id ∈ h.ids, id ∈ h.timers) ∧ h.ids.Nodup ∧
      ∀ stored ∈ h.content, match stored.evseId with
        | some evseId => ∃ evse, h.evses[evseId]? = some evse ∧
            ∃ connector ∈ evse.connectors, connector.fits stored.reservation.carType = true
        | none => ∀ type, stored.reservation.connectorType = some type →
            doesEvseConnectorTypeExist h.evses type = true := by
  constructor
  · intro hwf
    refine ⟨hwf.timers, hwf.nodup, ?_⟩
    rintro ⟨evseId, reservation⟩ hmem
    cases evseId with
    | some evseId => exact hwf.fits evseId reservation (mem_content_evse.mp hmem)
    | none => exact hwf.types reservation (mem_content_global.mp hmem)
  · rintro ⟨htimers, hnodup, hentries⟩
    exact ⟨htimers, hnodup,
      fun evseId reservation hget =>
        hentries ⟨some evseId, reservation⟩ (mem_content_evse.mpr hget),
      fun reservation hmem => hentries ⟨none, reservation⟩ (mem_content_global.mpr hmem)⟩

theorem WellFormed.withReservation (hwf : h.WellFormed) {evseId : Option Nat}
    (hid : reservation.reservationId ∉ h.ids) (hadmits : h.AdmitsAny evseId reservation) :
    (h.withReservation evseId reservation).WellFormed := by
  have hcontent := content_withReservation hadmits
  obtain ⟨hevses, htimers⟩ := h.withReservation_fields evseId reservation
  have hids : (h.withReservation evseId reservation).ids.Perm
      (reservation.reservationId :: h.ids) := hcontent.map _
  rw [wellFormed_iff] at hwf ⊢
  obtain ⟨htimers', hnodup, hentries⟩ := hwf
  refine ⟨fun id hmem => ?_, ?_, fun stored hmem => ?_⟩
  · rw [htimers]
    rcases mem_cons.mp (hids.mem_iff.mp hmem) with rfl | hold
    · exact mem_cons_self
    · have hne : id ≠ reservation.reservationId := fun heq => hid (heq ▸ hold)
      exact mem_cons_of_mem _ ((mem_erase_of_ne hne).mpr (htimers' id hold))
  · exact hids.nodup_iff.mpr (nodup_cons.mpr ⟨hid, hnodup⟩)
  · rw [hevses]
    rcases mem_cons.mp (hcontent.mem_iff.mp hmem) with rfl | hold
    · -- the new reservation was checked when it was made
      cases evseId with
      | some evseId =>
        obtain ⟨evse, hevse, -, connector, hmem, hfits, -⟩ := hadmits.serves
        exact ⟨evse, hevse, connector, hmem, hfits⟩
      | none => exact hadmits.type
    · exact hentries stored hold

theorem id_not_mem_cancelled (hwf : h.WellFormed) (id : Int) :
    id ∉ (h.cancelReservation id).2.ids := by
  rw [ids, content_cancelReservation hwf]
  intro hmem
  obtain ⟨stored, hstored, hid⟩ := mem_map.mp hmem
  rw [mem_filter, decide_eq_true_eq] at hstored
  exact hstored.2 hid

/-- An old reservation with the id is cancelled first. -/
theorem WellFormed.makeReservation (hwf : h.WellFormed) (now : Int) (evseId : Option Nat)
    (reservation : Reservation) : (h.makeReservation now evseId reservation).2.WellFormed := by
  have hcancelled := hwf.cancelReservation reservation.reservationId
  obtain ⟨-, hmake⟩ | ⟨-, hadmits, hmake⟩ | ⟨-, -, _, -, hmake⟩ :=
    h.makeReservation_cases now evseId reservation
  · rw [hmake]
    exact hwf
  · rw [hmake]
    exact hcancelled.withReservation (id_not_mem_cancelled hwf _) hadmits
  · rw [hmake]
    exact hcancelled

/-! ## Several cancellations -/

section

theorem WellFormed.cancelReservations (hwf : h.WellFormed) (ids : List Int) :
    (h.cancelReservations ids).WellFormed := by
  induction ids generalizing h with
  | nil => exact hwf
  | cons id rest ih => exact ih (hwf.cancelReservation id)

theorem evses_cancelReservations (h : ReservationHandler) (ids : List Int) :
    (h.cancelReservations ids).evses = h.evses := by
  induction ids generalizing h with
  | nil => rfl
  | cons id rest ih => exact (ih _).trans (evses_cancelReservation h id)

/-- What is left has none of the ids. -/
theorem content_cancelReservations (hwf : h.WellFormed) (ids : List Int) :
    (h.cancelReservations ids).content =
      h.content.filter fun stored => stored.reservation.reservationId ∉ ids := by
  induction ids generalizing h with
  | nil => simp [cancelReservations]
  | cons id rest ih =>
    show ((h.cancelReservation id).2.cancelReservations rest).content = _
    rw [ih (hwf.cancelReservation id), content_cancelReservation hwf, filter_filter]
    refine filter_congr fun stored _ => ?_
    simp [Bool.and_comm]

theorem getElem?_cancelReservations (hwf : h.WellFormed) (ids : List Int) (evseId : Nat)
    (reservation : Reservation) :
    (h.cancelReservations ids).evseReservations[evseId]? = some reservation ↔
      h.evseReservations[evseId]? = some reservation ∧ reservation.reservationId ∉ ids := by
  rw [← mem_content_evse, content_cancelReservations hwf, mem_filter, decide_eq_true_eq,
    mem_content_evse]

theorem globalReservations_cancelReservations (hwf : h.WellFormed) (ids : List Int) :
    (h.cancelReservations ids).globalReservations =
      h.globalReservations.filter fun reservation => reservation.reservationId ∉ ids := by
  induction ids generalizing h with
  | nil => simp [cancelReservations]
  | cons id rest ih =>
    show ((h.cancelReservation id).2.cancelReservations rest).globalReservations = _
    rw [ih (hwf.cancelReservation id), globalReservations_cancelReservation hwf, filter_filter]
    refine filter_congr fun reservation _ => ?_
    simp [Bool.and_comm]

end

end ReservationHandler

end EverestCore.Auth
