import EverestCore.Auth.Capacity

/-!
# EVSEs that are shown as reserved

EVSEs that are needed for global reservations are shown as reserved. The handler computes them
anew in each check and reports only what has changed since the last one.

**Main results**: `reserved_of_not_isChargingPossible`, every EVSE that must be kept free is
reserved; `deltas_reconstruct_status_iff`, when the reports give the listener the real status.
-/

namespace EverestCore.Auth

open EverestCore.Lib Std List

namespace ReservationHandler

variable {h : ReservationHandler}

/-! ## Available and reserved EVSEs -/

variable {evseId : Nat}

theorem mem_availableEvses_iff :
    evseId ∈ h.availableEvses ↔ isUsable h.evses h.evseReservations .unknown evseId = true := by
  rw [availableEvses, mem_filter, TreeMap.mem_keys, isUsable, mem_iff_exists_getElem?]
  cases h.evses[evseId]? with
  | none => simp
  | some evse => simp [hasEvseConnectorType]

theorem nodup_availableEvses (h : ReservationHandler) : h.availableEvses.Nodup :=
  TreeMap.nodup_keys.filter _

/-- An EVSE is reserved if all available ones are, or if another car with the type of some
reservation, which could use this EVSE, could not arrive. -/
theorem mem_globallyReservedEvses_iff
    (hmany : h.availableEvses.length ≠ h.globalReservations.length) :
    evseId ∈ h.globallyReservedEvses ↔
      evseId ∈ h.availableEvses ∧ ∃ evse, h.evses[evseId]? = some evse ∧
        ∃ reservation ∈ h.globalReservations,
          isReservationPossible h.evses reservation.connectorType h.globalReservations
            h.evseReservations = false ∧
          hasEvseConnectorType evse.connectors reservation.carType = true := by
  rw [globallyReservedEvses, if_neg hmany, mem_map]
  constructor
  · rintro ⟨⟨_, evse⟩, hmem, rfl⟩
    obtain ⟨hentry, hany⟩ := mem_filter.mp hmem
    obtain ⟨reservation, hreservation, hreserved⟩ := any_eq_true.mp hany
    simp only [Bool.and_eq_true, Bool.not_eq_true', decide_eq_true_eq] at hreserved
    exact ⟨hreserved.2.1, evse, TreeMap.mem_toList_iff_getElem?_eq_some.mp hentry, reservation,
      hreservation, hreserved.1, hreserved.2.2⟩
  · rintro ⟨havailable, evse, hevse, reservation, hreservation, himpossible, htype⟩
    refine ⟨(evseId, evse), mem_filter.mpr
      ⟨TreeMap.mem_toList_iff_getElem?_eq_some.mpr hevse, ?_⟩, rfl⟩
    refine any_eq_true.mpr ⟨reservation, hreservation, ?_⟩
    simp [himpossible, havailable, htype]

/-! ## EVSEs that must be kept free -/

theorem length_globalReservations_le
    (hpossible : isReservationPossible h.evses none h.globalReservations h.evseReservations =
      true) : h.globalReservations.length ≤ h.availableEvses.length := by
  have harrives := ((isReservationPossible_iff_arrives none h.globalReservations).mp hpossible).2 _
    (List.Perm.refl _)
  obtain ⟨taken, hlength, hnodup, htaken⟩ := harrives.exists_taken
  have hsub : taken ⊆ h.availableEvses := by
    intro evseId hmem
    obtain ⟨-, -, carType, -, husable⟩ := htaken evseId hmem
    rw [mem_availableEvses_iff]
    obtain ⟨evse, hevse, hfree, hnot, connector, hmem, -, havailable⟩ :=
      (isUsable_iff carType evseId).mp husable
    exact (isUsable_iff .unknown evseId).mpr
      ⟨evse, hevse, hfree, hnot, connector, hmem, by simp [Connector.fits], havailable⟩
  have hcars : (carTypes none h.globalReservations).length = h.globalReservations.length := by
    simp [carTypes]
  rw [← hcars, ← hlength]
  exact (hnodup.subperm hsub).length_le

theorem length_availableEvses_add_le (hevses : ∀ evseId ∈ h.evseReservations, evseId ∈ h.evses) :
    h.availableEvses.length + h.evseReservations.size ≤ h.evses.size := by
  have hnodup : (h.availableEvses ++ h.evseReservations.keys).Nodup := by
    refine nodup_append'.mpr ⟨h.nodup_availableEvses, TreeMap.nodup_keys, ?_⟩
    intro evseId havailable hreserved
    obtain ⟨-, -, -, hnot, -⟩ := (isUsable_iff _ _).mp (mem_availableEvses_iff.mp havailable)
    exact hnot (TreeMap.mem_keys.mp hreserved)
  have hsub : h.availableEvses ++ h.evseReservations.keys ⊆ h.evses.keys := by
    intro evseId hmem
    rcases mem_append.mp hmem with havailable | hreserved
    · exact (mem_filter.mp havailable).1
    · rw [TreeMap.mem_keys] at hreserved ⊢
      exact hevses evseId hreserved
  have hlength := (hnodup.subperm hsub).length_le
  rw [length_append, TreeMap.length_keys, TreeMap.length_keys] at hlength
  exact hlength

/-- Without the EVSE a car would be stranded that could use it, and there are more available
EVSEs than cars: so the car has a type of its own, and a second car of this type at the EVSE
strands it too. -/
theorem exists_impossible_type
    (hpossible : isReservationPossible h.evses none h.globalReservations h.evseReservations = true)
    (hmany : h.globalReservations.length < h.availableEvses.length) (hstranded : Stranded
      (fun carType other => other ≠ evseId ∧
        isUsable h.evses h.evseReservations carType other = true)
      h.evses.keys (carTypes none h.globalReservations)) :
    ∃ reservation ∈ h.globalReservations,
      isReservationPossible h.evses reservation.connectorType h.globalReservations
        h.evseReservations = false ∧
      isUsable h.evses h.evseReservations reservation.carType evseId = true := by
  have hbefore : ¬ Stranded
      (fun carType other => isUsable h.evses h.evseReservations carType other = true)
      h.evses.keys (carTypes none h.globalReservations) :=
    (arrives_in_every_order_iff _).mp
      ((isReservationPossible_iff_arrives none h.globalReservations).mp hpossible).2
  obtain ⟨carType, hcar, husable, hsuits⟩ := hstranded.exists_of_without hbefore
  obtain ⟨reservation, hmem, rfl⟩ : ∃ reservation ∈ h.globalReservations,
      reservation.carType = carType := by simpa [carTypes] using hcar
  refine ⟨reservation, hmem, ?_, husable⟩
  cases htype : reservation.connectorType with
  | none =>
    -- the car could use every available EVSE, but there are too many of them
    have hunknown : reservation.carType = .unknown := by simp [Reservation.carType, htype]
    have hlength := hsuits h.availableEvses h.nodup_availableEvses fun other hother =>
      ⟨(mem_filter.mp hother).1, hunknown ▸ mem_availableEvses_iff.mp hother⟩
    rw [carTypes, length_append, length_map, Option.toList_none, length_nil] at hlength
    omega
  | some type =>
    have htype' : type = reservation.carType := by simp [Reservation.carType, htype]
    rw [htype', isReservationPossible_some, Bool.eq_false_iff]
    intro htwice
    obtain ⟨evse, hevse, -⟩ := (isUsable_iff _ _).mp husable
    have hplace : evseId ∈ h.evses.keys :=
      TreeMap.mem_keys.mpr (mem_iff_exists_getElem?.mpr ⟨evse, hevse⟩)
    refine (arrives_in_every_order_iff _).mp (fun order horder => ?_) hstranded
    refine arrives_without hplace husable (fun order' horder' => ?_) horder
    refine ((isReservationPossible_iff_arrives none _).mp htwice).2 order' (horder'.trans ?_)
    simpa [carTypes] using (perm_append_singleton _ _).symm

/-- **Every EVSE that must be kept free is shown as reserved**: an available EVSE where
charging is not possible. -/
theorem reserved_of_not_isChargingPossible {h : ReservationHandler}
    (hevses : ∀ evseId ∈ h.evseReservations, evseId ∈ h.evses)
    (hpossible : isReservationPossible h.evses none h.globalReservations h.evseReservations = true)
    {evseId : Nat} (havailable : evseId ∈ h.availableEvses)
    (hnot : h.isChargingPossible evseId = false) : evseId ∈ h.globallyReservedEvses := by
  by_cases hequal : h.availableEvses.length = h.globalReservations.length
  · rw [globallyReservedEvses, if_pos hequal]
    exact havailable
  have hmany : h.globalReservations.length < h.availableEvses.length :=
    Nat.lt_of_le_of_ne (length_globalReservations_le hpossible) (Ne.symm hequal)
  obtain ⟨evse, hevse, -, hfree, -⟩ := (isUsable_iff _ _).mp (mem_availableEvses_iff.mp havailable)
  have hmem := mem_iff_exists_getElem?.mpr ⟨evse, hevse⟩
  -- there are enough EVSEs, so a car is stranded
  have hstranded : Stranded
      (fun carType other => other ≠ evseId ∧
        isUsable h.evses h.evseReservations carType other = true)
      h.evses.keys (carTypes none h.globalReservations) := by
    by_contra hnone
    refine Bool.eq_false_iff.mp hnot ((h.isChargingPossible_iff evseId).mpr ⟨hfree, hmem, ?_⟩)
    rw [isReservationPossible_iff_arrives, arrives_in_every_order_iff, size_insert_of_not_mem hfree]
    simp only [isUsable_insert_iff]
    refine ⟨?_, hnone⟩
    have hsize := length_availableEvses_add_le hevses
    simp only [carTypes, length_append, length_map, Option.toList_none, length_nil]
    omega
  obtain ⟨reservation, hreservation, himpossible, husable⟩ :=
    exists_impossible_type hpossible hmany hstranded
  refine (mem_globallyReservedEvses_iff hequal).mpr
    ⟨havailable, evse, hevse, reservation, hreservation, himpossible, ?_⟩
  obtain ⟨evse', hevse', -, -, connector, hconnector, hfits, -⟩ := (isUsable_iff _ _).mp husable
  cases hevse.symm.trans hevse'
  exact hasEvseConnectorType_of_fits hconnector hfits

/-- With both types reserved, no other car may use the first EVSE. -/
theorem reserved_with_both_types :
    withBothReserved.isChargingPossible 1 = false ∧
      1 ∈ withBothReserved.globallyReservedEvses := by
  exact ⟨by decide, reserved_of_not_isChargingPossible wellFormed_withBothReserved.reserved_mem
    (by decide) (by decide) (by decide)⟩

end ReservationHandler

/-! ## The reports of all checks -/

/-- The handler after its last check, and the EVSEs that a listener takes for reserved who has
followed all reports. -/
structure StatusHistory where
  handler : ReservationHandler := { evses := {} }
  reported : Finset Nat := ∅

namespace StatusHistory

variable {s : StatusHistory} {changed : ReservationHandler}

variable (s)

/-- Another check, after any change of EVSEs and reservations. The last reserved status is
only changed by a check. -/
def step (changed : ReservationHandler) : StatusHistory :=
  let checked := { changed with
    lastReservedStatus := s.handler.lastReservedStatus
  }.checkNumberGlobalReservationsMatchNumberAvailableEvses
  { handler := checked.2
    reported := (s.reported ∪ checked.1.reserved.toFinset) \ checked.1.available.toFinset }

/-- The listener is right about every available EVSE. -/
def Right : Prop :=
  ∀ evseId ∈ s.handler.availableEvses,
    evseId ∈ s.reported ↔ evseId ∈ s.handler.globallyReservedEvses

/-- An EVSE that was reported as reserved, and dropped out of the reserved status without a
report, does not come back available and unreserved. -/
def NoneReturns (changed : ReservationHandler) : Prop :=
  ∀ evseId ∈ s.reported, evseId ∉ s.handler.lastReservedStatus →
    evseId ∈ changed.availableEvses → evseId ∈ changed.globallyReservedEvses

/-- The listener knows of every EVSE that is reserved. -/
def Known : Prop :=
  ∀ evseId ∈ s.handler.lastReservedStatus, evseId ∈ s.reported

variable {s}

theorem mem_reported_step (evseId : Nat) :
    evseId ∈ (s.step changed).reported ↔
      (evseId ∈ s.reported ∨
        evseId ∈ changed.globallyReservedEvses ∧ evseId ∉ s.handler.lastReservedStatus) ∧
      ¬ (evseId ∈ changed.availableEvses ∧ evseId ∉ changed.globallyReservedEvses ∧
        evseId ∈ s.handler.lastReservedStatus) := by
  have hstep : (s.step changed).reported =
      (s.reported ∪ (changed.globallyReservedEvses.filter fun evseId =>
        evseId ∉ s.handler.lastReservedStatus).toFinset) \
        (changed.availableEvses.filter fun evseId =>
          evseId ∉ changed.globallyReservedEvses ∧
            evseId ∈ s.handler.lastReservedStatus).toFinset := rfl
  rw [hstep]
  simp

theorem reported_of_reserved (hknown : s.Known) {evseId : Nat}
    (hreserved : evseId ∈ changed.globallyReservedEvses) :
    evseId ∈ (s.step changed).reported := by
  rw [mem_reported_step]
  refine ⟨?_, fun hdropped => hdropped.2.1 hreserved⟩
  by_cases hlast : evseId ∈ s.handler.lastReservedStatus
  · exact .inl (hknown evseId hlast)
  · exact .inr ⟨hreserved, hlast⟩

theorem Known.step (hknown : s.Known) (changed : ReservationHandler) : (s.step changed).Known :=
  fun _ hreserved => reported_of_reserved hknown hreserved

/-- A report is right unless a reserved EVSE returns unseen. -/
theorem right_step_iff (hknown : s.Known) (changed : ReservationHandler) :
    (s.step changed).Right ↔ s.NoneReturns changed := by
  show (∀ evseId ∈ changed.availableEvses,
    evseId ∈ (s.step changed).reported ↔ evseId ∈ changed.globallyReservedEvses) ↔ _
  constructor
  · intro hright evseId hreported hdropped havailable
    refine (hright evseId havailable).mp ((mem_reported_step evseId).mpr ⟨.inl hreported, ?_⟩)
    exact fun h => hdropped h.2.2
  · intro hnone evseId havailable
    refine ⟨fun hreported => ?_, reported_of_reserved hknown⟩
    obtain ⟨hold | hnew, hkept⟩ := (mem_reported_step evseId).mp hreported
    · by_contra hnot
      -- it was not in the last status, or it would have been reported as available
      have hdropped : evseId ∉ s.handler.lastReservedStatus :=
        fun hlast => hkept ⟨havailable, hnot, hlast⟩
      exact hnot (hnone evseId hold hdropped havailable)
    · exact hnew.1

/-- **The reports give the real status of every available EVSE** after every check exactly if
no EVSE that dropped out of the reserved status while it was not available comes back
unreserved. -/
theorem deltas_reconstruct_status_iff (checks : List ReservationHandler) :
    Always step Right {} checks ↔ Along step NoneReturns {} checks := by
  refine always_iff_along (I := Known) (fun s changed hknown _ _ => hknown.step changed)
    (fun s changed hknown _ => right_step_iff hknown changed) checks ?_ ?_
  · intro evseId hmem
    cases hmem
  · intro evseId hmem
    cases hmem

/-- A reserved EVSE fails, which cancels the reservation, and is repaired. -/
def repairedEvse : List ReservationHandler :=
  let reserved := ReservationHandler.withReservations ReservationHandler.singleEvse [some .cCCS2]
  let failed := reserved.submitEventForConnector 1 1 .faulted
  let repaired := failed.submitEventForConnector 1 1 .errorCleared
  [reserved, failed, repaired]

/-- It is never reported as available. -/
theorem repaired_evse_stays_reported :
    (run step {} repairedEvse).handler.availableEvses = [1] ∧
      (run step {} repairedEvse).handler.globallyReservedEvses = [] ∧
      (run step {} repairedEvse).reported = {1} ∧
      ¬ Always step Right {} repairedEvse := by
  refine ⟨by decide, by decide, by decide, fun hright => ?_⟩
  have hreserved := (hright.last 1 (by decide)).mp (by decide)
  exact absurd hreserved (by decide)

end StatusHistory

end EverestCore.Auth
