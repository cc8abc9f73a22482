import EverestCore.Lib.Arrival
import EverestCore.Lib.OrderedMap
import EverestCore.Auth.Reservations

/-!
# When a reservation is possible

`isReservationPossible` searches all arrival orders and all choices of the cars. What it
decides is a condition on the cars and EVSEs alone: no car finds every EVSE it could use
taken by other cars.

**Main result**: `isReservationPossible_iff_not_stranded`. What is possible stays possible
with fewer cars (`isReservationPossible_of_sublist`) and with fewer EVSE reservations
(`isReservationPossible_of_unreserved`).
-/

namespace EverestCore.Auth

open EverestCore.Lib List

variable {evses : Evses} {evseSpecificReservations : EvseReservations}

/-- An EVSE is usable by a car: it is free and not reserved, and has a fitting connector
that is available. -/
def isUsable (evses : Evses) (evseSpecificReservations : EvseReservations)
    (carType : ConnectorTypeEnum) (evseId : Nat) : Bool :=
  match evses[evseId]? with
  | none => false
  | some evse =>
    getEvseConnectorStateReservationResult evses evseSpecificReservations evseId = .accepted &&
    hasEvseConnectorType evse.connectors carType &&
    getConnectorAvailabilityReservationResult evses evseId carType = .accepted

/-- No car is plugged in, and no connector is in use. -/
def EvseContext.IsFree (evse : EvseContext) : Prop :=
  evse.pluggedIn = false ∧
    ∀ connector ∈ evse.connectors,
      connector.state ≠ .occupied ∧ connector.state ≠ .faultedOccupied

/-- Some available connector fits. -/
def EvseContext.Serves (evse : EvseContext) (carType : ConnectorTypeEnum) : Prop :=
  ∃ connector ∈ evse.connectors, connector.fits carType = true ∧ connector.state = .available

/-! ## Usable EVSEs -/

theorem connectorStateToReservationResult_eq_accepted {state : ConnectorState} :
    connectorStateToReservationResult state = .accepted ↔ state = .available := by
  cases state <;> decide

theorem getNewConnectorState_ne_available {currentState : ConnectorState}
    (h : currentState ≠ .available) (newState : ConnectorState) :
    getNewConnectorState currentState newState ≠ .available := by
  revert h
  cases currentState <;> cases newState <;> decide

variable {carType : ConnectorTypeEnum}

theorem connectorAvailability_iff {state : ConnectorState} (hstate : state ≠ .available)
    (connectors : List Connector) :
    connectorAvailability carType state connectors = .accepted ↔
      ∃ connector ∈ connectors,
        connector.fits carType = true ∧ connector.state = .available := by
  induction connectors generalizing state with
  | nil =>
    rw [connectorAvailability, connectorStateToReservationResult_eq_accepted]
    exact iff_of_false hstate fun ⟨_, h, _⟩ => absurd h not_mem_nil
  | cons connector rest ih =>
    rw [connectorAvailability, exists_mem_cons_iff]
    by_cases hfits : connector.fits carType = true
    · by_cases havailable : connector.state = .available
      · simp [hfits, havailable]
      · rw [if_pos hfits, if_neg havailable,
          ih (getNewConnectorState_ne_available hstate connector.state)]
        simp [havailable]
    · rw [if_neg hfits, ih hstate]
      simp [hfits]

variable {evse : EvseContext}

theorem getConnectorAvailability_iff {evseId : Nat} (hevse : evses[evseId]? = some evse)
    (carType : ConnectorTypeEnum) :
    getConnectorAvailabilityReservationResult evses evseId carType = .accepted ↔
      evse.Serves carType := by
  rw [getConnectorAvailabilityReservationResult, hevse]
  exact connectorAvailability_iff (by decide) evse.connectors

theorem getEvseConnectorState_iff {evseId : Nat} (hevse : evses[evseId]? = some evse) :
    getEvseConnectorStateReservationResult evses evseSpecificReservations evseId = .accepted ↔
      evse.IsFree ∧ evseId ∉ evseSpecificReservations := by
  rw [getEvseConnectorStateReservationResult, hevse]
  dsimp only
  split
  · rename_i hplugged
    refine iff_of_false (by decide) fun h => ?_
    rw [h.1.1] at hplugged
    cases hplugged
  rename_i hplugged
  split
  · -- a connector is occupied
    rename_i connector hfind
    have hoccupied := find?_some hfind
    rw [connectorStateToReservationResult_eq_accepted]
    refine iff_of_false (fun havailable => ?_) fun h => ?_
    · rw [havailable] at hoccupied
      cases hoccupied
    · have hstate := h.1.2 connector (mem_of_find?_eq_some hfind)
      simp [hstate] at hoccupied
  · rename_i hfind
    have hfree : evse.IsFree := by
      refine ⟨Bool.eq_false_of_not_eq_true hplugged, fun connector hmem => ?_⟩
      simpa using find?_eq_none.mp hfind connector hmem
    rw [and_iff_right hfree, ← Std.TreeMap.contains_iff_mem]
    split <;> simp_all

theorem hasEvseConnectorType_of_fits {connectors : List Connector} {connector : Connector}
    (hmem : connector ∈ connectors) (hfits : connector.fits carType = true) :
    hasEvseConnectorType connectors carType = true := by
  unfold hasEvseConnectorType
  unfold Connector.fits at hfits
  rw [Bool.or_eq_true, any_eq_true]
  by_cases hunknown : carType = .unknown
  · exact .inl (decide_eq_true hunknown)
  · exact .inr ⟨connector, hmem, by simp_all [or_comm]⟩

/-- What makes an EVSE usable for a car. -/
theorem isUsable_iff (carType : ConnectorTypeEnum) (evseId : Nat) :
    isUsable evses evseSpecificReservations carType evseId = true ↔
      ∃ evse, evses[evseId]? = some evse ∧ evse.IsFree ∧
        evseId ∉ evseSpecificReservations ∧ evse.Serves carType := by
  unfold isUsable
  cases hevse : evses[evseId]? with
  | none => simp
  | some evse =>
    simp only [Bool.and_eq_true, decide_eq_true_eq, getEvseConnectorState_iff hevse,
      getConnectorAvailability_iff hevse, Option.some.injEq, exists_eq_left']
    constructor
    · rintro ⟨⟨⟨hfree, hnot⟩, -⟩, hserves⟩
      exact ⟨hfree, hnot, hserves⟩
    · rintro ⟨hfree, hnot, hserves⟩
      obtain ⟨connector, hmem, hfits, -⟩ := id hserves
      exact ⟨⟨⟨hfree, hnot⟩, hasEvseConnectorType_of_fits hmem hfits⟩, hserves⟩

/-! ## The search -/

theorem mem_toList_usable_iff {evseId : Nat} (hmem : (evseId, evse) ∈ evses.toList) :
    (getEvseConnectorStateReservationResult evses evseSpecificReservations evseId = .accepted ∧
      hasEvseConnectorType evse.connectors carType = true ∧
      getConnectorAvailabilityReservationResult evses evseId carType = .accepted) ↔
    isUsable evses evseSpecificReservations carType evseId = true := by
  rw [isUsable, Std.TreeMap.mem_toList_iff_getElem?_eq_some.mp hmem]
  simp [and_assoc]

/-- The loop over the EVSEs tries each one that is usable and free. -/
theorem tryEvses_iff {usedEvseIds : List Nat} {nextCar : ConnectorTypeEnum} {isLast : Bool}
    {nextLevel : List Nat → Bool} {isPossible : Bool} {entries : List (Nat × EvseContext)}
    (hentries : ∀ entry ∈ entries, entry ∈ evses.toList) :
    tryEvses evses evseSpecificReservations usedEvseIds nextCar isLast nextLevel isPossible
        entries = true ↔
      (isPossible = true ∨ ∃ entry ∈ entries, entry.1 ∉ usedEvseIds ∧
        isUsable evses evseSpecificReservations nextCar entry.1 = true) ∧
      ∀ entry ∈ entries, entry.1 ∉ usedEvseIds →
        isUsable evses evseSpecificReservations nextCar entry.1 = true →
          isLast = true ∨ nextLevel (usedEvseIds ++ [entry.1]) = true := by
  induction entries generalizing isPossible with
  | nil => simp [tryEvses]
  | cons entry rest ih =>
    obtain ⟨evseId, evse⟩ := entry
    have hrest : ∀ entry ∈ rest, entry ∈ evses.toList :=
      fun entry h => hentries entry (mem_cons_of_mem _ h)
    rw [tryEvses]
    simp only [mem_toList_usable_iff (hentries _ mem_cons_self),
      exists_mem_cons_iff, forall_mem_cons]
    by_cases hused : evseId ∈ usedEvseIds
    · rw [if_pos hused, ih hrest]
      simp [hused]
    rw [if_neg hused]
    by_cases husable : isUsable evses evseSpecificReservations nextCar evseId = true
    · rw [if_pos husable]
      cases isLast with
      | true => simp [hused, husable]
      | false =>
        by_cases hnext : nextLevel (usedEvseIds ++ [evseId]) = true
        · simp [hused, husable, hnext, ih hrest]
        · simp [hused, husable, hnext]
    · rw [if_neg husable, ih hrest]
      simp [husable]

/-- The search is the arrival of guests at places. -/
theorem canVirtualCarArrive_iff (usedEvseIds : List Nat) {order : List ConnectorTypeEnum}
    (horder : order ≠ []) :
    canVirtualCarArrive evses evseSpecificReservations usedEvseIds order = true ↔
      Arrives (fun carType evseId => isUsable evses evseSpecificReservations carType evseId = true)
        evses.keys usedEvseIds order := by
  have hkeys : ∀ evseId, evseId ∈ evses.keys ↔ ∃ evse, (evseId, evse) ∈ evses.toList := by
    intro evseId
    rw [Std.TreeMap.mem_keys, mem_iff_exists_getElem?]
    simp
  induction order generalizing usedEvseIds with
  | nil => exact absurd rfl horder
  | cons nextCar rest ih =>
    -- after the next car, the same holds for the rest, if there is any
    have hrest : ∀ evseId, (rest.isEmpty = true ∨
        canVirtualCarArrive evses evseSpecificReservations (usedEvseIds ++ [evseId]) rest = true) ↔
        Arrives
          (fun carType evseId => isUsable evses evseSpecificReservations carType evseId = true)
          evses.keys (evseId :: usedEvseIds) rest := by
      intro evseId
      cases rest with
      | nil => simp [Arrives]
      | cons car rest =>
        have hnext := ih (usedEvseIds ++ [evseId]) (cons_ne_nil car rest)
        simp only [isEmpty_cons, Bool.false_eq_true, false_or, hnext]
        exact arrives_congr (fun e => by simp [or_comm]) _
    rw [canVirtualCarArrive, tryEvses_iff fun _ h => h, Arrives]
    simp only [Bool.false_eq_true, false_or, hrest, Prod.exists, Prod.forall, hkeys]
    constructor
    · rintro ⟨⟨evseId, evse, hmem, hfree, husable⟩, hall⟩
      refine ⟨⟨evseId, ⟨evse, hmem⟩, hfree, husable⟩, ?_⟩
      rintro e ⟨evse, hmem⟩ hfree husable
      exact hall e evse hmem hfree husable
    · rintro ⟨⟨evseId, ⟨evse, hmem⟩, hfree, husable⟩, hall⟩
      exact ⟨⟨evseId, evse, hmem, hfree, husable⟩,
        fun e evse hmem hfree husable => hall e ⟨evse, hmem⟩ hfree husable⟩

theorem isReservationPossible_iff_arrives (globalReservationType : Option ConnectorTypeEnum)
    (reservationsNoEvse : List Reservation) :
    isReservationPossible evses globalReservationType reservationsNoEvse
        evseSpecificReservations = true ↔
      (carTypes globalReservationType reservationsNoEvse).length + evseSpecificReservations.size ≤
        evses.size ∧
      ∀ order, order.Perm (carTypes globalReservationType reservationsNoEvse) →
        Arrives
          (fun carType evseId => isUsable evses evseSpecificReservations carType evseId = true)
          evses.keys [] order := by
  generalize htypes : carTypes globalReservationType reservationsNoEvse = types
  simp only [isReservationPossible, htypes]
  split
  · rename_i hmany
    exact iff_of_false Bool.false_ne_true fun h => absurd h.1 (Nat.not_le.mpr hmany)
  · rename_i hmany
    rw [and_iff_right (Nat.not_lt.mp hmany), all_eq_true, getAllPossibleOrders]
    split
    · -- without cars there is nothing to check
      rename_i hempty
      subst hempty
      refine iff_of_true nofun fun order horder => ?_
      rw [perm_nil.mp horder]
      trivial
    · rename_i hne
      refine forall_congr' fun order => ?_
      rw [mem_allOrders_iff]
      refine forall_congr' fun horder => canVirtualCarArrive_iff [] ?_
      rintro rfl
      exact hne (nil_perm.mp horder)

/-- **Every distinct order of the cars is listed exactly once**, whatever order they are
given in. -/
theorem getAllPossibleOrders_lists_permutations {connectors : List ConnectorTypeEnum}
    (hne : connectors ≠ []) :
    (getAllPossibleOrders connectors).Nodup ∧
      ∀ order, order ∈ getAllPossibleOrders connectors ↔ order.Perm connectors := by
  rw [getAllPossibleOrders, if_neg hne]
  exact ⟨nodup_allOrders connectors, mem_allOrders_iff connectors⟩

theorem getAllPossibleOrders_of_repeated_type :
    [ConnectorTypeEnum.cType2, .cType2, .cCCS2] ∈
      getAllPossibleOrders [.cType2, .cCCS2, .cType2] :=
  ((getAllPossibleOrders_lists_permutations (cons_ne_nil _ _)).2 _).mpr (by decide)

/-- **A reservation is possible exactly if the cars and EVSE reservations are no more than
the EVSEs and no car can be stranded**: no injective assignment of other cars to EVSEs
usable by them covers every EVSE usable by it. -/
theorem isReservationPossible_iff_not_stranded (evses : Evses)
    (globalReservationType : Option ConnectorTypeEnum) (reservationsNoEvse : List Reservation)
    (evseSpecificReservations : EvseReservations) :
    isReservationPossible evses globalReservationType reservationsNoEvse
        evseSpecificReservations = true ↔
      (carTypes globalReservationType reservationsNoEvse).length + evseSpecificReservations.size ≤
        evses.size ∧
      ¬ Stranded
          (fun carType evseId => isUsable evses evseSpecificReservations carType evseId = true)
          evses.keys (carTypes globalReservationType reservationsNoEvse) := by
  rw [isReservationPossible_iff_arrives, arrives_in_every_order_iff]

/-! ## Fewer cars and fewer EVSE reservations -/

theorem isReservationPossible_some (evses : Evses) (evseSpecificReservations : EvseReservations)
    (kept : List Reservation) (reservation : Reservation) :
    isReservationPossible evses (some reservation.carType) kept evseSpecificReservations =
      isReservationPossible evses none (kept ++ [reservation]) evseSpecificReservations := by
  simp [isReservationPossible, carTypes]

/-- Without cars only the numbers are compared. -/
theorem isReservationPossible_nil_iff :
    isReservationPossible evses none [] evseSpecificReservations = true ↔
      evseSpecificReservations.size ≤ evses.size := by
  simp [isReservationPossible, carTypes, getAllPossibleOrders]

variable {globalReservationType : Option ConnectorTypeEnum}

theorem isReservationPossible_of_append {reservationsNoEvse more : List Reservation}
    (h : isReservationPossible evses globalReservationType (reservationsNoEvse ++ more)
      evseSpecificReservations = true) :
    isReservationPossible evses none reservationsNoEvse evseSpecificReservations = true := by
  rw [isReservationPossible_iff_arrives] at h ⊢
  have htypes : carTypes globalReservationType (reservationsNoEvse ++ more) =
      carTypes none reservationsNoEvse ++
        (more.map Reservation.carType ++ globalReservationType.toList) := by
    simp [carTypes]
  rw [htypes] at h
  rw [length_append] at h
  exact ⟨by omega, fun order horder => arrives_of_fewer_guests h.2 horder⟩

theorem isReservationPossible_of_perm {reservationsNoEvse reservationsNoEvse' : List Reservation}
    (hperm : reservationsNoEvse.Perm reservationsNoEvse')
    (h : isReservationPossible evses none reservationsNoEvse evseSpecificReservations = true) :
    isReservationPossible evses none reservationsNoEvse' evseSpecificReservations = true := by
  rw [isReservationPossible_iff_arrives] at h ⊢
  have htypes : (carTypes none reservationsNoEvse).Perm (carTypes none reservationsNoEvse') := by
    simpa [carTypes] using hperm.map Reservation.carType
  rw [← htypes.length_eq]
  exact ⟨h.1, fun order horder => h.2 order (horder.trans htypes.symm)⟩

theorem isReservationPossible_of_sublist {reservationsNoEvse fewer : List Reservation}
    (hsub : fewer.Sublist reservationsNoEvse)
    (h : isReservationPossible evses none reservationsNoEvse evseSpecificReservations = true) :
    isReservationPossible evses none fewer evseSpecificReservations = true := by
  obtain ⟨more, hperm⟩ := hsub.exists_perm_append
  exact isReservationPossible_of_append (isReservationPossible_of_perm hperm h)

variable {evseSpecificReservations' : EvseReservations}

/-- EVSE reservations may be dropped, and EVSEs that were reserved may change: nobody could
use them before. -/
theorem isReservationPossible_of_unreserved {evses' : Evses} {reservationsNoEvse : List Reservation}
    (hkeys : ∀ evseId, evseId ∈ evses' ↔ evseId ∈ evses)
    (hsub : ∀ evseId ∈ evseSpecificReservations', evseId ∈ evseSpecificReservations)
    (hsame : ∀ evseId ∉ evseSpecificReservations, evses'[evseId]? = evses[evseId]?)
    (h : isReservationPossible evses globalReservationType reservationsNoEvse
      evseSpecificReservations = true) :
    isReservationPossible evses' globalReservationType reservationsNoEvse
      evseSpecificReservations' = true := by
  rw [isReservationPossible_iff_arrives, arrives_in_every_order_iff] at h ⊢
  have hevses := keys_eq_of_mem_iff hkeys
  have hsize := size_eq_of_mem_iff hkeys
  have hfewer := size_le_of_mem hsub
  refine ⟨by omega, ?_⟩
  rw [hevses]
  refine not_stranded_of_more_places (fun evseId _ => ?_) h.2
  by_cases hreserved : evseId ∈ evseSpecificReservations
  · refine .inr fun carType _ husable => ?_
    obtain ⟨-, -, -, hnot, -⟩ := (isUsable_iff carType evseId).mp husable
    exact hnot hreserved
  · refine .inl fun carType _ => ?_
    have hnot : evseId ∉ evseSpecificReservations' := fun hmem => hreserved (hsub evseId hmem)
    rw [isUsable_iff, isUsable_iff, hsame evseId hreserved]
    simp [hreserved, hnot]

theorem isReservationPossible_congr
    (hmem : ∀ evseId : Nat, evseSpecificReservations'[evseId]? = evseSpecificReservations[evseId]?)
    (reservationsNoEvse : List Reservation) :
    isReservationPossible evses globalReservationType reservationsNoEvse
        evseSpecificReservations' =
      isReservationPossible evses globalReservationType reservationsNoEvse
        evseSpecificReservations := by
  have hkey : ∀ evseId, evseId ∈ evseSpecificReservations' ↔ evseId ∈ evseSpecificReservations := by
    intro evseId
    rw [mem_iff_exists_getElem?, mem_iff_exists_getElem?, hmem]
  exact Bool.eq_iff_iff.mpr
    ⟨isReservationPossible_of_unreserved (fun _ => Iff.rfl) (fun evseId => (hkey evseId).mpr)
      fun _ _ => rfl,
    isReservationPossible_of_unreserved (fun _ => Iff.rfl) (fun evseId => (hkey evseId).mp)
      fun _ _ => rfl⟩

end EverestCore.Auth
