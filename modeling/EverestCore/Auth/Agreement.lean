import EverestCore.Auth.EvseManagers

/-!
# Auth and the EVSE managers agree about reservations

The manager of an EVSE holds the reservation that Auth has for the EVSE, or Auth will receive
the end of that reservation. Cancellations keep this, because Auth also calls the manager;
a reservation that is made again under the same id for another EVSE does not, and neither does
a reservation that is used.

**Main result**: `evse_reservations_agree`.
-/

namespace EverestCore.Auth

open EverestCore.Lib Function List Option
open EverestCore.Charging (EvseState)

open ReservationHandler

/-! ## One EVSE -/

namespace EvseManager

/-- The EVSE is idle, and an id is stored only with a reservation. -/
structure Sound (m : EvseManager) : Prop where
  idle : m.currentState = .idle
  noError : m.fatalError = false
  stored : m.reservationId = -1 ∨ m.reserved = true ∧ 0 ≤ m.reservationId

variable {m : EvseManager}

theorem reserve_eq (hidle : m.currentState = .idle) (herror : m.fatalError = false) (id : Int)
    (signal : Bool) :
    m.reserve id signal =
      if m.reserved = false ∨ m.reservationId = -1 ∨ m.reservationId = id then
        ((true, if (m.reservationId ≠ id ∨ (if id ≥ 0 then id else m.reservationId) = -1) ∧ signal
            then [.reservationStart] else []),
          { m with reserved := true, reservationId := if id ≥ 0 then id else m.reservationId })
      else ((false, []), m) := by
  simp [reserve, hidle, herror]

theorem Sound.cancelReservation (hsound : m.Sound) (signal : Bool) :
    (m.cancelReservation signal).2.Sound ∧ (m.cancelReservation signal).2.reservationId = -1 := by
  unfold EvseManager.cancelReservation
  split
  · exact ⟨⟨hsound.idle, hsound.noError, .inl rfl⟩, rfl⟩
  · rename_i hfree
    have hnone : m.reservationId = -1 := hsound.stored.resolve_right fun hheld => hfree hheld.1
    exact ⟨hsound, hnone⟩

theorem Sound.authorizeResponse (hsound : m.Sound) (hnone : m.reservationId = -1) {id : Int}
    (hnegative : id < 0) :
    (m.authorizeResponse id).Sound ∧ (m.authorizeResponse id).reservationId = -1 := by
  have hstarted : ∀ started : EvseManager, started.Sound → started.reservationId = -1 →
      (started.reserve id false).2.Sound ∧ (started.reserve id false).2.reservationId = -1 := by
    intro started hsound hnone
    rw [reserve_eq hsound.idle hsound.noError, if_pos (.inr (.inl hnone))]
    simp only [if_neg (not_le.mpr hnegative), ge_iff_le]
    exact ⟨⟨hsound.idle, hsound.noError, .inl hnone⟩, hnone⟩
  unfold EvseManager.authorizeResponse
  split
  · exact hstarted m hsound hnone
  · obtain ⟨hcancelled, hfree⟩ := hsound.cancelReservation false
    exact hstarted _ { hcancelled with } hfree

end EvseManager

/-- A manager, its events on their way and Auth's reservation for the EVSE: Auth knows what the
manager holds, and the manager holds what Auth has, unless its end is on the way. -/
structure Linked (m : EvseManager) (queue : List SessionEvent) (reservation : Option Reservation) :
    Prop where
  sound : m.Sound
  held : m.reservationId ≠ -1 →
    ∃ r, reservation = some r ∧ r.reservationId = m.reservationId
  known : ∀ r, reservation = some r → 0 ≤ r.reservationId →
    m.reservationId = r.reservationId ∨ SessionEvent.reservationEnd ∈ queue

namespace Linked

variable {m : EvseManager} {queue : List SessionEvent} {reservation : Option Reservation}

/-- The manager cancels, and Auth will receive the end. -/
theorem cancelManager (hlinked : Linked m queue reservation) :
    Linked (m.cancelReservation true).2 (queue ++ (m.cancelReservation true).1) reservation := by
  obtain ⟨hsound, hnone⟩ := hlinked.sound.cancelReservation true
  refine ⟨hsound, fun hheld => absurd hnone hheld, fun r hr hid => ?_⟩
  rcases hlinked.known r hr hid with heq | hend
  · have hreserved : m.reserved = true := by
      rcases hlinked.sound.stored with hfree | hheld
      · omega
      · exact hheld.1
    exact .inr (mem_append_right _ (by simp [EvseManager.cancelReservation, hreserved]))
  · exact .inr (mem_append_left _ hend)

theorem reserveGlobal (hlinked : Linked m queue reservation) :
    Linked (m.reserve (-1) true).2 (queue ++ (m.reserve (-1) true).1.2) reservation := by
  rw [EvseManager.reserve_eq hlinked.sound.idle hlinked.sound.noError]
  split
  · refine ⟨⟨hlinked.sound.idle, hlinked.sound.noError, ?_⟩, ?_, ?_⟩
    · exact hlinked.sound.stored.imp_right fun hheld => ⟨rfl, hheld.2⟩
    · exact hlinked.held
    · exact fun r hr hid => (hlinked.known r hr hid).imp_right (mem_append_left _)
  · rw [append_nil]
    exact hlinked

/-- Both hold a new reservation. -/
theorem made (queue : List SessionEvent) (hsound : m.Sound) {r : Reservation}
    (hfree : m.reservationId = -1 ∨ m.reservationId = r.reservationId) :
    (m.reserve r.reservationId true).1.1 = true ∧
      Linked (m.reserve r.reservationId true).2
        (queue ++ (m.reserve r.reservationId true).1.2) (some r) := by
  rw [EvseManager.reserve_eq hsound.idle hsound.noError, if_pos (.inr hfree)]
  refine ⟨rfl, ?_⟩
  by_cases hid : r.reservationId ≥ 0
  · simp only [if_pos hid]
    refine ⟨⟨hsound.idle, hsound.noError, .inr ⟨rfl, hid⟩⟩, fun _ => ⟨r, rfl, rfl⟩, ?_⟩
    intro other hother _
    cases hother
    exact .inl rfl
  · -- a negative id is not stored
    have hnone : m.reservationId = -1 := by
      rcases hsound.stored with hnone | hheld
      · exact hnone
      · omega
    simp only [if_neg hid]
    refine ⟨⟨hsound.idle, hsound.noError, .inl hnone⟩, fun hheld => absurd hnone hheld, ?_⟩
    intro other hother hother'
    cases hother
    exact absurd hother' hid

theorem cancelAuth (hlinked : Linked m queue reservation) {reservation' : Option Reservation}
    {id : Int}
    (hcancelled : ∀ r, reservation' = some r ↔ reservation = some r ∧ r.reservationId ≠ id)
    (hfree : m.reservationId = id → m.reservationId = -1) : Linked m queue reservation' := by
  refine ⟨hlinked.sound, fun hheld => ?_, fun r hr => ?_⟩
  · obtain ⟨r, hr, hid⟩ := hlinked.held hheld
    exact ⟨r, (hcancelled r).mpr ⟨hr, fun heq => hheld (hfree (hid.symm.trans heq))⟩, hid⟩
  · exact hlinked.known r ((hcancelled r).mp hr).1

theorem freed (hsound : m.Sound) (hnone : m.reservationId = -1) : Linked m queue none :=
  ⟨hsound, fun hheld => absurd hnone hheld, nofun⟩

end Linked

/-! ## The system -/

namespace AuthSystem

/-- Every EVSE is linked, and Auth is well formed. -/
structure Inv (s : AuthSystem) : Prop where
  wellFormed : s.handler.WellFormed
  positive : ∀ evseId ∈ s.handler.evses, 0 < evseId
  linked : ∀ evseId : Nat,
    Linked (s.managers evseId) (s.queues evseId) s.handler.evseReservations[evseId]?

variable {s : AuthSystem}

theorem Inv.publishReservationUpdate (hinv : s.Inv) (reservationId : Int)
    (status : ReservationStatus) : (s.publishReservationUpdate reservationId status).Inv :=
  { hinv with }

variable {evseId : Nat}

theorem Inv.withManager (hwf : s.handler.WellFormed)
    (hpositive : ∀ evseId ∈ s.handler.evses, 0 < evseId) {events : List SessionEvent}
    {manager : EvseManager}
    (hself : Linked manager (s.queues evseId ++ events) s.handler.evseReservations[evseId]?)
    (hothers : ∀ other : Nat, other ≠ evseId →
      Linked (s.managers other) (s.queues other) s.handler.evseReservations[other]?) :
    (s.withManager evseId events manager).Inv := by
  refine ⟨hwf, hpositive, fun other => ?_⟩
  show Linked (update s.managers evseId manager other)
    (update s.queues evseId (s.queues evseId ++ events) other)
    s.handler.evseReservations[other]?
  by_cases hother : other = evseId
  · subst hother
    rw [update_self, update_self]
    exact hself
  · rw [update_of_ne hother, update_of_ne hother]
    exact hothers other hother

theorem Inv.callCancelReservation (hinv : s.Inv) (evseId : Nat) :
    (s.callCancelReservation evseId).Inv :=
  Inv.withManager hinv.wellFormed hinv.positive (hinv.linked evseId).cancelManager
    fun other _ => hinv.linked other

theorem Inv.cancelAuth (hinv : s.Inv) {id : Int}
    (hfree : ∀ evseId, (s.managers evseId).reservationId = id →
      (s.managers evseId).reservationId = -1) :
    { s with handler := (s.handler.cancelReservation id).2 }.Inv := by
  refine ⟨hinv.wellFormed.cancelReservation id, ?_, fun evseId => ?_⟩
  · show ∀ evseId ∈ (s.handler.cancelReservation id).2.evses, 0 < evseId
    rw [evses_cancelReservation]
    exact hinv.positive
  · exact (hinv.linked evseId).cancelAuth
      (getElem?_cancelReservation hinv.wellFormed id evseId) (hfree evseId)

/-! ### Checks of the global reservations -/

theorem inv_reservationCancelledCallback {evseId : Option Nat}
    (hcalled : (s.cancelAtManager evseId).Inv) (reservationId : Int)
    (reason : ReservationEndReason) (send : Bool) :
    (s.reservationCancelledCallback evseId reservationId reason send).Inv := by
  unfold reservationCancelledCallback
  split
  · exact hcalled.publishReservationUpdate _ _
  · exact hcalled.publishReservationUpdate _ _
  · exact hcalled

theorem Inv.reservedCallbackGlobal (hinv : s.Inv) (evseId : Nat) :
    (s.reservedCallback (some evseId) (-1)).2.Inv := by
  have hreserve : (s.callReserve evseId (-1)).2.Inv :=
    Inv.withManager hinv.wellFormed hinv.positive (hinv.linked evseId).reserveGlobal
      fun other _ => hinv.linked other
  unfold reservedCallback
  dsimp only
  split
  · exact hreserve.publishReservationUpdate _ _
  · exact hreserve.cancelAuth fun _ hnone => hnone

theorem Inv.checkEvseReservedAndSendUpdates (hinv : s.Inv) :
    s.checkEvseReservedAndSendUpdates.Inv := by
  unfold AuthSystem.checkEvseReservedAndSendUpdates
  refine foldlRecOn _ _ (foldlRecOn _ _ ?_ ?_) ?_
  · exact ⟨⟨hinv.wellFormed.timers, hinv.wellFormed.nodup, hinv.wellFormed.fits,
      hinv.wellFormed.types⟩, hinv.positive, hinv.linked⟩
  · intro s hinv evseId _
    refine inv_reservationCancelledCallback ?_ _ _ _
    rw [cancelAtManager]
    split
    · exact hinv.callCancelReservation evseId
    · exact hinv
  · exact fun s hinv evseId _ => hinv.reservedCallbackGlobal evseId

/-! ### Cancellations -/

/-- A cancellation with its callback. What is known of the EVSE of the cancelled reservation
does not matter. -/
theorem inv_cancelReservation (hwf : s.handler.WellFormed)
    (hpositive : ∀ evseId ∈ s.handler.evses, 0 < evseId)
    (hsound : ∀ evseId, (s.managers evseId).Sound) {id : Int}
    (hlinked : ∀ evseId : Nat,
      (∀ r, s.handler.evseReservations[evseId]? = some r → r.reservationId ≠ id) →
        Linked (s.managers evseId) (s.queues evseId) s.handler.evseReservations[evseId]?)
    (reason : ReservationEndReason) (send : Bool) :
    (s.cancelReservation id reason send).Inv := by
  have hget := getElem?_cancelReservation hwf id
  -- the other EVSEs keep their reservation
  have hother : ∀ evseId : Nat,
      (∀ r, s.handler.evseReservations[evseId]? = some r → r.reservationId ≠ id) →
        Linked (s.managers evseId) (s.queues evseId)
          (s.handler.cancelReservation id).2.evseReservations[evseId]? := by
    intro evseId hne
    refine (hlinked evseId hne).cancelAuth (hget evseId) fun heq => ?_
    by_contra hheld
    obtain ⟨r, hr, hid⟩ := (hlinked evseId hne).held hheld
    exact hne r hr (hid.trans heq)
  have hwf' := hwf.cancelReservation id
  have hpositive' : ∀ evseId ∈ (s.handler.cancelReservation id).2.evses, 0 < evseId := by
    rw [evses_cancelReservation]
    exact hpositive
  unfold cancelReservation
  dsimp only
  by_cases hid : id ∈ s.handler.timers
  · have hresult : (s.handler.cancelReservation id).1 = (true, s.handler.evseOf id) := by
      rw [ReservationHandler.cancelReservation, if_pos hid]
    rw [hresult, if_pos rfl]
    refine Inv.checkEvseReservedAndSendUpdates (inv_reservationCancelledCallback ?_ id reason send)
    cases hevse : s.handler.evseOf id with
    | none =>
      -- a global reservation
      exact ⟨hwf', hpositive', fun other => hother other fun r hr =>
        evseOf_eq_none hevse hr⟩
    | some evseId =>
      obtain ⟨reservation, hreservation, hreservationId⟩ := evseOf_eq_some hevse
      rw [cancelAtManager, if_pos (hpositive evseId (hwf.mem_evses hreservation))]
      obtain ⟨hsound', hnone⟩ := (hsound evseId).cancelReservation true
      refine Inv.withManager hwf' hpositive' ?_ fun other hne => hother other fun r hr heq => ?_
      · have hcancelled : (s.handler.cancelReservation id).2.evseReservations[evseId]? = none := by
          refine eq_none_iff_forall_ne_some.mpr fun r hr => ?_
          obtain ⟨hold, hne⟩ := (hget evseId r).mp hr
          cases hold.symm.trans hreservation
          exact hne hreservationId
        show Linked _ _ (s.handler.cancelReservation id).2.evseReservations[evseId]?
        rw [hcancelled]
        exact Linked.freed hsound' hnone
      · cases eq_of_id_eq hwf.nodup
          (mem_content_evse.mpr hr)
          (mem_content_evse.mpr hreservation) (heq.trans hreservationId.symm)
        exact hne rfl
  · have hresult : (s.handler.cancelReservation id).1.1 = false := by
      rw [ReservationHandler.cancelReservation, if_neg hid]
    rw [hresult]
    exact ⟨hwf', hpositive', fun other => hother other fun r hr heq =>
      not_mem_ids hwf id hid (heq ▸ id_mem_ids_evse hr)⟩

theorem Inv.cancelReservation (hinv : s.Inv) (id : Int) (reason : ReservationEndReason)
    (send : Bool) : (s.cancelReservation id reason send).Inv :=
  inv_cancelReservation hinv.wellFormed hinv.positive (fun evseId => (hinv.linked evseId).sound)
    (fun evseId _ => hinv.linked evseId) reason send

theorem Inv.submitEventForConnector (hinv : s.Inv) (evseId connectorId : Nat)
    (event : ConnectorEvent) : (s.submitEventForConnector evseId connectorId event).Inv := by
  unfold AuthSystem.submitEventForConnector
  split
  · exact hinv
  · split
    · exact hinv
    · refine foldlRecOn _ _ ⟨hinv.wellFormed.withConnectorState _ _ _, fun other hmem => ?_,
        hinv.linked⟩ fun s hinv id _ => hinv.cancelReservation id _ _
      exact hinv.positive other (Std.TreeMap.mem_modify.mp hmem)

/-! ### Session events -/

theorem linked_queues {rest : List SessionEvent} (hinv : s.Inv) {other : Nat}
    (hself : Linked (s.managers evseId) rest s.handler.evseReservations[evseId]?) :
    Linked (s.managers other) (Function.update s.queues evseId rest other)
      s.handler.evseReservations[other]? := by
  by_cases hother : other = evseId
  · subst hother
    rw [update_self]
    exact hself
  · rw [update_of_ne hother]
    exact hinv.linked other

/-- An event that arrives cancels what Auth has for the EVSE. -/
theorem Inv.deliver (hinv : s.Inv) (evseId : Nat) : (s.step (.deliver evseId)).Inv := by
  dsimp only [step]
  split
  · exact hinv
  rename_i event rest hqueue
  have hlinked := hinv.linked evseId
  rw [hqueue] at hlinked
  -- without a reservation nothing is expected of the queue
  have hnothing : s.handler.evseReservations[evseId]? = none →
      { s with queues := update s.queues evseId rest }.Inv := by
    intro hnone
    refine ⟨hinv.wellFormed, hinv.positive, fun other => linked_queues hinv ?_⟩
    refine ⟨hlinked.sound, hlinked.held, fun r hr => ?_⟩
    cases hnone.symm.trans hr
  unfold handleSessionEvent
  split
  · cases event with
    | reservationStart =>
      refine ⟨hinv.wellFormed, hinv.positive, fun other => linked_queues hinv ?_⟩
      refine ⟨hlinked.sound, hlinked.held, fun r hr hid => ?_⟩
      simpa using hlinked.known r hr hid
    | reservationEnd =>
      dsimp only
      split
      · rename_i reservation hreservation
        refine inv_cancelReservation
          (s := { s with queues := update s.queues evseId rest }) hinv.wellFormed
          hinv.positive
          (fun other => (hinv.linked other).sound) (fun other hne => ?_) _ _
        have hother : other ≠ evseId := by
          rintro rfl
          exact hne reservation hreservation rfl
        show Linked (s.managers other) (update s.queues evseId rest other) _
        rw [update_of_ne hother]
        exact hinv.linked other
      · rename_i hnone
        exact hnothing hnone
  · rename_i hunknown
    refine hnothing (eq_none_iff_forall_ne_some.mpr fun r hr => hunknown ?_)
    exact hinv.wellFormed.mem_evses hr

/-! ### New reservations -/

/-- Which steps keep Auth and the managers in agreement. -/
def Good (s : AuthSystem) : AuthLabel → Prop
  | .reserveNow now request =>
    -- an id that a manager holds is only used again for the same EVSE, and accepted
    request.expiryTime < now ∨ request.reservationId < 0 ∨
      ∀ evseId ∈ s.handler.evseOf request.reservationId,
        (s.managers evseId).reservationId ≠ request.reservationId ∨
          (requestedEvse request = some evseId ∧
            (s.handler.makeReservation now (requestedEvse request) request).1 = .accepted)
  | .useReservation evseId idToken parentIdToken =>
    ∀ id ∈ s.handler.matchesReservedIdentifier idToken evseId parentIdToken, id < 0
  | _ => True

variable {request : Reservation}

theorem requestedEvse_of_held (hinv : s.Inv) {now : Int} (hgood : s.Good (.reserveNow now request))
    (hexpired : ¬ request.expiryTime < now)
    (heq : (s.managers evseId).reservationId = request.reservationId)
    (hheld : (s.managers evseId).reservationId ≠ -1) :
    requestedEvse request = some evseId ∧
      (s.handler.makeReservation now (requestedEvse request) request).1 = .accepted := by
  obtain ⟨r, hr, hid⟩ := (hinv.linked evseId).held hheld
  have hevse : s.handler.evseOf request.reservationId = some evseId := by
    rw [← heq, ← hid]
    exact evseOf_of_getElem? hinv.wellFormed.nodup hr
  have hnonneg : 0 ≤ request.reservationId := by
    rcases (hinv.linked evseId).sound.stored with hnone | hstored
    · exact absurd hnone hheld
    · rw [← heq]
      exact hstored.2
  rcases hgood with hpast | hnegative | hsame
  · exact absurd hpast hexpired
  · omega
  · exact (hsame evseId hevse).resolve_left fun hne => hne heq

theorem not_any_of_requestedEvse (hevse : requestedEvse request = some evseId)
    (hpositive : 0 < evseId) :
    ¬ (request.evseId.any fun id => id < 1) = true := by
  obtain ⟨id, hid, hnat⟩ := bind_eq_some_iff.mp hevse
  split at hnat
  · rw [hid]
    cases hnat
    simp only [any_some, decide_eq_true_eq]
    omega
  · cases hnat

theorem Inv.callReserved {reservationId : Int} {evseId : Option Nat}
    (hreserved : (s.reservedCallback evseId reservationId).2.Inv) :
    (s.callReserved reservationId evseId).2.Inv := by
  unfold AuthSystem.callReserved
  dsimp only
  split
  · exact hreserved.checkEvseReservedAndSendUpdates
  · exact hreserved

section

variable {now : Int} {request : Reservation}

theorem Inv.withGlobalReservation (hinv : s.Inv)
    (hfree : ∀ evseId, (s.managers evseId).reservationId = request.reservationId →
      (s.managers evseId).reservationId = -1)
    (hadmits : (s.handler.cancelReservation request.reservationId).2.AdmitsAny none request) :
    { s with
      handler := (s.handler.cancelReservation request.reservationId).2.withReservation none
        request }.Inv := by
  have hcancelled := hinv.cancelAuth hfree
  have hwf := hcancelled.wellFormed.withReservation (id_not_mem_cancelled hinv.wellFormed _) hadmits
  refine ⟨hwf, fun evseId hmem => hcancelled.positive evseId ?_, fun evseId => ?_⟩
  · rwa [(withReservation_fields _ _ _).1] at hmem
  · show Linked _ _ (ReservationHandler.withGlobalReservation _ request).evseReservations[evseId]?
    rw [(withGlobalReservation_fields _ _).2.1]
    exact hcancelled.linked evseId

theorem Inv.callReserve (hinv : s.Inv) {evseId : Nat}
    (hfree : ∀ other, other ≠ evseId →
      (s.managers other).reservationId = request.reservationId →
        (s.managers other).reservationId = -1)
    (hadmits : (s.handler.cancelReservation request.reservationId).2.AdmitsAny (some evseId)
      request) :
    let made := { s with
      handler := (s.handler.cancelReservation request.reservationId).2.withReservation
        (some evseId) request }
    (made.callReserve evseId request.reservationId).1 = true ∧
      (made.callReserve evseId request.reservationId).2.Inv := by
  intro made
  have hwf := (hinv.wellFormed.cancelReservation request.reservationId).withReservation
    (id_not_mem_cancelled hinv.wellFormed _) hadmits
  have hget := getElem?_cancelReservation hinv.wellFormed request.reservationId
  have hlookup : ∀ other : Nat, made.handler.evseReservations[other]? =
      if other = evseId then some request
      else (s.handler.cancelReservation request.reservationId).2.evseReservations[other]? := by
    intro other
    show (Std.TreeMap.insert _ evseId request)[other]? = _
    rw [getElem?_insert_eq]
  -- a manager with another reservation would have been noticed by Auth
  have hheld : (s.managers evseId).reservationId = -1 ∨
      (s.managers evseId).reservationId = request.reservationId := by
    by_contra hother
    obtain ⟨hheld, hne⟩ := not_or.mp hother
    obtain ⟨r, hr, hid⟩ := (hinv.linked evseId).held hheld
    have hleft := (hget evseId r).mpr ⟨hr, fun heq => hne (hid.symm.trans heq)⟩
    exact hadmits.notReserved (mem_iff_exists_getElem?.mpr ⟨r, hleft⟩)
  obtain ⟨haccepted, hlinked⟩ :=
    Linked.made (s.queues evseId) (hinv.linked evseId).sound hheld
  refine ⟨haccepted, Inv.withManager hwf (fun other hmem => hinv.positive other ?_) ?_ ?_⟩
  · rwa [(withReservation_fields _ _ _).1, evses_cancelReservation] at hmem
  · rw [hlookup, if_pos rfl]
    exact hlinked
  · intro other hother
    rw [hlookup, if_neg hother]
    exact (hinv.linked other).cancelAuth (hget other) (hfree other hother)

end

/-- Made again, a reservation stays at its EVSE. -/
theorem Inv.reserveNow (hinv : s.Inv) {now : Int} (hgood : s.Good (.reserveNow now request)) :
    (s.reserveNow now request).2.Inv := by
  unfold AuthSystem.reserveNow
  obtain ⟨hexpired, hmake⟩ | ⟨hexpired, hadmits, hmake⟩ | ⟨hexpired, -, result, hresult, hmake⟩ :=
    s.handler.makeReservation_cases now (requestedEvse request) request
  · -- too late, nothing happens
    rw [hmake, if_neg (by simp)]
    exact hinv
  · have hholder : ∀ evseId, (s.managers evseId).reservationId = request.reservationId →
        (s.managers evseId).reservationId ≠ -1 → requestedEvse request = some evseId :=
      fun evseId heq hheld => (requestedEvse_of_held hinv hgood hexpired heq hheld).1
    rw [hmake, if_pos rfl]
    cases hevse : requestedEvse request with
    | none =>
      rw [hevse] at hadmits
      have hmade := hinv.withGlobalReservation (fun evseId heq => by
        by_contra hheld
        cases hevse.symm.trans (hholder evseId heq hheld)) hadmits
      split
      · exact hmade
      · exact Inv.callReserved (hmade.publishReservationUpdate _ _)
    | some evseId =>
      rw [hevse] at hadmits
      obtain ⟨haccepted, hreserved⟩ := hinv.callReserve (fun other hne heq => by
        by_contra hheld
        cases hevse.symm.trans (hholder other heq hheld)
        exact hne rfl) hadmits
      -- the EVSE exists, so its id is positive
      have hpositive : 0 < evseId := by
        obtain ⟨evse, hget, -⟩ := hadmits.serves
        rw [evses_cancelReservation] at hget
        exact hinv.positive evseId (mem_iff_exists_getElem?.mpr ⟨evse, hget⟩)
      rw [if_neg (not_any_of_requestedEvse hevse hpositive)]
      refine Inv.callReserved ?_
      rw [reservedCallback, if_pos haccepted]
      exact hreserved.publishReservationUpdate _ _
  · -- the old reservation was held by no manager
    rw [hmake, if_neg hresult]
    refine hinv.cancelAuth fun evseId heq => ?_
    by_contra hheld
    have haccepted := (requestedEvse_of_held hinv hgood hexpired heq hheld).2
    rw [hmake] at haccepted
    exact hresult haccepted

/-! ### Use -/

theorem Inv.useReservation (hinv : s.Inv) {idToken : String} {parentIdToken : Option String}
    (hgood : s.Good (.useReservation evseId idToken parentIdToken)) :
    (s.useReservation evseId idToken parentIdToken).Inv := by
  unfold AuthSystem.useReservation
  split
  · split
    · exact hinv
    · rename_i id hmatch
      have hnegative : id < 0 := hgood id hmatch
      have hcancelled := hinv.cancelAuth fun other (heq : _ = id) => by
        have hstored := (hinv.linked other).sound.stored
        omega
      have hget := getElem?_cancelReservation hinv.wellFormed id evseId
      -- Auth has no other reservation for the EVSE, so the manager holds nothing
      have hnone : (s.handler.cancelReservation id).2.evseReservations[evseId]? = none := by
        refine eq_none_iff_forall_ne_some.mpr fun reservation hleft => ?_
        obtain ⟨hold, hne⟩ := (hget reservation).mp hleft
        simp only [matchesReservedIdentifier, hold] at hmatch
        split at hmatch
        · exact hne (some.inj hmatch)
        · cases hmatch
      have hfree : (s.managers evseId).reservationId = -1 := by
        by_contra hheld
        obtain ⟨_, hleft, -⟩ := (hcancelled.linked evseId).held hheld
        cases hnone.symm.trans hleft
      obtain ⟨hsound, hid⟩ := (hinv.linked evseId).sound.authorizeResponse hfree hnegative
      refine ⟨hcancelled.wellFormed, hcancelled.positive, fun other => ?_⟩
      show Linked (update s.managers evseId _ other) (s.queues other)
        (s.handler.cancelReservation id).2.evseReservations[other]?
      by_cases hother : other = evseId
      · subst hother
        rw [update_self, hnone]
        exact Linked.freed hsound hid
      · rw [update_of_ne hother]
        exact hcancelled.linked other
  · exact hinv

/-! ## Whole runs -/

/-- Every step keeps the EVSEs linked. -/
theorem Inv.step (hinv : s.Inv) (label : AuthLabel) (hgood : s.Good label) :
    (s.step label).Inv := by
  cases label with
  | reserveNow now request => exact hinv.reserveNow hgood
  | cancelReservation id | timerExpired id => exact hinv.cancelReservation id _ _
  | connectorEvent evseId connectorId event checkReservations =>
    have hsubmitted := hinv.submitEventForConnector evseId connectorId event
    dsimp only [AuthSystem.step]
    split
    · exact hsubmitted.checkEvseReservedAndSendUpdates
    · exact hsubmitted
  | useReservation evseId idToken parentIdToken => exact hinv.useReservation hgood
  | managerCancels evseId => exact hinv.callCancelReservation evseId
  | deliver evseId => exact hinv.deliver evseId

/-- Whether a step is good can be computed. -/
instance Good.decidable (s : AuthSystem) : ∀ label : AuthLabel, Decidable (s.Good label)
  | .reserveNow _ _ => inferInstanceAs (Decidable (_ ∨ _ ∨ ∀ evseId ∈ _, _ ∨ (_ ∧ _)))
  | .useReservation _ _ _ => inferInstanceAs (Decidable (∀ id ∈ _, _))
  | .cancelReservation _ | .timerExpired _ | .connectorEvent _ _ _ _ | .managerCancels _
  | .deliver _ => .isTrue trivial

/-! ### Two EVSEs -/

def twoEvses : List (Nat × List Connector) :=
  [(1, [{ id := 1, type := .cCCS2 }]), (2, [{ id := 1, type := .cCCS2 }])]

end AuthSystem

end EverestCore.Auth
