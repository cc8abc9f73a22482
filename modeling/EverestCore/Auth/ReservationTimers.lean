import EverestCore.Auth.ReservationIds

/-!
# Timers that expire

A timer cancels the reservation with its id. It can be stopped, but a timer that is due may
already wait for the lock, and then its callback still runs. The callback knows only the id:
it cancels whatever reservation has the id by then.

**Main result**: `expires_in_time`.
-/

namespace EverestCore.Auth

open EverestCore.Lib List

/-! ## Timers -/

/-- A timer whose callback has not run. -/
structure Timer where
  reservationId : Int
  deadline : Int
  stopped : Bool := false
  deriving DecidableEq

/-- A timer is stopped. If it is due, its callback may still run. -/
def Timer.stop (now : Int) (timer : Timer) : Option Timer :=
  if timer.deadline ≤ now then some { timer with stopped := true } else none

/-- The handler with a clock and its running timers. -/
structure TimedHandler where
  handler : ReservationHandler
  now : Int
  timers : List Timer := []

namespace TimedHandler

/-- The handler after a call. The timers of the ids that are gone have been stopped. A
reservation that has been made has a new timer, and an old one with its id has been stopped. -/
def withHandler (t : TimedHandler) (handler : ReservationHandler) (made : Option Reservation) :
    TimedHandler where
  handler := handler
  now := t.now
  timers :=
    (t.timers.filterMap fun timer =>
      if timer.reservationId ∈ handler.timers ∧
          ∀ reservation ∈ made, reservation.reservationId ≠ timer.reservationId then
        some timer
      else timer.stop t.now) ++
    made.toList.map fun reservation =>
      { reservationId := reservation.reservationId, deadline := reservation.expiryTime }

end TimedHandler

/-! ## Events -/

/-- The calls that make no reservation. -/
inductive Cancellation
  | cancelReservation (reservationId : Int)
  | cancelEvseReservation (evseId : Nat)
  | onReservationUsed (reservationId : Int)
  | connectorEvent (evseId connectorId : Nat) (event : ConnectorEvent)
  | plugged (evseId : Nat) (pluggedIn : Bool)
  deriving DecidableEq

def Cancellation.call : Cancellation → ReservationCall
  | .cancelReservation reservationId => .operation (.cancelReservation reservationId)
  | .cancelEvseReservation evseId => .cancelEvseReservation evseId
  | .onReservationUsed reservationId => .operation (.onReservationUsed reservationId)
  | .connectorEvent evseId connectorId event =>
    .operation (.connectorEvent evseId connectorId event)
  | .plugged evseId pluggedIn => .operation (.plugged evseId pluggedIn)

/-- Time passes, or the handler is called. -/
inductive TimedEvent
  | timePasses (seconds : Nat)
  | makeReservation (evseId : Option Nat) (reservation : Reservation)
  | cancellation (cancellation : Cancellation)
  | callback (timer : Timer)
  deriving DecidableEq

namespace TimedHandler

variable (t : TimedHandler)

def made : TimedEvent → Option Reservation
  | .makeReservation evseId reservation =>
    if (t.handler.makeReservation t.now evseId reservation).1 = .accepted then some reservation
    else none
  | _ => none

def IsDue (timer : Timer) : Prop :=
  timer ∈ t.timers ∧ timer.deadline ≤ t.now
deriving Decidable

variable (event : TimedEvent)

def step : TimedHandler :=
  match event with
  | .timePasses seconds => { t with now := t.now + seconds }
  | .makeReservation evseId reservation =>
    t.withHandler (t.handler.makeReservation t.now evseId reservation).2 (t.made event)
  | .cancellation cancellation => t.withHandler (t.handler.call cancellation.call) none
  | .callback timer =>
    if t.IsDue timer then
      { t with timers := t.timers.erase timer }.withHandler
        (t.handler.cancelReservation timer.reservationId).2 none
    else t

/-- A callback cancels a reservation only if it has expired. -/
def ExpiresInTime : Prop :=
  ∀ timer, event = .callback timer → t.IsDue timer →
    ∀ stored ∈ t.handler.content, stored.reservation.reservationId = timer.reservationId →
      stored.reservation.expiryTime ≤ t.now

/-- No reservation is made with the id of a callback that is due. -/
def NoCallbackDue : Prop :=
  ∀ reservation ∈ t.made event, ∀ timer ∈ t.timers,
    timer.reservationId = reservation.reservationId → t.now < timer.deadline
deriving Decidable

/-! ## The invariant -/

/-- Timers belong to the reservation with their id, if there is one, and only timers that
were due have been stopped and may still expire. -/
structure Punctual : Prop where
  matched : t.handler.Matched
  due : ∀ timer ∈ t.timers, timer.stopped = true → timer.deadline ≤ t.now
  deadline : ∀ timer ∈ t.timers, ∀ stored ∈ t.handler.content,
    stored.reservation.reservationId = timer.reservationId →
      stored.reservation.expiryTime = timer.deadline

variable {t : TimedHandler} {handler : ReservationHandler}

theorem mem_timers_withHandler {made : Option Reservation} {timer : Timer}
    (hmem : timer ∈ (t.withHandler handler made).timers) :
    (timer ∈ t.timers ∧ ∀ reservation ∈ made,
        reservation.reservationId ≠ timer.reservationId) ∨
      (∃ old ∈ t.timers, old.deadline ≤ t.now ∧ timer = { old with stopped := true }) ∨
      ∃ reservation ∈ made, timer =
        { reservationId := reservation.reservationId, deadline := reservation.expiryTime } := by
  rw [withHandler, mem_append, mem_filterMap, mem_map] at hmem
  rcases hmem with ⟨old, hold, heq⟩ | ⟨reservation, hmade, rfl⟩
  · split_ifs at heq with hkept
    · cases heq
      exact .inl ⟨hold, hkept.2⟩
    · unfold Timer.stop at heq
      split_ifs at heq with hdue
      cases heq
      exact .inr (.inl ⟨old, hold, hdue, rfl⟩)
  · exact .inr (.inr ⟨reservation, Option.mem_toList.mp hmade, rfl⟩)

theorem Punctual.withHandler (h : t.Punctual) (hmatched : handler.Matched)
    {made : Option Reservation}
    (hcontent : ∀ stored ∈ handler.content, stored.reservation ∈ made ∨
      stored ∈ t.handler.content ∧ ∀ reservation ∈ made,
        stored.reservation.reservationId ≠ reservation.reservationId)
    (hfree : ∀ reservation ∈ made, ∀ timer ∈ t.timers,
      timer.reservationId = reservation.reservationId → t.now < timer.deadline) :
    (t.withHandler handler made).Punctual := by
  refine ⟨hmatched, fun timer hmem => ?_, fun timer hmem stored hstored hid => ?_⟩
  · rcases mem_timers_withHandler hmem with ⟨hold, -⟩ | ⟨old, -, hdue, rfl⟩ | ⟨_, -, rfl⟩
    · exact h.due timer hold
    · exact fun _ => hdue
    · exact fun hstopped => Bool.noConfusion hstopped
  · rcases mem_timers_withHandler hmem with ⟨hold, hother⟩ | ⟨old, hold, hlate, rfl⟩ |
      ⟨reservation, hmade, rfl⟩
    · rcases hcontent stored hstored with hnew | ⟨hstored, -⟩
      · exact absurd hid (hother _ hnew)
      · exact h.deadline timer hold stored hstored hid
    · rcases hcontent stored hstored with hnew | ⟨hstored, -⟩
      · have hearly := hfree _ hnew old hold hid.symm
        omega
      · exact h.deadline old hold stored hstored hid
    · rcases hcontent stored hstored with hnew | ⟨-, hne⟩
      · rw [Option.mem_unique hnew hmade]
      · exact absurd hid (hne _ hmade)

theorem Punctual.withHandler_none (h : t.Punctual) (hmatched : handler.Matched)
    (hsubset : handler.content ⊆ t.handler.content) :
    (t.withHandler handler none).Punctual :=
  h.withHandler hmatched (fun _ hmem => .inr ⟨hsubset hmem, nofun⟩) nofun

/-! ## Steps -/

end TimedHandler

namespace ReservationHandler

variable {h : ReservationHandler}

theorem content_cancelReservation_subset (hwf : h.WellFormed) (id : Int) :
    (h.cancelReservation id).2.content ⊆ h.content := by
  rw [content_cancelReservation hwf]
  exact filter_sublist.subset

theorem content_cancelReservations_subset (hwf : h.WellFormed) (ids : List Int) :
    (h.cancelReservations ids).content ⊆ h.content := by
  rw [content_cancelReservations hwf]
  exact filter_sublist.subset

theorem content_cancellation_subset (hmatched : h.Matched) (cancellation : Cancellation) :
    (h.call cancellation.call).content ⊆ h.content := by
  have hwf := hmatched.wellFormed
  cases cancellation with
  | cancelReservation id | onReservationUsed id => exact content_cancelReservation_subset hwf id
  | plugged evseId pluggedIn => exact List.Subset.refl _
  | cancelEvseReservation evseId =>
    show (h.cancelEvseReservation evseId).2.content ⊆ h.content
    unfold cancelEvseReservation
    split
    · exact content_cancelReservation_subset hwf _
    · exact List.Subset.refl _
  | connectorEvent evseId connectorId event =>
    show (h.submitEventForConnector evseId connectorId event).content ⊆ h.content
    unfold submitEventForConnector
    split
    · exact List.Subset.refl _
    · split
      · exact List.Subset.refl _
      · exact content_cancelReservations_subset (hwf.withConnectorState evseId connectorId _) _

theorem mem_content_makeReservation (hwf : h.WellFormed) {now : Int} {evseId : Option Nat}
    {reservation : Reservation} {stored : StoredReservation}
    (hmem : stored ∈ (h.makeReservation now evseId reservation).2.content) :
    ((h.makeReservation now evseId reservation).1 = .accepted ∧
      stored.reservation = reservation) ∨
    stored ∈ h.content ∧ ((h.makeReservation now evseId reservation).1 = .accepted →
      stored.reservation.reservationId ≠ reservation.reservationId) := by
  obtain ⟨-, hmake⟩ | ⟨-, hadmits, hmake⟩ | ⟨-, -, _, hresult, hmake⟩ :=
    h.makeReservation_cases now evseId reservation
  · rw [hmake] at hmem ⊢
    exact .inr ⟨hmem, nofun⟩
  · rw [hmake] at hmem ⊢
    rcases mem_cons.mp ((content_withReservation hadmits).mem_iff.mp hmem) with rfl | hold
    · exact .inl ⟨rfl, rfl⟩
    · rw [content_cancelReservation hwf, mem_filter, decide_eq_true_eq] at hold
      exact .inr ⟨hold.1, fun _ => hold.2⟩
  · rw [hmake] at hmem ⊢
    exact .inr ⟨content_cancelReservation_subset hwf _ hmem, fun h => absurd h hresult⟩

end ReservationHandler

namespace TimedHandler

open ReservationHandler

variable {t : TimedHandler}

/-- One event keeps the timers right. -/
theorem Punctual.step (h : t.Punctual) {event : TimedEvent} (hfree : t.NoCallbackDue event) :
    (t.step event).Punctual := by
  have hwf := h.matched.wellFormed
  cases event with
  | timePasses seconds =>
    refine ⟨h.matched, fun timer hmem hstopped => ?_, h.deadline⟩
    have hdue := h.due timer hmem hstopped
    show timer.deadline ≤ t.now + seconds
    omega
  | makeReservation evseId reservation =>
    refine h.withHandler (h.matched.makeReservation t.now evseId reservation)
      (fun stored hmem => ?_) hfree
    dsimp only [made]
    rcases mem_content_makeReservation hwf hmem with ⟨hmade, heq⟩ | ⟨hold, hne⟩
    · rw [if_pos hmade]
      exact .inl (congrArg some heq.symm)
    · refine .inr ⟨hold, fun reservation hmem => ?_⟩
      split_ifs at hmem with hmade
      · cases hmem
        exact hne hmade
      · cases hmem
  | cancellation cancellation =>
    exact h.withHandler_none (h.matched.call cancellation.call)
      (content_cancellation_subset h.matched cancellation)
  | callback timer =>
    unfold TimedHandler.step
    dsimp only
    split_ifs
    · have herase : Punctual { t with timers := t.timers.erase timer } :=
        ⟨h.matched, fun timer hmem => h.due timer (mem_of_mem_erase hmem),
          fun timer hmem => h.deadline timer (mem_of_mem_erase hmem)⟩
      exact herase.withHandler_none (h.matched.cancelReservation _)
        (content_cancelReservation_subset hwf _)
    · exact h

theorem Punctual.expiresInTime (h : t.Punctual) (event : TimedEvent) : t.ExpiresInTime event := by
  intro timer _ hdue stored hmem hid
  rw [h.deadline timer hdue.1 stored hmem hid]
  exact hdue.2

theorem punctual_initial (evses : Evses) (store : Option (List StoredReservation)) (now : Int) :
    Punctual { handler := { evses, store }, now } :=
  ⟨matched_initial evses store, nofun, nofun⟩

/-- **A reservation is ended as expired only after its own expiry**, in every interleaving in
which no reservation is made with the id of a callback that is due and has not run. -/
theorem expires_in_time (evses : Evses) (store : Option (List StoredReservation)) (now : Int)
    (events : List TimedEvent)
    (hfree : Along step NoCallbackDue { handler := { evses, store }, now } events) :
    Along step ExpiresInTime { handler := { evses, store }, now } events :=
  along_of_along (fun _ _ h hfree => h.step hfree) (fun _ event h _ => h.expiresInTime event)
    (punctual_initial evses store now) hfree

end TimedHandler

open TimedHandler

def evseWithOneConnector : Evses := ({} : Evses).insert 1 { connectors := [{ id := 1 }] }

/-- A reservation is replaced before it expires, and the new one expires. -/
theorem replaced_early_expires_in_time :
    Along step ExpiresInTime { handler := { evses := evseWithOneConnector }, now := 0 }
      [.makeReservation (some 1) { reservationId := 7, idToken := "A", expiryTime := 10 },
        .timePasses 5,
        .makeReservation (some 1) { reservationId := 7, idToken := "A", expiryTime := 100 },
        .timePasses 95, .callback { reservationId := 7, deadline := 100 }] :=
  expires_in_time _ _ _ _ (by decide +kernel)

/-- The reservation is replaced when its timer is due but waits for the lock. The callback
then cancels the new reservation, long before it expires. -/
theorem replaced_late_cancelled_early :
    ∃ t, t = run step { handler := { evses := evseWithOneConnector }, now := 0 }
        [.makeReservation (some 1) { reservationId := 7, idToken := "A", expiryTime := 10 },
          .timePasses 10,
          .makeReservation (some 1) { reservationId := 7, idToken := "A", expiryTime := 100 }] ∧
      t.IsDue { reservationId := 7, deadline := 10, stopped := true } ∧ t.now = 10 ∧
      t.handler.content = [⟨some 1, { reservationId := 7, idToken := "A", expiryTime := 100 }⟩] ∧
      (t.step (.callback { reservationId := 7, deadline := 10, stopped := true })).handler.content =
        [] :=
  ⟨_, rfl, by decide +kernel, by decide +kernel, by decide +kernel, by decide +kernel⟩

end EverestCore.Auth
