import EverestCore.Auth.TokenDecisions

/-!
# Only free EVSEs are granted

A token may be granted an EVSE only if no other token has it and no transaction is active there.
The EVSEs are filtered right after the validation. A call that then waits for a plug-in does not
look again: it takes the EVSE where the car is plugged in, whatever has happened there since.
-/

namespace EverestCore.Auth

open EverestCore.Lib AuthHandler List

/-- The call waits for a plug-in. -/
def Call.isWaiting (call : Call) : Bool :=
  match call.progress with
  | .selecting _ _ => true
  | _ => false

theorem Call.isWaiting_iff (call : Call) :
    call.isWaiting = true ↔ ∃ result rest, call.progress = .selecting result rest := by
  unfold Call.isWaiting
  split
  · rename_i result rest hprogress
    exact iff_of_true rfl ⟨result, rest, hprogress⟩
  · rename_i hnot
    refine iff_of_false Bool.false_ne_true ?_
    rintro ⟨result, rest, hprogress⟩
    exact hnot result rest hprogress

/-- The EVSE had no identifier of another token and no active transaction. -/
def Grant.IsFree (grant : Grant) : Prop :=
  (∀ identifier, grant.before = some identifier → identifier.idToken = grant.token) ∧
    grant.transactionActive = false

namespace AuthHandler

/-! ## EVSEs -/

/-- An active transaction has an identifier. An EVSE in the queue that is counted on has none, and
no timeout of it is being handled. -/
structure EvsesFree (counted : Nat → Prop) (s : AuthHandler) : Prop where
  active : ∀ evseId, (s.evses evseId).transactionActive = true →
    (s.evses evseId).identifier ≠ none
  queued : ∀ evseId ∈ s.plugInQueue, counted evseId →
    (s.evses evseId).identifier = none ∧ (s.evses evseId).timeoutInProgress = none

theorem KeepsEvses.trans {s s' s'' : AuthHandler} (h : s.KeepsEvses s') (h' : s'.KeepsEvses s'') :
    s.KeepsEvses s'' :=
  ⟨h'.selectionAlgorithm.trans h.selectionAlgorithm, h'.evses.trans h.evses,
    h'.plugInQueue.trans h.plugInQueue, h'.grants.trans h.grants⟩

variable (s : AuthHandler)

theorem keepsEvses_finish (call : Call) (result : TokenHandlingResult) :
    s.KeepsEvses (s.finish call result).2 := by
  obtain ⟨callbacks, hfinish⟩ := s.finish_snd call result
  rw [hfinish]
  exact ⟨rfl, rfl, rfl, rfl⟩

section

variable {counted : Nat → Prop} {s : AuthHandler}

theorem EvsesFree.congr (hs : EvsesFree counted s) {s' : AuthHandler} (hevses : s'.evses = s.evses)
    (hqueue : s'.plugInQueue ⊆ s.plugInQueue) : EvsesFree counted s' := by
  refine ⟨?_, ?_⟩
  · rw [hevses]
    exact hs.active
  · rw [hevses]
    exact fun evseId hmem => hs.queued evseId (hqueue hmem)

@[simp] theorem evses_withEvse_self (s : AuthHandler) (evseId : Nat) (evse : EvseAuthorization) :
    (s.withEvse evseId evse).evses evseId = evse := by
  simp [withEvse]

theorem evses_withEvse_of_ne (s : AuthHandler) {evseId other : Nat} (hne : other ≠ evseId)
    (evse : EvseAuthorization) : (s.withEvse evseId evse).evses other = s.evses other := by
  simp [withEvse, hne]

variable (hs : EvsesFree counted s)

include hs

theorem EvsesFree.withEvse (evseId : Nat) (evse : EvseAuthorization)
    (hactive : evse.transactionActive = true → evse.identifier ≠ none)
    (hqueued : evseId ∈ s.plugInQueue → counted evseId →
      evse.identifier = none ∧ evse.timeoutInProgress = none) :
    EvsesFree counted (s.withEvse evseId evse) := by
  refine ⟨?_, ?_⟩
  · intro other
    by_cases heq : other = evseId
    · subst heq
      rw [evses_withEvse_self]
      exact hactive
    · rw [evses_withEvse_of_ne s heq]
      exact hs.active other
  · intro other hmem hcounted
    by_cases heq : other = evseId
    · subst heq
      rw [evses_withEvse_self]
      exact hqueued hmem hcounted
    · rw [evses_withEvse_of_ne s heq]
      exact hs.queued other hmem hcounted

theorem EvsesFree.of_keepsEvses {s' : AuthHandler}
    (hkeeps : s.KeepsEvses s') : EvsesFree counted s' :=
  hs.congr hkeeps.evses fun _ hmem => hkeeps.plugInQueue ▸ hmem

theorem EvsesFree.stopTimer (evseId : Nat) : EvsesFree counted (s.stopTimer evseId) :=
  hs.withEvse evseId { s.evses evseId with timeoutTimer := none } (hs.active evseId)
    (hs.queued evseId)

theorem EvsesFree.removeFromQueue (evseId : Nat) : EvsesFree counted (s.removeFromQueue evseId) :=
  hs.congr rfl (filter_subset_self _)

omit hs

variable {evseId : Nat}

/-- A car may plug in where nothing is authorized. -/
theorem EvsesFree.plugIn (hs : EvsesFree counted s) (hfree : counted evseId →
      (s.evses evseId).identifier = none ∧ (s.evses evseId).timeoutInProgress = none) :
    EvsesFree counted { s with plugInQueue := s.plugInQueue ++ [evseId] } := by
  refine ⟨hs.active, ?_⟩
  intro other hmem hcounted
  rcases mem_append.mp hmem with hold | hnew
  · exact hs.queued other hold hcounted
  · rw [mem_singleton.mp hnew] at hcounted ⊢
    exact hfree hcounted

/-! ## Events and timeouts -/

/-- What is expected of an event: a car is not plugged in where a call waits and the EVSE has
been given away, transactions start with an identifier and are finished before the session. -/
def staysFree (s : AuthHandler) (counted : Bool) (evseId : Nat) : AuthSessionEvent → Bool
  | .sessionStarted evConnected =>
    !evConnected || !counted ||
      ((s.evses evseId).identifier.isNone && (s.evses evseId).timeoutInProgress.isNone)
  | .transactionStarted => (s.evses evseId).identifier.isSome
  | .sessionFinished => !(s.evses evseId).transactionActive
  | .deauthorized => !(s.evses evseId).transactionActive
  | _ => true

theorem EvsesFree.beginSessionEvent (hs : EvsesFree counted s) (connectorId : Nat)
    {event : AuthSessionEvent} {isCounted : Bool} (hcounted : counted evseId → isCounted = true)
    (hevent : s.staysFree isCounted evseId event = true) :
    EvsesFree counted (s.beginSessionEvent evseId connectorId event) := by
  have hinactive : event = .sessionFinished ∨ event = .deauthorized →
      (s.evses evseId).transactionActive ≠ true := by
    rintro (rfl | rfl)
    · simpa [staysFree] using hevent
    · simpa [staysFree] using hevent
  cases event with
  | sessionStarted evConnected =>
    cases evConnected with
    | false => exact hs
    | true =>
      have hfree : counted evseId →
          (s.evses evseId).identifier = none ∧ (s.evses evseId).timeoutInProgress = none := by
        intro hcount
        simpa [staysFree, hcounted hcount] using hevent
      have hplugged : EvsesFree counted
          ({ s with plugInQueue := s.plugInQueue ++ [evseId] }.withPluggedIn evseId true) :=
        (hs.plugIn hfree).congr rfl (List.Subset.refl _)
      exact hplugged.withEvse evseId { s.evses evseId with timeoutTimer := some .plugIn }
        (hs.active evseId) (hplugged.queued evseId)
  | transactionStarted =>
    have hsome : (s.evses evseId).identifier ≠ none := Option.isSome_iff_ne_none.mp hevent
    have hstarted := hs.withEvse evseId { s.evses evseId with transactionActive := true }
      (fun _ => hsome) (hs.queued evseId)
    exact hstarted.congr rfl (List.Subset.refl _)
  | transactionFinished =>
    refine hs.withEvse evseId
      { s.evses evseId with transactionActive := false, identifier := none }
      (fun hactive => ?_) fun hmem hcount => ⟨rfl, (hs.queued evseId hmem hcount).2⟩
    cases hactive
  | sessionFinished =>
    have hfinished := hs.withEvse evseId
      { s.evses evseId with plugInTimeout := false, identifier := none }
      (fun hactive => (hinactive (.inl rfl) hactive).elim)
      fun hmem hcount => ⟨rfl, (hs.queued evseId hmem hcount).2⟩
    exact hfinished.congr rfl (List.Subset.refl _)
  | disabled | enabled => exact hs.congr rfl (List.Subset.refl _)
  | deauthorized =>
    exact hs.withEvse evseId { s.evses evseId with identifier := none }
      (fun hactive => (hinactive (.inr rfl) hactive).elim)
      fun hmem hcount => ⟨rfl, (hs.queued evseId hmem hcount).2⟩
  | reservationEnd =>
    dsimp only [AuthHandler.beginSessionEvent]
    split
    · exact hs.congr rfl (List.Subset.refl _)
    · exact hs

theorem EvsesFree.endSessionEvent (hs : EvsesFree counted s) (evseId : Nat)
    (event : AuthSessionEvent) : EvsesFree counted (s.endSessionEvent evseId event) := by
  cases event with
  | transactionStarted => exact (hs.stopTimer evseId).congr rfl (List.Subset.refl _)
  | sessionFinished =>
    exact ((hs.stopTimer evseId).removeFromQueue evseId).congr rfl (List.Subset.refl _)
  | deauthorized => exact hs.stopTimer evseId
  | _ => exact hs

theorem EvsesFree.timeoutExpires (hs : EvsesFree counted s)
    (hqueue : counted evseId → evseId ∉ s.plugInQueue) :
    EvsesFree counted (s.timeoutExpires evseId) := by
  unfold AuthHandler.timeoutExpires
  split
  · rename_i task _ _
    exact hs.withEvse evseId
      { s.evses evseId with timeoutTimer := none, timeoutInProgress := some task }
      (hs.active evseId) fun hmem hcount => (hqueue hcount hmem).elim
  · exact hs

/-- An authorization does not time out during the transaction. -/
def timeoutInTime (s : AuthHandler) (evseId : Nat) : Bool :=
  match (s.evses evseId).timeoutInProgress with
  | some (.authorization _) => !(s.evses evseId).transactionActive
  | _ => true

theorem EvsesFree.timeoutRuns (hs : EvsesFree counted s) (htime : s.timeoutInTime evseId = true) :
    EvsesFree counted (s.timeoutRuns evseId) := by
  unfold AuthHandler.timeoutRuns
  unfold timeoutInTime at htime
  cases htask : (s.evses evseId).timeoutInProgress with
  | none => exact hs
  | some task =>
    rw [htask] at htime
    cases task with
    | authorization token =>
      have hinactive : (s.evses evseId).transactionActive ≠ true := by simpa using htime
      have hreset := hs.withEvse evseId
        { s.evses evseId with identifier := none, timeoutInProgress := none }
        (fun hactive => (hinactive hactive).elim) fun _ _ => ⟨rfl, rfl⟩
      exact hreset.congr rfl (List.Subset.refl _)
    | plugIn =>
      have hremoved : EvsesFree counted
          ((s.callback (.withdrawAuthorization evseId)).removeFromQueue evseId) :=
        hs.congr rfl (filter_subset_self _)
      refine hremoved.withEvse evseId
        { s.evses evseId with plugInTimeout := true, timeoutInProgress := none }
        (hs.active evseId) fun hmem hcount => ⟨?_, rfl⟩
      exact (hremoved.queued evseId hmem hcount).1

theorem EvsesFree.handleTokenValidationResultUpdate (hs : EvsesFree counted s) (evseId : Nat)
    (result : ValidationResult) :
    EvsesFree counted (s.handleTokenValidationResultUpdate evseId result) := by
  unfold AuthHandler.handleTokenValidationResultUpdate
  split
  · rename_i identifier _ hidentifier
    have hupdated := hs.withEvse evseId { s.evses evseId with
        identifier := some { identifier with
          authorizationStatus := some result.authorizationStatus
          parentIdToken := result.parentIdToken } } (fun _ => Option.some_ne_none _) ?_
    · exact hupdated.congr rfl (List.Subset.refl _)
    · intro hmem hcount
      cases hidentifier.symm.trans (hs.queued evseId hmem hcount).1
  · exact hs

end

/-! ## Grants -/

/-- A section grants nothing, or an EVSE that has no identifier. -/
inductive Assigned (s : AuthHandler) : Call × AuthHandler → Prop
  | unchanged {out : Call × AuthHandler} (hkeeps : s.KeepsEvses out.2) : Assigned s out
  | granted {s' : AuthHandler} {call : Call} {evseId : Nat} {result : ValidationResult}
      (hkeeps : s.KeepsEvses s') (hfree : (s.evses evseId).identifier = none) :
      Assigned s (s'.notifyAuthorized call evseId result)

section

variable {s : AuthHandler} {call : Call} {out : Call × AuthHandler}

theorem assigned_finish {s' : AuthHandler} {result : TokenHandlingResult}
    (hkeeps : s.KeepsEvses s') : Assigned s (s'.finish call result) :=
  .unchanged (hkeeps.trans (s'.keepsEvses_finish call result))

theorem assigned_of_authorizing
    (hfree : ∀ selectedEvses idToken evseId, selectedEvses.Perm call.referencedEvses →
      s.selectEvse selectedEvses idToken = .evseSelected evseId →
        (s.evses evseId).identifier = none)
    (hout : Authorizing s call out) : Assigned s out := by
  cases hout with
  | returned | withdrawn => exact assigned_finish ⟨rfl, rfl, rfl, rfl⟩
  | threw | waits => exact .unchanged ⟨rfl, rfl, rfl, rfl⟩
  | granted _ _ hcall _ hselect =>
    exact .granted ⟨rfl, rfl, rfl, rfl⟩ (hfree _ _ _ hcall.referencedEvses hselect)

/-- EVSEs with an identifier have been filtered out. -/
theorem assigned_of_validated {results : List ValidationResult}
    (hout : Validated s call results out) : Assigned s out := by
  cases hout with
  | pending | stopped | returned => exact assigned_finish ⟨rfl, rfl, rfl, rfl⟩
  | authorizing _ hout =>
    refine assigned_of_authorizing ?_ hout
    intro selectedEvses idToken evseId hperm hselect
    have hmem := hperm.mem_iff.mp (mem_of_evseSelected hselect)
    exact Option.isNone_iff_eq_none.mp (mem_filter.mp hmem).2

theorem assigned_of_begun (hout : Begun s call out) : Assigned s out := by
  cases hout with
  | alreadyInProcess | returned => exact assigned_finish ⟨rfl, rfl, rfl, rfl⟩
  | validating => exact .unchanged ⟨rfl, rfl, rfl, rfl⟩
  | prevalidated _ hout =>
    have hprocessing : s.KeepsEvses (s.processing call.token) := ⟨rfl, rfl, rfl, rfl⟩
    cases assigned_of_validated hout with
    | unchanged hkeeps => exact .unchanged (hprocessing.trans hkeeps)
    | granted hkeeps hfree => exact .granted (hprocessing.trans hkeeps) hfree

/-- A waiting call takes a plugged in EVSE of its own. -/
theorem assigned_of_waiting (halgorithm : s.selectionAlgorithm = .plugEvents)
    (hlength : call.referencedEvses.length ≠ 1)
    (hqueued : ∀ evseId ∈ s.plugInQueue, evseId ∈ call.referencedEvses →
      (s.evses evseId).identifier = none)
    (hout : Authorizing s call out) : Assigned s out := by
  refine assigned_of_authorizing ?_ hout
  intro selectedEvses idToken evseId hperm hselect
  rw [selectEvse_plugEvents (hperm.length_eq ▸ hlength) halgorithm] at hselect
  split at hselect
  · cases hselect
  · cases hlatest : s.getLatestPlugin selectedEvses with
    | none =>
      rw [hlatest] at hselect
      cases hselect
    | some latest =>
      rw [hlatest] at hselect
      cases hselect
      obtain ⟨hqueue, hmem⟩ := mem_of_getLatestPlugin hlatest
      exact hqueued evseId hqueue (hperm.mem_iff.mp hmem)

end

theorem EvsesFree.notifyAuthorized {counted : Nat → Prop} {s : AuthHandler}
    (hs : EvsesFree counted s) (call : Call) (evseId : Nat) (result : ValidationResult) :
    EvsesFree counted (s.notifyAuthorized call evseId result).2 := by
  have hstored : ∀ identifier, (s.evses evseId).timeoutInProgress.isSome = true →
      EvsesFree counted
        (s.withEvse evseId { s.evses evseId with identifier := some identifier }) := by
    intro identifier htimeout
    refine hs.withEvse evseId _ (fun _ => Option.some_ne_none _) fun hmem hcount => ?_
    rw [(hs.queued evseId hmem hcount).2] at htimeout
    cases htimeout
  unfold AuthHandler.notifyAuthorized
  split
  · rename_i htimeout
    exact (hstored _ htimeout).congr rfl (List.Subset.refl _)
  · -- the EVSE is taken from the queue
    refine EvsesFree.of_keepsEvses ?_ (keepsEvses_finish _ _ _)
    have hremoved := (hs.removeFromQueue evseId).withEvse evseId
      { s.evses evseId with
        identifier := some
          { idToken := call.token.idToken
            type := call.token.authorizationType
            authorizationStatus := some result.authorizationStatus
            expiryTime := result.expiryTime
            parentIdToken := result.parentIdToken }
        timeoutTimer := some (.authorization call.token) }
      (fun _ => Option.some_ne_none _) ?_
    · refine hremoved.congr ?_ (List.Subset.refl _)
      simp [AuthHandler.withEvse, callback, AuthHandler.removeFromQueue]
    · intro hmem
      simp [AuthHandler.removeFromQueue] at hmem

theorem plugInQueue_notifyAuthorized (call : Call) (evseId : Nat) (result : ValidationResult) :
    (s.notifyAuthorized call evseId result).2.plugInQueue ⊆ s.plugInQueue := by
  intro other hmem
  unfold notifyAuthorized at hmem
  split at hmem
  · exact hmem
  · rw [finishNotify, (keepsEvses_finish _ _ _).plugInQueue] at hmem
    exact mem_of_mem_filter hmem

theorem EvsesFree.finishNotify {counted : Nat → Prop} {s : AuthHandler}
    (hs : EvsesFree counted s) (call : Call) (evseId : Nat) (result : ValidationResult) :
    EvsesFree counted (s.finishNotify call evseId result).2 := by
  refine EvsesFree.of_keepsEvses ?_ (keepsEvses_finish _ _ _)
  have hremoved := (hs.removeFromQueue evseId).withEvse evseId
    { s.evses evseId with timeoutTimer := some (.authorization call.token) }
    (hs.active evseId) ((hs.removeFromQueue evseId).queued evseId)
  exact hremoved.congr rfl (List.Subset.refl _)

end AuthHandler

/-! ## Runs -/

namespace AuthThreads

open AuthHandler

/-- A waiting call takes this EVSE if a car is plugged in there. -/
def countsOn (s : AuthThreads) (evseId : Nat) : Bool :=
  s.calls.any fun call => call.isWaiting && evseId ∈ call.referencedEvses

/-- What is expected of the events and timeouts. -/
def keepsEvsesFree (s : AuthThreads) : AuthThreadLabel → Bool
  | .sessionEvent evseId _ event => s.handler.staysFree (s.countsOn evseId) evseId event
  | .timeoutExpires evseId => !s.countsOn evseId || evseId ∉ s.handler.plugInQueue
  | .timeoutRuns evseId => s.handler.timeoutInTime evseId
  | _ => true

/-- All grants so far were of free EVSEs, and the next ones will be. -/
structure GrantsFree (s : AuthThreads) : Prop where
  waits : s.WaitsAtEvses
  evses : EvsesFree (fun evseId => s.countsOn evseId = true) s.handler
  waiting : ∀ call ∈ s.calls, call.isWaiting = true →
    s.handler.selectionAlgorithm = .plugEvents ∧ call.referencedEvses.length ≠ 1
  grants : ∀ grant ∈ s.handler.grants, grant.IsFree

theorem countsOn_iff (s : AuthThreads) (evseId : Nat) :
    s.countsOn evseId = true ↔
      ∃ call ∈ s.calls, call.isWaiting = true ∧ evseId ∈ call.referencedEvses := by
  simp [countsOn]

section

variable {s : AuthThreads}

theorem GrantsFree.withHandler (hs : s.GrantsFree) {handler : AuthHandler}
    (events : List (Nat × AuthSessionEvent)) (withdrawal : Option WithdrawAuthorizationRequest)
    (hkeeps : s.handler.KeepsTokens handler)
    (hevses : EvsesFree (fun evseId => s.countsOn evseId = true) handler) :
    GrantsFree { s with handler, events, withdrawal } := by
  refine ⟨hs.waits, hevses, ?_, ?_⟩
  · intro call hmem hwaiting
    obtain ⟨halgorithm, hlength⟩ := hs.waiting call hmem hwaiting
    exact ⟨hkeeps.selectionAlgorithm.trans halgorithm, hlength⟩
  · intro grant hmem
    exact hs.grants grant (hkeeps.grants ▸ hmem)

/-- A section keeps the EVSEs free that waiting calls count on. -/
structure SectionFree (s : AuthThreads) (out : Call × AuthHandler) : Prop where
  evses : EvsesFree (fun evseId => s.countsOn evseId = true) out.2
  plugInQueue : out.2.plugInQueue ⊆ s.handler.plugInQueue
  selectionAlgorithm : out.2.selectionAlgorithm = s.handler.selectionAlgorithm
  grants : ∀ grant ∈ out.2.grants, grant.IsFree
  waiting : WaitsForPlugIn s.handler out.1

variable {out : Call × AuthHandler}

variable (hs : s.GrantsFree)

include hs

theorem GrantsFree.of_section (hout : s.SectionFree out) {calls : List Call}
    (hcalls : ∀ call ∈ calls, call ∈ s.calls ∨ call = out.1)
    (hwaits : WaitsAtEvses { s with handler := out.2, calls }) :
    GrantsFree { s with handler := out.2, calls } := by
  -- nobody begins to count on an EVSE in the queue
  have hcounted : ∀ evseId ∈ out.2.plugInQueue,
      countsOn { s with handler := out.2, calls } evseId = true → s.countsOn evseId = true := by
    intro evseId hqueue hcounts
    obtain ⟨call, hmem, hwaiting, hreferenced⟩ := (countsOn_iff _ evseId).mp hcounts
    rcases hcalls call hmem with hold | rfl
    · exact (s.countsOn_iff evseId).mpr ⟨call, hold, hwaiting, hreferenced⟩
    · obtain ⟨result, rest, hprogress⟩ := (Call.isWaiting_iff _).mp hwaiting
      have hnone := (hout.waiting result rest hprogress).2.2.2
      have hnot := find?_eq_none.mp hnone evseId (hout.plugInQueue hqueue)
      simp [hreferenced] at hnot
  refine ⟨hwaits, ⟨hout.evses.active, ?_⟩, ?_, hout.grants⟩
  · intro evseId hqueue hcounts
    exact hout.evses.queued evseId hqueue (hcounted evseId hqueue hcounts)
  · intro call hmem hwaiting
    rcases hcalls call hmem with hold | rfl
    · obtain ⟨halgorithm, hlength⟩ := hs.waiting call hold hwaiting
      exact ⟨hout.selectionAlgorithm.trans halgorithm, hlength⟩
    · obtain ⟨result, rest, hprogress⟩ := (Call.isWaiting_iff _).mp hwaiting
      obtain ⟨halgorithm, hlength, -⟩ := hout.waiting result rest hprogress
      exact ⟨hout.selectionAlgorithm.trans halgorithm, hlength⟩

theorem sectionFree_of_assigned (hassigned : Assigned s.handler out)
    (hwaiting : WaitsForPlugIn s.handler out.1) :
    s.SectionFree out := by
  cases hassigned with
  | unchanged hkeeps =>
    refine ⟨hs.evses.of_keepsEvses hkeeps, ?_, hkeeps.selectionAlgorithm, ?_, hwaiting⟩
    · exact fun _ hmem => hkeeps.plugInQueue ▸ hmem
    · exact fun grant hmem => hs.grants grant (hkeeps.grants ▸ hmem)
  | granted hkeeps hfree =>
    rename_i s' call evseId result
    refine ⟨(hs.evses.of_keepsEvses hkeeps).notifyAuthorized call evseId result, ?_, ?_, ?_,
      hwaiting⟩
    · intro other hmem
      rw [← hkeeps.plugInQueue]
      exact plugInQueue_notifyAuthorized _ _ _ _ hmem
    · rw [← hkeeps.selectionAlgorithm]
      unfold notifyAuthorized
      split
      · rfl
      · exact (keepsEvses_finish _ _ _).selectionAlgorithm
    · intro grant hmem
      rw [grants_notifyAuthorized, mem_append, mem_singleton, hkeeps.grants] at hmem
      rcases hmem with hold | rfl
      · exact hs.grants grant hold
      · refine ⟨?_, ?_⟩
        · intro identifier hbefore
          rw [hkeeps.evses, hfree] at hbefore
          cases hbefore
        · by_contra hactive
          rw [hkeeps.evses] at hactive
          exact hs.evses.active evseId (Bool.eq_true_of_not_eq_false hactive) hfree

theorem sectionFree_of_resumed {index : Nat} {call : Call}
    {label : AuthThreadLabel} (hcall : s.calls[index]? = some call)
    (hout : Resumed s.handler call index label out) : s.SectionFree out := by
  have hmem := mem_of_getElem? hcall
  have hwaiting := waitsForPlugIn_of_resumed hout
  cases hout with
  | validated _ hout => exact sectionFree_of_assigned hs (assigned_of_validated hout) hwaiting
  | selected hprogress hout =>
    -- the EVSE comes from the queue, and this call counts on it
    have hiswaiting : call.isWaiting = true := (Call.isWaiting_iff call).mpr ⟨_, _, hprogress⟩
    obtain ⟨halgorithm, hlength⟩ := hs.waiting call hmem hiswaiting
    refine sectionFree_of_assigned hs (assigned_of_waiting halgorithm hlength ?_ hout) hwaiting
    intro evseId hqueue hreferenced
    have hcounts : s.countsOn evseId = true :=
      (s.countsOn_iff evseId).mpr ⟨call, hmem, hiswaiting, hreferenced⟩
    exact (hs.evses.queued evseId hqueue hcounts).1
  | selectionTimeout =>
    exact sectionFree_of_assigned hs (assigned_finish ⟨rfl, rfl, rfl, rfl⟩) hwaiting
  | notified =>
    rename_i evseId result _ _
    refine ⟨hs.evses.finishNotify call evseId result, ?_, ?_, ?_, hwaiting⟩
    · intro other hother
      rw [finishNotify, (keepsEvses_finish _ _ _).plugInQueue] at hother
      exact mem_of_mem_filter hother
    · exact (keepsEvses_finish _ _ _).selectionAlgorithm
    · intro grant hgrant
      rw [finishNotify, (keepsEvses_finish _ _ _).grants] at hgrant
      exact hs.grants grant hgrant

/-- One step. -/
theorem GrantsFree.step (label : AuthThreadLabel)
    (hcond : s.keepsEvsesFree label = true) : (s.step label).GrantsFree := by
  have hwaits := hs.waits.step label
  have hstep := stepped_step hs.waits label
  generalize s.step label = s' at hwaits hstep ⊢
  cases hstep with
  | began hbegun =>
    refine hs.of_section (sectionFree_of_assigned hs (assigned_of_begun hbegun)
      (waitsForPlugIn_of_begun hbegun)) ?_ hwaits
    exact fun call hmem => (mem_append.mp hmem).imp_right mem_singleton.mp
  | resumed hcall hout =>
    exact hs.of_section (sectionFree_of_resumed hs hcall hout)
      (fun _ hmem => mem_or_eq_of_mem_set hmem) hwaits
  | withdrawing =>
    refine ⟨hwaits, ⟨hs.evses.active, ?_⟩, ?_, hs.grants⟩
    · intro evseId hqueue hcounts
      obtain ⟨call, hmem, hwaiting, hreferenced⟩ := (countsOn_iff _ evseId).mp hcounts
      obtain ⟨old, hold, rfl⟩ := mem_map.mp hmem
      exact hs.evses.queued evseId hqueue
        ((s.countsOn_iff evseId).mpr ⟨old, hold, hwaiting, hreferenced⟩)
    · intro call hmem hwaiting
      obtain ⟨old, hold, rfl⟩ := mem_map.mp hmem
      exact hs.waiting old hold hwaiting
  | kept handler events withdrawal hkeeps hmoved =>
    refine hs.withHandler events withdrawal hkeeps ?_
    cases hmoved with
    | kept hevses => exact hs.evses.of_keepsEvses hevses
    | began => exact hs.evses.beginSessionEvent _ id hcond
    | handled => exact (hs.evses.beginSessionEvent _ id hcond).endSessionEvent _ _
    | ended => exact hs.evses.endSessionEvent _ _
    | expired =>
      refine hs.evses.timeoutExpires fun hcount hmem => ?_
      simp [keepsEvsesFree, hcount, hmem] at hcond
    | ran => exact hs.evses.timeoutRuns hcond
    | updated => exact hs.evses.handleTokenValidationResultUpdate _ _

end

theorem grantsFree_initial (selectionAlgorithm : SelectionAlgorithm)
    (reservationHandler : ReservationHandler) :
    (initial selectionAlgorithm reservationHandler).GrantsFree := by
  refine ⟨forall_mem_nil _, ⟨?_, ?_⟩, ?_, ?_⟩
  · intro evseId hactive
    cases hactive
  · exact fun evseId hmem => (not_mem_nil hmem).elim
  · exact forall_mem_nil _
  · exact forall_mem_nil _

/-- **A token is granted an EVSE only if it is free, as long as no car is plugged in where a call
waits and the EVSE has been given away, and transactions are started and finished in order.** -/
theorem granted_evse_is_free (selectionAlgorithm : SelectionAlgorithm)
    (reservationHandler : ReservationHandler) (labels : List AuthThreadLabel)
    (halong : Along step (fun s label => s.keepsEvsesFree label = true)
      (initial selectionAlgorithm reservationHandler) labels) :
    Always step (fun s => ∀ grant ∈ s.handler.grants, grant.IsFree)
      (initial selectionAlgorithm reservationHandler) labels :=
  always_of_along (fun _ label hs hcond => hs.step label hcond) (fun _ hs => hs.grants)
    (grantsFree_initial selectionAlgorithm reservationHandler) halong

/-- A token waits for a plug-in, a car is plugged in, and the transaction starts. -/
theorem granted_evse_is_free_after_plug_in :
    Always step (fun s => ∀ grant ∈ s.handler.grants, grant.IsFree)
      (initial .plugEvents twoEvses)
      [.onToken (rfidCard "A"), .validated 0 [accepted], .sessionEvent 2 1 (.sessionStarted true),
        .selected 0, .sessionEvent 2 1 .transactionStarted] :=
  granted_evse_is_free _ _ _ (by decide +kernel)

/-- Token A waits for a plug-in. Token B is authorized at EVSE 1 meanwhile, and then the car of
token B is plugged in there. -/
def plugInWhileWaiting : AuthThreads :=
  run step (initial .plugEvents twoEvses)
    [.onToken (rfidCard "A"), .validated 0 [accepted],
      .onToken { rfidCard "B" with connectors := some [1] }, .validated 1 [accepted],
      .sessionEvent 1 1 (.sessionStarted true), .selected 0]

/-- Token A is granted the EVSE of token B. -/
theorem waiting_token_takes_granted_evse :
    plugInWhileWaiting.calls.map Call.progress =
        [.returned .usedToStartTransaction, .returned .usedToStartTransaction] ∧
      plugInWhileWaiting.handler.grants.map (fun grant => (grant.evseId, grant.token.value)) =
        [(1, "B"), (1, "A")] ∧
      (plugInWhileWaiting.handler.grants.map fun grant =>
        grant.before.map fun identifier => identifier.idToken.value) = [none, some "B"] := by
  decide +kernel

end AuthThreads

end EverestCore.Auth
