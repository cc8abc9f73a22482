import EverestCore.Auth.TokenSections

/-!
# What a step of the threads can do

A call begins, a waiting call runs its next section, a withdraw request is stored, or the step
is about the EVSEs and no token is concerned.
-/

namespace EverestCore.Auth

open EverestCore.Lib

namespace AuthHandler

/-- Nothing about tokens changes. -/
structure KeepsTokens (s s' : AuthHandler) : Prop where
  selectionAlgorithm : s'.selectionAlgorithm = s.selectionAlgorithm
  tokensInProcess : s'.tokensInProcess = s.tokensInProcess
  withdrawRequest : s'.withdrawRequest = s.withdrawRequest
  grants : s'.grants = s.grants

/-- What the events and timeouts have to do with is unchanged. -/
structure KeepsEvses (s s' : AuthHandler) : Prop where
  selectionAlgorithm : s'.selectionAlgorithm = s.selectionAlgorithm
  evses : s'.evses = s.evses
  plugInQueue : s'.plugInQueue = s.plugInQueue
  grants : s'.grants = s.grants

/-- What a step that concerns no token does to the EVSEs. -/
inductive EvsesMoved (s : AuthHandler) : AuthThreadLabel → AuthHandler → Prop
  | kept {label : AuthThreadLabel} {s' : AuthHandler} (hkeeps : s.KeepsEvses s') :
      EvsesMoved s label s'
  | began {evseId connectorId : Nat} {event : AuthSessionEvent} :
      EvsesMoved s (.sessionEvent evseId connectorId event)
        (s.beginSessionEvent evseId connectorId event)
  | handled {evseId connectorId : Nat} {event : AuthSessionEvent} :
      EvsesMoved s (.sessionEvent evseId connectorId event)
        ((s.beginSessionEvent evseId connectorId event).endSessionEvent evseId event)
  | ended {index evseId : Nat} {event : AuthSessionEvent} :
      EvsesMoved s (.sessionEventContinues index) (s.endSessionEvent evseId event)
  | expired {evseId : Nat} : EvsesMoved s (.timeoutExpires evseId) (s.timeoutExpires evseId)
  | ran {evseId : Nat} : EvsesMoved s (.timeoutRuns evseId) (s.timeoutRuns evseId)
  | updated {evseId : Nat} {result : ValidationResult} :
      EvsesMoved s (.validationResultUpdate evseId result)
        (s.handleTokenValidationResultUpdate evseId result)

namespace KeepsTokens

variable (s : AuthHandler)

theorem refl : s.KeepsTokens s := ⟨rfl, rfl, rfl, rfl⟩

theorem trans {s s' s'' : AuthHandler} (h : s.KeepsTokens s') (h' : s'.KeepsTokens s'') :
    s.KeepsTokens s'' :=
  ⟨h'.selectionAlgorithm.trans h.selectionAlgorithm, h'.tokensInProcess.trans h.tokensInProcess,
    h'.withdrawRequest.trans h.withdrawRequest, h'.grants.trans h.grants⟩

theorem beginSessionEvent (evseId connectorId : Nat) (event : AuthSessionEvent) :
    s.KeepsTokens (s.beginSessionEvent evseId connectorId event) := by
  unfold AuthHandler.beginSessionEvent
  split
  · split <;> exact ⟨rfl, rfl, rfl, rfl⟩
  case h_8 => split <;> exact ⟨rfl, rfl, rfl, rfl⟩
  all_goals exact ⟨rfl, rfl, rfl, rfl⟩

variable (evseId : Nat)

theorem endSessionEvent (event : AuthSessionEvent) :
    s.KeepsTokens (s.endSessionEvent evseId event) := by
  cases event <;> exact ⟨rfl, rfl, rfl, rfl⟩

theorem timeoutExpires : s.KeepsTokens (s.timeoutExpires evseId) := by
  unfold AuthHandler.timeoutExpires
  split <;> exact ⟨rfl, rfl, rfl, rfl⟩

theorem timeoutRuns : s.KeepsTokens (s.timeoutRuns evseId) := by
  unfold AuthHandler.timeoutRuns
  split <;> exact ⟨rfl, rfl, rfl, rfl⟩

theorem handleTokenValidationResultUpdate (result : ValidationResult) :
    s.KeepsTokens (s.handleTokenValidationResultUpdate evseId result) := by
  unfold AuthHandler.handleTokenValidationResultUpdate
  split <;> exact ⟨rfl, rfl, rfl, rfl⟩

end KeepsTokens

theorem endWithdrawAuthorization_eq (s : AuthHandler) (request : WithdrawAuthorizationRequest) :
    ∃ callbacks, s.endWithdrawAuthorization request = { s with callbacks } := by
  unfold endWithdrawAuthorization
  generalize s.withdrawnEvses request = evseIds
  induction evseIds generalizing s with
  | nil => exact ⟨s.callbacks, rfl⟩
  | cons evseId rest ih =>
    obtain ⟨callbacks, hfirst⟩ :
        ∃ callbacks, s.withdrawAuthorizationOrStopTransaction evseId = { s with callbacks } := by
      unfold withdrawAuthorizationOrStopTransaction
      split <;> exact ⟨_, rfl⟩
    rw [List.foldl_cons, hfirst]
    exact ih { s with callbacks }

end AuthHandler

/-- The call that a label lets go on. -/
def AuthThreadLabel.resumed? : AuthThreadLabel → Option Nat
  | .validated index _ | .selected index | .selectionTimeout index | .notified index => some index
  | _ => none

namespace AuthThreads

open AuthHandler

/-- A waiting call has EVSEs to wait for. -/
def WaitsAtEvses (s : AuthThreads) : Prop :=
  ∀ call ∈ s.calls, ∀ result rest, call.progress = .selecting result rest →
    call.referencedEvses ≠ []

/-- A waiting call runs its next section. -/
inductive Resumed (s : AuthHandler) (call : Call) (index : Nat) :
    AuthThreadLabel → Call × AuthHandler → Prop
  | validated {results : List ValidationResult} {out : Call × AuthHandler}
      (hprogress : call.progress = .validating) (hout : Validated s call results out) :
      Resumed s call index (.validated index results) out
  | selected {result : ValidationResult} {rest : List ValidationResult}
      {out : Call × AuthHandler} (hprogress : call.progress = .selecting result rest)
      (hout : Authorizing s call out) : Resumed s call index (.selected index) out
  | selectionTimeout {result : ValidationResult} {rest : List ValidationResult}
      (hprogress : call.progress = .selecting result rest) :
      Resumed s call index (.selectionTimeout index) (s.finish call .timeout)
  | notified {evseId : Nat} {result : ValidationResult}
      (hprogress : call.progress = .notifying evseId result)
      (hidle : (s.evses evseId).timeoutInProgress = none) :
      Resumed s call index (.notified index) (s.finishNotify call evseId result)

/-- What a step does. -/
inductive Stepped (s : AuthThreads) : AuthThreadLabel → AuthThreads → Prop
  | began {token : ProvidedIdToken} {out : Call × AuthHandler}
      (hout : Begun s.handler (s.handler.newCall token s.withdrawal) out) :
      Stepped s (.onToken token) { s with handler := out.2, calls := s.calls ++ [out.1] }
  | resumed {index : Nat} {label : AuthThreadLabel} {call : Call} {out : Call × AuthHandler}
      (hcall : s.calls[index]? = some call) (hout : Resumed s.handler call index label out) :
      Stepped s label (s.withCall index out)
  | withdrawing (request : WithdrawAuthorizationRequest) (callbacks : List AuthCallback)
      (withdrawal : Option WithdrawAuthorizationRequest) :
      Stepped s (.withdrawAuthorization request)
        { s with
          handler := { s.handler with withdrawRequest := some request, callbacks }
          calls := s.calls.map (markTargeted request)
          withdrawal }
  | kept {label : AuthThreadLabel} (handler : AuthHandler)
      (events : List (Nat × AuthSessionEvent)) (withdrawal : Option WithdrawAuthorizationRequest)
      (hkeeps : s.handler.KeepsTokens handler) (hmoved : s.handler.EvsesMoved label handler) :
      Stepped s label { s with handler, events, withdrawal }

theorem Stepped.refl (s : AuthThreads) (label : AuthThreadLabel) : Stepped s label s :=
  .kept s.handler s.events s.withdrawal (.refl s.handler) (.kept ⟨rfl, rfl, rfl, rfl⟩)

variable {label : AuthThreadLabel} {s : AuthThreads}

theorem Stepped.withHandler {handler : AuthHandler} (hkeeps : s.handler.KeepsTokens handler)
    (hmoved : s.handler.EvsesMoved label handler) : Stepped s label (s.withHandler handler) :=
  .kept handler s.events s.withdrawal hkeeps hmoved

theorem Stepped.withReservations {handler : AuthHandler}
    (hkeeps : s.handler.KeepsTokens handler) (hevses : s.handler.KeepsEvses handler) :
    Stepped s label (s.withHandler handler) :=
  .withHandler hkeeps (.kept hevses)

/-- Only the section that a call waits for runs. -/
theorem resume_cases {s : AuthHandler} {call : Call} {index : Nat} {out : Call × AuthHandler}
    (hwaits : ∀ result rest, call.progress = .selecting result rest → call.referencedEvses ≠ [])
    (hlabel : label.resumed? = some index) (hresume : resume s call label = some out) :
    Resumed s call index label out := by
  cases label with
  | validated _ results =>
    cases hlabel
    simp only [resume] at hresume
    split at hresume
    · rename_i hprogress
      cases hresume
      exact .validated hprogress (s.validated_afterValidation call results)
    · cases hresume
  | selected =>
    cases hlabel
    simp only [resume] at hresume
    split at hresume
    · rename_i result rest hprogress
      cases hresume
      refine .selected hprogress (authorizing_useSelection (hwaits result rest hprogress) ?_)
      exact fun _ call' last _ _ => authorizing_authorize _ call' last rest
    · cases hresume
  | selectionTimeout =>
    cases hlabel
    simp only [resume] at hresume
    split at hresume
    · rename_i hprogress
      split at hresume
      · cases hresume
        exact .selectionTimeout hprogress
      · cases hresume
    · cases hresume
  | notified =>
    cases hlabel
    simp only [resume] at hresume
    split at hresume
    · rename_i evseId result hprogress
      split at hresume
      · cases hresume
      · rename_i hidle
        cases hresume
        exact .notified hprogress (by simpa using hidle)
    · cases hresume
  | _ => cases hlabel

theorem stepped_resumeCall (hwaits : s.WaitsAtEvses) {index : Nat}
    (hlabel : label.resumed? = some index) : Stepped s label (s.resumeCall index label) := by
  unfold resumeCall
  cases hcall : s.calls[index]? with
  | none => exact .refl s label
  | some call =>
    have hcallWaits := hwaits call (List.mem_of_getElem? hcall)
    cases hresume : resume s.handler call label with
    | none =>
      simp only [hresume]
      exact .refl s label
    | some out =>
      simp only [hresume]
      exact .resumed hcall (resume_cases hcallWaits hlabel hresume)

theorem stepped_sessionEvent (s : AuthThreads) (evseId connectorId : Nat)
    (event : AuthSessionEvent) : Stepped s (.sessionEvent evseId connectorId event)
      (s.sessionEvent evseId connectorId event) := by
  have hbegin := KeepsTokens.beginSessionEvent s.handler evseId connectorId event
  unfold sessionEvent
  split
  · dsimp only
    split
    · exact .kept _ _ s.withdrawal hbegin .began
    · exact .withHandler (hbegin.trans (.endSessionEvent _ _ _)) .handled
  · exact .refl s _

theorem stepped_withdrawAuthorization (s : AuthThreads) (request : WithdrawAuthorizationRequest) :
    Stepped s (.withdrawAuthorization request) (s.withdrawAuthorization request) := by
  unfold withdrawAuthorization
  split
  · exact .refl s _
  split
  · exact .refl s _
  dsimp only
  split
  · exact .withdrawing request s.handler.callbacks (some request)
  · obtain ⟨callbacks, hend⟩ := endWithdrawAuthorization_eq
      { s.handler with withdrawRequest := some request } request
    rw [hend]
    exact .withdrawing request callbacks s.withdrawal

/-- **Everything a step can do.** -/
theorem stepped_step (hwaits : s.WaitsAtEvses) (label : AuthThreadLabel) :
    Stepped s label (s.step label) := by
  cases label with
  | onToken token => exact .began (s.handler.begun_onToken token s.withdrawal)
  | validated | selected | selectionTimeout | notified => exact stepped_resumeCall hwaits rfl
  | sessionEvent evseId connectorId event => exact s.stepped_sessionEvent evseId connectorId event
  | sessionEventContinues index =>
    show Stepped s _ (s.sessionEventContinues index)
    unfold sessionEventContinues
    split
    · exact .refl s _
    split
    · exact .refl s _
    · exact .kept _ _ s.withdrawal (.endSessionEvent _ _ _) .ended
  | timeoutExpires evseId => exact .withHandler (.timeoutExpires _ evseId) .expired
  | timeoutRuns evseId => exact .withHandler (.timeoutRuns _ evseId) .ran
  | withdrawAuthorization request => exact s.stepped_withdrawAuthorization request
  | withdrawAuthorizationContinues =>
    show Stepped s _ s.withdrawAuthorizationContinues
    unfold withdrawAuthorizationContinues
    split
    · exact .refl s _
    split
    · exact .refl s _
    · rename_i request _ _
      obtain ⟨callbacks, hend⟩ := s.handler.endWithdrawAuthorization_eq request
      rw [hend]
      exact .kept _ s.events none ⟨rfl, rfl, rfl, rfl⟩ (.kept ⟨rfl, rfl, rfl, rfl⟩)
  | validationResultUpdate evseId result =>
    exact .withHandler (.handleTokenValidationResultUpdate _ evseId result) .updated
  | permanentFault evseId connectorId raised =>
    dsimp only [step]
    split
    · exact .refl s _
    · exact .withReservations ⟨rfl, rfl, rfl, rfl⟩ ⟨rfl, rfl, rfl, rfl⟩
  | reserve | cancelReservation | setMasterPassGroupId
  | setPrioritizeAuthorizationOverStoppingTransaction =>
    exact .withReservations ⟨rfl, rfl, rfl, rfl⟩ ⟨rfl, rfl, rfl, rfl⟩

/-! ## Waiting calls -/

/-- If the call waits, it does so because no car is plugged in at one of several EVSEs. -/
def WaitsForPlugIn (s : AuthHandler) (call : Call) : Prop :=
  ∀ result rest, call.progress = .selecting result rest →
    s.selectionAlgorithm = .plugEvents ∧ call.referencedEvses.length ≠ 1 ∧
      call.referencedEvses ≠ [] ∧ s.getLatestPlugin call.referencedEvses = none

section

variable {s : AuthHandler} {call : Call} {out : Call × AuthHandler}

theorem waitsForPlugIn_of_returned {result : TokenHandlingResult}
    (hprogress : call.progress = .returned result) : WaitsForPlugIn s call := by
  intro _ _ hselecting
  rw [hprogress] at hselecting
  cases hselecting

theorem waitsForPlugIn_of_authorizing (hout : Authorizing s call out) : WaitsForPlugIn s out.1 := by
  cases hout with
  | returned | withdrawn => exact waitsForPlugIn_of_returned rfl
  | threw =>
    intro _ _ hselecting
    cases hselecting
  | waits _ _ hselect hne =>
    intro _ _ _
    obtain ⟨halgorithm, hlength, hlatest⟩ := of_wait hselect
    exact ⟨halgorithm, hlength, hne, hlatest⟩
  | granted =>
    intro _ _ hselecting
    rcases progress_notifyAuthorized _ _ _ _ with hprogress | hprogress
    all_goals
      cases hprogress.symm.trans hselecting

theorem waitsForPlugIn_of_validated {results : List ValidationResult}
    (hout : Validated s call results out) : WaitsForPlugIn s out.1 := by
  cases hout with
  | pending | stopped | returned => exact waitsForPlugIn_of_returned rfl
  | authorizing _ hout => exact waitsForPlugIn_of_authorizing hout

theorem waitsForPlugIn_of_begun (hout : Begun s call out) : WaitsForPlugIn s out.1 := by
  cases hout with
  | alreadyInProcess | returned => exact waitsForPlugIn_of_returned rfl
  | validating =>
    intro _ _ hselecting
    cases hselecting
  | prevalidated _ hout =>
    have hwaits : WaitsForPlugIn (s.processing call.token) out.1 := waitsForPlugIn_of_validated hout
    exact hwaits

theorem waitsForPlugIn_of_resumed {index : Nat} {label : AuthThreadLabel}
    (hout : Resumed s call index label out) : WaitsForPlugIn s out.1 := by
  cases hout with
  | validated _ hout => exact waitsForPlugIn_of_validated hout
  | selected _ hout => exact waitsForPlugIn_of_authorizing hout
  | selectionTimeout | notified => exact waitsForPlugIn_of_returned rfl

end

/-- How to show something for all calls after a step. -/
theorem Stepped.forall_calls {s s' : AuthThreads} (hstep : Stepped s label s') {P : Call → Prop}
    (hcalls : ∀ call ∈ s.calls, P call) (hbegun : ∀ token out, label = .onToken token →
      Begun s.handler (s.handler.newCall token s.withdrawal) out → P out.1)
    (hresumed : ∀ index call out, s.calls[index]? = some call →
      Resumed s.handler call index label out → P out.1)
    (htargeted : ∀ request call, P call → P (markTargeted request call)) :
    ∀ call ∈ s'.calls, P call := by
  intro call hmem
  cases hstep with
  | began hout =>
    rcases List.mem_append.mp hmem with hold | hnew
    · exact hcalls call hold
    · rw [List.mem_singleton.mp hnew]
      exact hbegun _ _ rfl hout
  | resumed hcall hout =>
    rcases List.mem_or_eq_of_mem_set hmem with hold | rfl
    · exact hcalls call hold
    · exact hresumed _ _ _ hcall hout
  | withdrawing =>
    obtain ⟨old, hold, rfl⟩ := List.mem_map.mp hmem
    exact htargeted _ old (hcalls old hold)
  | kept => exact hcalls call hmem

theorem WaitsAtEvses.step (hwaits : s.WaitsAtEvses) (label : AuthThreadLabel) :
    (s.step label).WaitsAtEvses := by
  refine (stepped_step hwaits label).forall_calls hwaits ?_ ?_ fun _ _ hold => hold
  · intro token out _ hout result rest hselecting
    exact (waitsForPlugIn_of_begun hout result rest hselecting).2.2.1
  · intro index call out _ hout result rest hselecting
    exact (waitsForPlugIn_of_resumed hout result rest hselecting).2.2.1

end AuthThreads

end EverestCore.Auth
