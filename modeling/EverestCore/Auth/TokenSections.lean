import EverestCore.Auth.TokenThreads

/-!
# What a section of a token call can do

Each section ends in one of a few ways: the call returns, an exception leaves it, it waits, or
an identifier is stored. The functions of the handler are inverted here once, and what follows
uses these cases.
-/

namespace EverestCore.Auth

open List

/-- The token of a call keeps its id, and the EVSEs are at most reordered. -/
structure Call.Continues (call call' : Call) : Prop where
  providedToken : call'.providedToken = call.providedToken
  idToken : call'.token.idToken = call.token.idToken
  referencedEvses : call'.referencedEvses.Perm call.referencedEvses
  heldAtEntry : call'.heldAtEntry = call.heldAtEntry
  targeted : call'.targeted = call.targeted

namespace Call.Continues

theorem refl (call : Call) : call.Continues call :=
  ⟨rfl, rfl, List.Perm.refl _, rfl, rfl⟩

theorem trans {call call' call'' : Call} (h : call.Continues call') (h' : call'.Continues call'') :
    call.Continues call'' :=
  ⟨h'.providedToken.trans h.providedToken, h'.idToken.trans h.idToken,
    h'.referencedEvses.trans h.referencedEvses, h'.heldAtEntry.trans h.heldAtEntry,
    h'.targeted.trans h.targeted⟩

theorem withToken (call : Call) {token : ProvidedIdToken}
    (hid : token.idToken = call.token.idToken) : call.Continues { call with token } :=
  ⟨rfl, hid, List.Perm.refl _, rfl, rfl⟩

theorem sortReferenced (call : Call) (result : ValidationResult) :
    call.Continues (AuthHandler.sortReferenced call result) := by
  unfold AuthHandler.sortReferenced
  split
  · exact ⟨rfl, rfl, perm_insertionSort _ _, rfl, rfl⟩
  · exact refl call

end Call.Continues

namespace AuthHandler

variable (s : AuthHandler)

def NamedEvsesExist (token : ProvidedIdToken) : Prop :=
  ∀ evseId ∈ token.connectors.getD [], evseId ∈ s.reservationHandler.evses

/-! ## The end of a call -/

/-- The tokens in process after a call. -/
def remainingTokens (call : Call) (result : TokenHandlingResult) :
    List ProvidedIdToken :=
  if result = .alreadyInProcess then s.tokensInProcess
  else s.tokensInProcess.filter fun other =>
    other.idToken.value ≠ call.providedToken.idToken.value

variable (s : AuthHandler) (call : Call)

theorem finish_snd (result : TokenHandlingResult) :
    ∃ callbacks, (s.finish call result).2 =
      { s with callbacks, tokensInProcess := s.remainingTokens call result } := by
  cases result <;> exact ⟨_, rfl⟩

theorem progress_notifyAuthorized (evseId : Nat) (result : ValidationResult) :
    (s.notifyAuthorized call evseId result).1.progress = .notifying evseId result ∨
      (s.notifyAuthorized call evseId result).1.progress = .returned .usedToStartTransaction := by
  unfold notifyAuthorized
  split
  · exact .inl rfl
  · exact .inr rfl

/-! ## The loop over the validation results -/

/-- The ways out of the loop over the validation results. Only callbacks have been made before
the call ends, waits or is granted an EVSE. -/
inductive Authorizing (s : AuthHandler) (call : Call) : Call × AuthHandler → Prop
  | returned {call' : Call} (callbacks : List AuthCallback) {result : TokenHandlingResult}
      (hcall : call.Continues call') (hresult : result = .rejected ∨ result = .timeout) :
      Authorizing s call ({ s with callbacks }.finish call' result)
  | withdrawn {call' : Call} (callbacks : List AuthCallback) (hcall : call.Continues call')
      (hselect : s.selectEvse call'.referencedEvses call'.token.idToken = .interrupted)
      (hne : call'.referencedEvses ≠ []) :
      Authorizing s call ({ s with callbacks }.finish call' .withdrawn)
  | threw {call' : Call} (callbacks : List AuthCallback) (hcall : call.Continues call')
      (hreason : s.selectionAlgorithm = .userInput ∨ ¬ s.NamedEvsesExist call.token) :
      Authorizing s call ({ s with callbacks }.throw call')
  | waits {call' : Call} (callbacks : List AuthCallback) (hcall : call.Continues call')
      {result : ValidationResult} {rest : List ValidationResult}
      (hselect : s.selectEvse call'.referencedEvses call'.token.idToken = .wait)
      (hne : call'.referencedEvses ≠ []) :
      Authorizing s call ({ call' with progress := .selecting result rest }, { s with callbacks })
  | granted {call' call'' : Call} (callbacks : List AuthCallback)
      (reservationHandler : ReservationHandler) {evseId : Nat} {result result' : ValidationResult}
      (hcall : call.Continues call') (hcall' : call.Continues call'')
      (hselect : s.selectEvse call'.referencedEvses call'.token.idToken = .evseSelected evseId)
      (hdecide : ∀ status, s.decideEvse call' result evseId ≠ .refused status) :
      Authorizing s call
        ({ s with callbacks, reservationHandler }.notifyAuthorized call'' evseId result')

theorem notifyRejected_cases (result : ValidationResult) (evseIds : List Nat) :
    ∃ callbacks,
      s.notifyRejected call result evseIds = { s with callbacks }.finish call .rejected ∨
      (s.notifyRejected call result evseIds = { s with callbacks }.throw call ∧
        ∃ evseId ∈ evseIds, evseId ∉ s.reservationHandler.evses) := by
  induction evseIds generalizing s with
  | nil => exact ⟨s.callbacks, .inl rfl⟩
  | cons evseId rest ih =>
    rw [notifyRejected]
    by_cases hevse : evseId ∈ s.reservationHandler.evses
    · rw [if_pos hevse]
      obtain ⟨callbacks, hfinish | ⟨hthrow, missing, hmem, hmissing⟩⟩ :=
        ih (s.callback (.notifyEvse evseId call.token result))
      · exact ⟨callbacks, .inl hfinish⟩
      · exact ⟨callbacks, .inr ⟨hthrow, missing, mem_cons_of_mem _ hmem, hmissing⟩⟩
    · rw [if_neg hevse]
      exact ⟨s.callbacks, .inr ⟨rfl, evseId, mem_cons_self, hevse⟩⟩

variable {out : Call × AuthHandler}

theorem Authorizing.of_continues {s : AuthHandler} {call call' : Call}
    (hcall : call.Continues call') (hconnectors : call'.token.connectors = call.token.connectors)
    {callbacks : List AuthCallback} (h : Authorizing { s with callbacks } call' out) :
    Authorizing s call out := by
  have hnamed : ∀ callbacks, ¬ { s with callbacks }.NamedEvsesExist call'.token →
      ¬ s.NamedEvsesExist call.token := by
    intro _ hnot hexist
    refine hnot fun evseId hmem => hexist evseId ?_
    rw [← hconnectors]
    exact hmem
  cases h with
  | returned callbacks' hcall' hresult => exact .returned callbacks' (hcall.trans hcall') hresult
  | withdrawn callbacks' hcall' hselect hne =>
    exact .withdrawn callbacks' (hcall.trans hcall') hselect hne
  | threw callbacks' hcall' hreason =>
    exact .threw callbacks' (hcall.trans hcall') (hreason.imp_right (hnamed _))
  | waits callbacks' hcall' hselect hne => exact .waits callbacks' (hcall.trans hcall') hselect hne
  | granted callbacks' reservationHandler hcall' hcall'' hselect hdecide =>
    exact .granted callbacks' reservationHandler (hcall.trans hcall') (hcall.trans hcall'')
      hselect hdecide

theorem connectors_sortReferenced (result : ValidationResult) :
    (sortReferenced call result).token.connectors = call.token.connectors := by
  unfold sortReferenced
  split <;> rfl

/-! ### Selections -/

section

variable {s : AuthHandler} {selectedEvses : List Nat} {idToken : IdToken}

theorem selectEvse_plugEvents (hlength : selectedEvses.length ≠ 1)
    (halgorithm : s.selectionAlgorithm = .plugEvents) :
    s.selectEvse selectedEvses idToken =
      if s.isAuthorizationWithdrawn selectedEvses idToken then .interrupted
      else (s.getLatestPlugin selectedEvses).elim .wait .evseSelected := by
  unfold selectEvse
  split
  · exact absurd rfl hlength
  · simp only [halgorithm]
    cases s.getLatestPlugin selectedEvses <;> rfl

theorem mem_of_getLatestPlugin {evseId : Nat}
    (hlatest : s.getLatestPlugin selectedEvses = some evseId) :
    evseId ∈ s.plugInQueue ∧ evseId ∈ selectedEvses :=
  ⟨mem_of_find?_eq_some hlatest, by simpa using find?_some hlatest⟩

/-- What a selection says of the EVSEs it was made from. -/
theorem selectEvse_spec (s : AuthHandler) (selectedEvses : List Nat) (idToken : IdToken) :
    match s.selectEvse selectedEvses idToken with
    | .evseSelected evseId => evseId ∈ selectedEvses
    | .wait => s.selectionAlgorithm = .plugEvents ∧ selectedEvses.length ≠ 1 ∧
        s.getLatestPlugin selectedEvses = none
    | .interrupted => s.selectionAlgorithm = .plugEvents ∧ selectedEvses.length ≠ 1 ∧
        s.isAuthorizationWithdrawn selectedEvses idToken = true
    | .notImplemented => s.selectionAlgorithm = .userInput
    | .timeOut => True := by
  by_cases hlength : selectedEvses.length = 1
  · obtain ⟨evseId, rfl⟩ := length_eq_one_iff.mp hlength
    exact mem_singleton_self evseId
  cases halgorithm : s.selectionAlgorithm with
  | plugEvents =>
    rw [selectEvse_plugEvents hlength halgorithm]
    by_cases hwithdrawn : s.isAuthorizationWithdrawn selectedEvses idToken = true
    · rw [if_pos hwithdrawn]
      exact ⟨rfl, hlength, hwithdrawn⟩
    · rw [if_neg hwithdrawn]
      cases hlatest : s.getLatestPlugin selectedEvses with
      | some evseId => exact (mem_of_getLatestPlugin hlatest).2
      | none => exact ⟨rfl, hlength, rfl⟩
  | findFirst =>
    generalize hselect : s.selectEvse selectedEvses idToken = selection
    unfold selectEvse at hselect
    split at hselect
    · exact absurd rfl hlength
    simp only [halgorithm] at hselect
    split at hselect
    · rename_i evseId hlatest
      subst hselect
      exact (mem_of_getLatestPlugin (Option.filter_eq_some_iff.mp hlatest).1).2
    split at hselect
    · rename_i evseId hfind
      subst hselect
      exact mem_of_find?_eq_some hfind
    · subst hselect
      trivial
  | userInput =>
    have hselect : s.selectEvse selectedEvses idToken = .notImplemented := by
      unfold selectEvse
      split
      · exact absurd rfl hlength
      · rw [halgorithm]
    rw [hselect]

theorem mem_of_evseSelected {evseId : Nat}
    (hselect : s.selectEvse selectedEvses idToken = .evseSelected evseId) :
    evseId ∈ selectedEvses := by
  simpa only [hselect] using s.selectEvse_spec selectedEvses idToken

theorem of_wait (hselect : s.selectEvse selectedEvses idToken = .wait) :
    s.selectionAlgorithm = .plugEvents ∧ selectedEvses.length ≠ 1 ∧
      s.getLatestPlugin selectedEvses = none := by
  simpa only [hselect] using s.selectEvse_spec selectedEvses idToken

theorem of_interrupted (hselect : s.selectEvse selectedEvses idToken = .interrupted) :
    s.selectionAlgorithm = .plugEvents ∧ selectedEvses.length ≠ 1 ∧
      s.isAuthorizationWithdrawn selectedEvses idToken = true := by
  simpa only [hselect] using s.selectEvse_spec selectedEvses idToken

theorem of_notImplemented (hselect : s.selectEvse selectedEvses idToken = .notImplemented) :
    s.selectionAlgorithm = .userInput := by
  simpa only [hselect] using s.selectEvse_spec selectedEvses idToken

end

/-- A selection is used, waited for or given up. -/
theorem authorizing_useSelection {s : AuthHandler} {call : Call} {result : ValidationResult}
    {rest : List ValidationResult}
    {next : AuthHandler → Call → ValidationResult → Call × AuthHandler}
    (hne : call.referencedEvses ≠ [])
    (hnext : ∀ (callbacks : List AuthCallback) (call' : Call) (last : ValidationResult),
      call.Continues call' → call'.token.connectors = call.token.connectors →
        Authorizing { s with callbacks } call' (next { s with callbacks } call' last)) :
    Authorizing s call (s.useSelection call result rest next
      (s.selectEvse call.referencedEvses call.token.idToken)) := by
  have hrefl := Call.Continues.refl call
  have hsorted := Call.Continues.sortReferenced call result
  cases hselect : s.selectEvse call.referencedEvses call.token.idToken with
  | wait => exact .waits s.callbacks hrefl hselect hne
  | timeOut => exact .returned s.callbacks hrefl (.inr rfl)
  | interrupted => exact .withdrawn s.callbacks hrefl hselect hne
  | notImplemented => exact .threw s.callbacks hrefl (.inl (of_notImplemented hselect))
  | evseSelected evseId =>
    have hassigned : call.Continues (assign (sortReferenced call result) evseId) :=
      hsorted.trans (.withToken _ rfl)
    dsimp only [useSelection]
    cases hdecide : s.decideEvse call result evseId with
    | authorized =>
      have hgranted : ∀ status, s.decideEvse call result evseId ≠ .refused status := by
        simp [hdecide]
      exact .granted s.callbacks s.reservationHandler hrefl hassigned hselect hgranted
    | reservationUsed reservationId =>
      have hgranted : ∀ status, s.decideEvse call result evseId ≠ .refused status := by
        simp [hdecide]
      exact .granted s.callbacks (s.reservationHandler.onReservationUsed reservationId) hrefl
        hassigned hselect hgranted
    | refused status =>
      have hconnectors := connectors_sortReferenced call result
      exact .of_continues hsorted hconnectors (hnext _ _ _ hsorted hconnectors)

theorem authorizing_reject (last : ValidationResult) : Authorizing s call (s.reject call last) := by
  have hrefl := Call.Continues.refl call
  obtain ⟨callbacks, hfinish | ⟨hthrow, evseId, hmem, hmissing⟩⟩ :=
    s.notifyRejected_cases call last (call.token.connectors.getD [])
  · rw [reject, hfinish]
    exact .returned callbacks hrefl (.inl rfl)
  · rw [reject, hthrow]
    exact .threw callbacks hrefl (.inr fun hexist => hmissing (hexist evseId hmem))

/-- **Everything the loop over the validation results can do.** -/
theorem authorizing_authorize (last : ValidationResult) (results : List ValidationResult) :
    Authorizing s call (s.authorize call last results) := by
  induction results generalizing s call last with
  | nil => exact s.authorizing_reject call last
  | cons result rest ih =>
    rw [authorize]
    split
    · exact s.authorizing_reject call last
    split
    · exact ih s call result
    split
    · exact .returned s.callbacks (Call.Continues.refl call) (.inl rfl)
    · rename_i hne _ _
      have hparent : call.Continues (withParentIdToken call result) := .withToken call rfl
      refine .of_continues hparent rfl (authorizing_useSelection hne ?_)
      exact fun _ call' last' _ _ => ih _ call' last'

/-! ## Stops -/

/-- A parent id belongs to the identifier of an EVSE whose transaction has not started. The
results before do not end the call. -/
def parentIdPending (s : AuthHandler) (referencedEvses : List Nat) :
    List ValidationResult → Bool
  | [] => false
  | result :: rest =>
    match acceptedParentIdToken result with
    | none => s.parentIdPending referencedEvses rest
    | some parent =>
      if s.equalsMasterPassGroupId (some parent) then false
      else
        match s.usedForTransaction referencedEvses parent.value with
        | none => s.parentIdPending referencedEvses rest
        | some evseId => !(s.evses evseId).transactionActive

/-- The EVSEs whose transactions a parent id stops. -/
inductive StoppedEvses (s : AuthHandler) (referencedEvses : List Nat) : List Nat → Prop
  | masterPass (hgroup : s.masterPassGroupId.isSome) :
      StoppedEvses s referencedEvses (s.activeEvses referencedEvses)
  | parentId {parent : String} {evseId : Nat}
      (hused : s.usedForTransaction referencedEvses parent = some evseId)
      (hactive : (s.evses evseId).transactionActive = true) :
      StoppedEvses s referencedEvses [evseId]

variable (token : ProvidedIdToken)

theorem stopAll_eq (evseIds : List Nat) :
    ∃ callbacks, s.stopAll token evseIds = { s with callbacks } := by
  unfold stopAll
  induction evseIds generalizing s with
  | nil => exact ⟨s.callbacks, rfl⟩
  | cons evseId rest ih => exact ih (s.callback (.stopTransaction evseId .masterPass (some token)))

theorem masterPassGroupId_of_equals {s : AuthHandler} {parentIdToken : Option IdToken}
    (hequals : s.equalsMasterPassGroupId parentIdToken = true) :
    s.masterPassGroupId.isSome = true := by
  unfold equalsMasterPassGroupId at hequals
  cases hgroup : s.masterPassGroupId with
  | none =>
    rw [hgroup] at hequals
    cases hequals
  | some groupId => rfl

variable (results : List ValidationResult)

/-- A call that goes on has found no pending transaction. -/
theorem stopByParentId_cases :
    (s.stopByParentId call results = none ∧
      s.parentIdPending call.referencedEvses results = false) ∨
    ∃ callbacks call', call.Continues call' ∧
      ((s.parentIdPending call.referencedEvses results = true ∧ s.stopByParentId call results =
          some ({ s with callbacks }.finish call' .alreadyInProcess)) ∨
        (s.parentIdPending call.referencedEvses results = false ∧ s.stopByParentId call results =
          some ({ s with callbacks }.finish call' .usedToStopTransaction) ∧
          ∃ evseIds, s.StoppedEvses call.referencedEvses evseIds ∧
            call'.token.connectors = some evseIds)) := by
  induction results with
  | nil => exact .inl ⟨rfl, rfl⟩
  | cons result rest ih =>
    rw [stopByParentId, parentIdPending]
    cases acceptedParentIdToken result with
    | none => exact ih
    | some parent =>
      dsimp only
      by_cases hmaster : s.equalsMasterPassGroupId (some parent) = true
      · obtain ⟨callbacks, hstopped⟩ := s.stopAll_eq call.token (s.activeEvses call.referencedEvses)
        rw [if_pos hmaster, if_pos hmaster, hstopped]
        exact .inr ⟨callbacks, { call with token := { call.token with
          parentIdToken := some parent
          connectors := some (s.activeEvses call.referencedEvses) } }, .withToken call rfl,
          .inr ⟨rfl, rfl, _, .masterPass (masterPassGroupId_of_equals hmaster), rfl⟩⟩
      · rw [if_neg hmaster, if_neg hmaster]
        cases hused : s.usedForTransaction call.referencedEvses parent.value with
        | none => exact ih
        | some evseId =>
          dsimp only
          cases hactive : (s.evses evseId).transactionActive with
          | false =>
            exact .inr ⟨s.callbacks,
              { call with token := { call.token with connectors := some [evseId] } },
              .withToken call rfl, .inl ⟨rfl, rfl⟩⟩
          | true =>
            exact .inr ⟨_,
              { call with token := { call.token with
                  parentIdToken := some parent, connectors := some [evseId] } },
              .withToken call rfl, .inr ⟨rfl, rfl, _, .parentId hused hactive, rfl⟩⟩

/-! ## Whole sections -/

/-- How the section after the validation ends. -/
inductive Validated (s : AuthHandler) (call : Call) (results : List ValidationResult) :
    Call × AuthHandler → Prop
  | pending {call' : Call} (callbacks : List AuthCallback) (hcall : call.Continues call')
      (hattempt : s.attemptStopWithParentIdToken call.referencedEvses = true)
      (hpending : s.parentIdPending call.referencedEvses results = true) :
      Validated s call results ({ s with callbacks }.finish call' .alreadyInProcess)
  | stopped {call' : Call} (callbacks : List AuthCallback) (hcall : call.Continues call')
      (hattempt : s.attemptStopWithParentIdToken call.referencedEvses = true)
      {evseIds : List Nat} (hstopped : s.StoppedEvses call.referencedEvses evseIds)
      (hconnectors : call'.token.connectors = some evseIds) :
      Validated s call results ({ s with callbacks }.finish call' .usedToStopTransaction)
  | returned {result : TokenHandlingResult}
      (hresult : result = .noConnectorAvailable ∨ result = .rejected) :
      Validated s call results (s.finish call result)
  | authorizing {out : Call × AuthHandler}
      (havailable : s.anyEvseAvailable call.referencedEvses = true)
      (hout : Authorizing s (s.withoutIdentifier call) out) : Validated s call results out

theorem validated_startTransaction :
    Validated s call results (s.startTransaction call results) := by
  unfold startTransaction
  split
  · exact .returned (.inl rfl)
  split
  · exact .returned (.inr rfl)
  · rename_i havailable _
    exact .authorizing (by simpa using havailable) (s.authorizing_authorize _ _ _)

/-- These are all ways. -/
theorem validated_afterValidation : Validated s call results (s.afterValidation call results) := by
  unfold afterValidation
  by_cases hattempt : s.attemptStopWithParentIdToken call.referencedEvses = true
  · rw [if_pos hattempt]
    rcases s.stopByParentId_cases call results with ⟨hstop, -⟩ | ⟨callbacks, call', hcall,
      ⟨hpending, hstop⟩ | ⟨-, hstop, evseIds, hstopped, hconnectors⟩⟩ <;> rw [hstop]
    · exact s.validated_startTransaction call results
    · exact .pending callbacks hcall hattempt hpending
    · exact .stopped callbacks hcall hattempt hstopped hconnectors
  · rw [if_neg hattempt]
    exact s.validated_startTransaction call results

/-- The state after a token has been accepted for processing. -/
def processing : AuthHandler :=
  (s.insertToken token).publish token .processing

/-- The call gets as far as the validation, which has been done before. -/
def skipsValidation : Bool :=
  !s.isTokenAlreadyInProcess call.token call.referencedEvses &&
    ((s.processing call.token).stopOwnTransaction call).isNone &&
    !s.noneAvailable call.referencedEvses &&
    !s.allEvsesReservedAndTagDoesNotMatch call.token call.referencedEvses &&
    call.token.prevalidated = some true

def prevalidatedResult : ValidationResult :=
  { authorizationStatus := .accepted, parentIdToken := token.parentIdToken }

/-- How the first section ends. -/
inductive Begun (s : AuthHandler) (call : Call) : Call × AuthHandler → Prop
  | alreadyInProcess (hprocess : s.isTokenAlreadyInProcess call.token call.referencedEvses = true) :
      Begun s call (s.finish call .alreadyInProcess)
  | returned {call' : Call} (callbacks : List AuthCallback) (hcall : call.Continues call')
      {result : TokenHandlingResult}
      (hprocess : s.isTokenAlreadyInProcess call.token call.referencedEvses = false)
      (hresult : result = .usedToStopTransaction ∨ result = .noConnectorAvailable) :
      Begun s call ({ s.processing call.token with callbacks }.finish call' result)
  | validating
      (hprocess : s.isTokenAlreadyInProcess call.token call.referencedEvses = false) :
      Begun s call ({ call with progress := .validating }, s.processing call.token)
  | prevalidated {out : Call × AuthHandler} (hskips : s.skipsValidation call = true)
      (hout : Validated (s.processing call.token) call [prevalidatedResult call.token] out) :
      Begun s call out

theorem stopOwnTransaction_cases {s : AuthHandler} {call : Call}
    (hstop : s.stopOwnTransaction call = some out) :
    ∃ callbacks call', call.Continues call' ∧
      out = { s with callbacks }.finish call' .usedToStopTransaction := by
  unfold stopOwnTransaction at hstop
  split at hstop
  · obtain ⟨evseId, -, rfl⟩ := Option.map_eq_some_iff.mp hstop
    exact ⟨_, { call with token := { call.token with
      parentIdToken := ((s.evses evseId).identifier.bind Identifier.parentIdToken).or
        call.token.parentIdToken
      connectors := some [evseId] } }, .withToken call rfl, rfl⟩
  · cases hstop

theorem onToken_of_not_inProcess (withdrawal : Option WithdrawAuthorizationRequest)
    (hprocess : s.isTokenAlreadyInProcess token (s.getReferencedEvses token) = false) :
    s.onToken token withdrawal =
      (s.processing token).handleToken (s.newCall token withdrawal) := by
  unfold onToken
  exact if_neg (Bool.eq_false_iff.mp hprocess)

/-- These are all ways. -/
theorem begun_onToken (withdrawal : Option WithdrawAuthorizationRequest) :
    Begun s (s.newCall token withdrawal) (s.onToken token withdrawal) := by
  cases hprocess : s.isTokenAlreadyInProcess token (s.getReferencedEvses token) with
  | true =>
    have hfinish : s.onToken token withdrawal =
        s.finish (s.newCall token withdrawal) .alreadyInProcess := if_pos hprocess
    rw [hfinish]
    exact .alreadyInProcess hprocess
  | false =>
    rw [onToken_of_not_inProcess s token withdrawal hprocess]
    unfold handleToken
    cases hown : (s.processing token).stopOwnTransaction (s.newCall token withdrawal) with
    | some out =>
      obtain ⟨callbacks, call', hcall, rfl⟩ := stopOwnTransaction_cases hown
      exact .returned callbacks hcall hprocess (.inl rfl)
    | none =>
      dsimp only
      split
      · exact .returned (s.processing token).callbacks (.refl _) hprocess (.inr rfl)
      split
      · exact .returned (s.processing token).callbacks (.refl _) hprocess (.inr rfl)
      split
      · rename_i hnone hreserved hprevalidated
        refine .prevalidated ?_ ((s.processing token).validated_afterValidation _ _)
        simp only [skipsValidation, Bool.and_eq_true, Bool.not_eq_true', decide_eq_true_eq,
          Option.isNone_iff_eq_none]
        exact ⟨⟨⟨⟨hprocess, hown⟩, Bool.eq_false_iff.mpr hnone⟩,
          Bool.eq_false_iff.mpr hreserved⟩, hprevalidated⟩
      · exact .validating hprocess

theorem onToken_of_skipsValidation {s : AuthHandler} {token : ProvidedIdToken}
    {withdrawal : Option WithdrawAuthorizationRequest}
    (hskips : s.skipsValidation (s.newCall token withdrawal) = true) :
    s.onToken token withdrawal =
      (s.processing token).afterValidation (s.newCall token withdrawal)
        [prevalidatedResult token] := by
  simp only [skipsValidation, Bool.and_eq_true, Bool.not_eq_true', decide_eq_true_eq,
    Option.isNone_iff_eq_none] at hskips
  obtain ⟨⟨⟨⟨hprocess, hown⟩, hnone⟩, hreserved⟩, hprevalidated⟩ := hskips
  have hown' : (s.processing token).stopOwnTransaction (s.newCall token withdrawal) = none := hown
  rw [onToken_of_not_inProcess s token withdrawal hprocess]
  unfold handleToken
  simp only [hown']
  refine (if_neg (Bool.eq_false_iff.mp hnone)).trans ?_
  refine (if_neg (Bool.eq_false_iff.mp hreserved)).trans ?_
  exact if_pos hprevalidated

theorem afterValidation_of_parentIdPending {s : AuthHandler} {call : Call}
    {results : List ValidationResult}
    (hattempt : s.attemptStopWithParentIdToken call.referencedEvses = true)
    (hpending : s.parentIdPending call.referencedEvses results = true) :
    ∃ callbacks call', call.Continues call' ∧
      s.afterValidation call results = { s with callbacks }.finish call' .alreadyInProcess := by
  unfold afterValidation
  rw [if_pos hattempt]
  rcases s.stopByParentId_cases call results with
    ⟨-, hnot⟩ | ⟨callbacks, call', hcall, ⟨-, hstop⟩ | ⟨hnot, -⟩⟩
  · cases hnot.symm.trans hpending
  · exact ⟨callbacks, call', hcall, by rw [hstop]⟩
  · cases hnot.symm.trans hpending

end AuthHandler

end EverestCore.Auth
