import EverestCore.Auth.TokenDecisions

/-!
# How long a token is in process, and what is withdrawn

A token is in process from the moment its call begins until the call returns. A withdraw
request is for the tokens that are presented before it has been handled.
-/

namespace EverestCore.Auth

open EverestCore.Lib List

/-- The token and its history are the same, and no EVSE is new. -/
structure Call.Narrows (call call' : Call) : Prop where
  providedToken : call'.providedToken = call.providedToken
  idToken : call'.token.idToken = call.token.idToken
  heldAtEntry : call'.heldAtEntry = call.heldAtEntry
  targeted : call'.targeted = call.targeted
  subset : call'.referencedEvses ⊆ call.referencedEvses
  length_le : call'.referencedEvses.length ≤ call.referencedEvses.length

theorem Call.Continues.narrows {call call' : Call} (h : call.Continues call') :
    call.Narrows call' :=
  { h with
    subset := h.referencedEvses.subset
    length_le := h.referencedEvses.length_eq.le }

/-- Sections run one after the other only narrow the call further. -/
theorem Call.Narrows.trans {call call' call'' : Call} (h : call.Narrows call')
    (h' : call'.Narrows call'') : call.Narrows call'' :=
  ⟨h'.providedToken.trans h.providedToken, h'.idToken.trans h.idToken,
    h'.heldAtEntry.trans h.heldAtEntry, h'.targeted.trans h.targeted,
    fun _ hmem => h.subset (h'.subset hmem), h'.length_le.trans h.length_le⟩

theorem Call.Narrows.withProgress {call call' : Call} (h : call.Narrows call')
    (progress : Progress) (heldAtEnd : Bool) :
    call.Narrows { call' with progress, heldAtEnd } :=
  { h with }

namespace AuthHandler

/-- EVSEs with an identifier are dropped. -/
theorem narrows_withoutIdentifier (s : AuthHandler) (call : Call) :
    call.Narrows (s.withoutIdentifier call) :=
  ⟨rfl, rfl, rfl, rfl, filter_subset_self _, length_filter_le _ _⟩

/-! ## Sections -/

/-- The stored request interrupts the selection of an EVSE for this call. -/
def isWithdrawable (s : AuthHandler) (call : Call) : Bool :=
  s.selectionAlgorithm = .plugEvents && 2 ≤ call.referencedEvses.length &&
    s.isAuthorizationWithdrawn call.referencedEvses call.token.idToken

/-- A wait is interrupted only for a call that can be withdrawn. -/
theorem isWithdrawable_of_interrupted {s : AuthHandler} {call : Call}
    (hselect : s.selectEvse call.referencedEvses call.token.idToken = .interrupted)
    (hne : call.referencedEvses ≠ []) : s.isWithdrawable call = true := by
  obtain ⟨halgorithm, hlength, hwithdrawn⟩ := of_interrupted hselect
  have hpos := length_pos_iff.mpr hne
  have htwo : 2 ≤ call.referencedEvses.length := by omega
  simp [isWithdrawable, halgorithm, htwo, hwithdrawn]

/-- The tokens in process and the stored request are unchanged. -/
structure KeepsRequests (s s' : AuthHandler) : Prop where
  tokensInProcess : s'.tokensInProcess = s.tokensInProcess
  selectionAlgorithm : s'.selectionAlgorithm = s.selectionAlgorithm
  withdrawRequest : s'.withdrawRequest = s.withdrawRequest

/-- A section ends its call, or leaves the tokens alone. A call returns as if its token had been in
process only if `stays`, and as withdrawn only because of the stored request. -/
inductive Outcome (s : AuthHandler) (call : Call) (stays : Prop) : Call × AuthHandler → Prop
  | returned (s' : AuthHandler) (call' : Call) (result : TokenHandlingResult)
      (hcall : call.Narrows call') (hstays : result = .alreadyInProcess → stays)
      (hwithdrawn : result = .withdrawn → s.isWithdrawable call' = true)
      (hkeeps : s.KeepsRequests s') : Outcome s call stays (s'.finish call' result)
  -- also if an exception leaves the call
  | goesOn {out : Call × AuthHandler} (hcall : call.Narrows out.1)
      (hprogress : ∀ result, out.1.progress ≠ .returned result)
      (hkeeps : s.KeepsRequests out.2) : Outcome s call stays out

section

variable {s : AuthHandler} {call : Call} {stays : Prop} {out : Call × AuthHandler}

/-- What a narrower call does, the call does. -/
theorem Outcome.of_narrows {call' : Call} (hcall : call.Narrows call')
    (h : Outcome s call' stays out) : Outcome s call stays out := by
  cases h with
  | returned s' call'' result hcall' hstays hwithdrawn hkeeps =>
    exact .returned s' call'' result (hcall.trans hcall') hstays hwithdrawn hkeeps
  | goesOn hcall' hprogress hkeeps => exact .goesOn (hcall.trans hcall') hprogress hkeeps

theorem Outcome.narrows (h : Outcome s call stays out) : call.Narrows out.1 := by
  cases h with
  | returned _ _ _ hcall => exact hcall.withProgress _ _
  | goesOn hcall => exact hcall

theorem outcome_notifyAuthorized (s' : AuthHandler) {call' : Call} (hcall : call.Narrows call')
    (evseId : Nat) (result : ValidationResult) (hkeeps : s.KeepsRequests s') :
    Outcome s call stays (s'.notifyAuthorized call' evseId result) := by
  unfold notifyAuthorized
  split
  · exact .goesOn (hcall.withProgress _ _) (by simp) { hkeeps with }
  · exact .returned _ _ _ hcall (by simp) (by simp) { hkeeps with }

/-- Every end of the authorization is an outcome. -/
theorem outcome_of_authorizing (hout : Authorizing s call out) : Outcome s call stays out := by
  cases hout with
  | returned _ hcall hresult =>
    rcases hresult with rfl | rfl <;>
      exact .returned _ _ _ hcall.narrows (by simp) (by simp) ⟨rfl, rfl, rfl⟩
  | withdrawn _ hcall hselect hne =>
    exact .returned _ _ _ hcall.narrows (by simp)
      (fun _ => isWithdrawable_of_interrupted hselect hne) ⟨rfl, rfl, rfl⟩
  | threw _ hcall =>
    exact .goesOn (hcall.narrows.withProgress _ _) (by simp [throw]) ⟨rfl, rfl, rfl⟩
  | waits _ hcall => exact .goesOn (hcall.narrows.withProgress _ _) (by simp) ⟨rfl, rfl, rfl⟩
  | granted _ _ _ hcall => exact outcome_notifyAuthorized _ hcall.narrows _ _ ⟨rfl, rfl, rfl⟩

/-- So is every end of the validation; the token stays only with a parent id pending. -/
theorem outcome_of_validated {results : List ValidationResult}
    (hout : Validated s call results out) :
    Outcome s call (s.attemptStopWithParentIdToken call.referencedEvses = true ∧
      s.parentIdPending call.referencedEvses results = true) out := by
  have hrefl := (Call.Continues.refl call).narrows
  cases hout with
  | pending _ hcall hattempt hpending =>
    exact .returned _ _ _ hcall.narrows (fun _ => ⟨hattempt, hpending⟩) (by simp) ⟨rfl, rfl, rfl⟩
  | stopped _ hcall => exact .returned _ _ _ hcall.narrows (by simp) (by simp) ⟨rfl, rfl, rfl⟩
  | returned hresult =>
    rcases hresult with rfl | rfl <;>
      exact .returned _ _ _ hrefl (by simp) (by simp) ⟨rfl, rfl, rfl⟩
  | authorizing _ hout =>
    exact (outcome_of_authorizing hout).of_narrows (s.narrows_withoutIdentifier call)

theorem not_inProcess_of_skipsValidation (hskips : s.skipsValidation call = true) :
    s.isTokenAlreadyInProcess call.token call.referencedEvses = false := by
  simp only [skipsValidation, Bool.and_eq_true, Bool.not_eq_true'] at hskips
  exact hskips.1.1.1.1

/-- A call is turned away at once, or its token is put in process and it goes on. -/
theorem outcome_of_begun (hout : Begun s call out) :
    out = s.finish call .alreadyInProcess ∨
      (s.isTokenAlreadyInProcess call.token call.referencedEvses = false ∧
        Outcome (s.processing call.token) call (s.skipsValidation call = true ∧
          s.attemptStopWithParentIdToken call.referencedEvses = true ∧
          s.parentIdPending call.referencedEvses [prevalidatedResult call.token] = true) out) := by
  cases hout with
  | alreadyInProcess => exact .inl rfl
  | returned _ hcall hprocess hresult =>
    refine .inr ⟨hprocess, ?_⟩
    rcases hresult with rfl | rfl <;>
      exact .returned _ _ _ hcall.narrows (by simp) (by simp) ⟨rfl, rfl, rfl⟩
  | validating hprocess =>
    exact .inr ⟨hprocess, .goesOn ((Call.Continues.refl call).narrows.withProgress _ _)
      (by simp) ⟨rfl, rfl, rfl⟩⟩
  | prevalidated hskips hout =>
    refine .inr ⟨not_inProcess_of_skipsValidation hskips, ?_⟩
    cases outcome_of_validated hout with
    | returned s' call' result hcall hstays hwithdrawn hkeeps =>
      exact .returned s' call' result hcall (fun heq => ⟨hskips, hstays heq⟩) hwithdrawn hkeeps
    | goesOn hcall hprogress hkeeps => exact .goesOn hcall hprogress hkeeps

end

/-! ## Tokens in process -/

/-- What a section does with the token of its call. -/
inductive Handled (s : AuthHandler) (call : Call) (out : Call × AuthHandler) : Prop
  | goesOn (hcall : call.Narrows out.1) (htokens : out.2.tokensInProcess = s.tokensInProcess)
      (hprogress : ∀ result, out.1.progress ≠ .returned result)
  | released (hcall : call.Narrows out.1)
      (htokens : out.2.tokensInProcess = s.tokensInProcess.filter fun other =>
        other.idToken.value ≠ call.providedToken.idToken.value)
      (hended : out.1.progress.hasEnded = true) (hheld : out.1.heldAtEnd = false)

section

variable {s : AuthHandler} {call : Call} {out : Call × AuthHandler}

theorem holds_iff (s : AuthHandler) (token : ProvidedIdToken) :
    s.holds token = true ↔
      ∃ other ∈ s.tokensInProcess, other.idToken.value = token.idToken.value := by
  simp [holds]

theorem holds_processing (s : AuthHandler) (token other : ProvidedIdToken) :
    (s.processing token).holds other =
      (s.holds other || token.idToken.value = other.idToken.value) := by
  show (s.tokensInProcess ++ [token]).any _ = _
  simp [holds]

/-- A section removes no token but that of a call that ends. -/
theorem Outcome.holds {stays : Prop} {token : ProvidedIdToken} (h : Outcome s call stays out)
    (hheld : s.holds token = true) (hother : out.1.progress.hasEnded = true →
      token.idToken.value ≠ call.providedToken.idToken.value) : out.2.holds token = true := by
  obtain ⟨other, hmem, hvalue⟩ := (s.holds_iff token).mp hheld
  refine (holds_iff _ _).mpr ⟨other, ?_, hvalue⟩
  cases h with
  | goesOn _ _ hkeeps => rwa [hkeeps.tokensInProcess]
  | returned s' call' result hcall _ _ hkeeps =>
    obtain ⟨callbacks, hfinish⟩ := s'.finish_snd call' result
    rw [hfinish]
    show other ∈ s'.remainingTokens call' result
    unfold remainingTokens
    rw [hkeeps.tokensInProcess, hcall.providedToken]
    split
    · exact hmem
    · exact mem_filter.mpr ⟨hmem, decide_eq_true (hvalue ▸ hother rfl)⟩

/-- A token in process after the section was so before. -/
theorem Handled.mem_before {token : ProvidedIdToken} (h : Handled s call out)
    (hmem : token ∈ out.2.tokensInProcess) : token ∈ s.tokensInProcess := by
  cases h with
  | goesOn _ htokens => exact htokens ▸ hmem
  | released _ htokens => exact mem_of_mem_filter (htokens ▸ hmem)

/-- A section behind which no token stays releases the token of a call that it ends. -/
theorem handled_of_outcome {stays : Prop} (hstays : ¬ stays) (hout : Outcome s call stays out) :
    Handled s call out := by
  cases hout with
  | goesOn hcall hprogress hkeeps => exact .goesOn hcall hkeeps.tokensInProcess hprogress
  | returned s' call' result hcall hresult _ hkeeps =>
    obtain ⟨callbacks, hfinish⟩ := s'.finish_snd call' result
    have hremaining : (s'.finish call' result).2.tokensInProcess =
        s.tokensInProcess.filter fun other =>
          other.idToken.value ≠ call.providedToken.idToken.value := by
      rw [hfinish, remainingTokens, if_neg fun heq => hstays (hresult heq),
        hkeeps.tokensInProcess, hcall.providedToken]
    refine .released (hcall.withProgress _ _) hremaining rfl ?_
    show (s'.finish call' result).2.holds call'.providedToken = false
    rw [holds, hremaining, hcall.providedToken]
    simp

end

end AuthHandler

namespace AuthThreads

open AuthHandler

/-- The parent id of the token does not belong to a transaction that is still to be started. -/
def NoParentIdPending (s : AuthThreads) : AuthThreadLabel → Prop
  | .onToken token =>
    s.handler.skipsValidation (s.handler.newCall token s.withdrawal) = true →
      s.handler.attemptStopWithParentIdToken (s.handler.getReferencedEvses token) = true →
        s.handler.parentIdPending (s.handler.getReferencedEvses token)
          [prevalidatedResult token] = false
  | .validated index results =>
    ∀ call, s.calls[index]? = some call → call.progress = .validating →
      s.handler.attemptStopWithParentIdToken call.referencedEvses = true →
        s.handler.parentIdPending call.referencedEvses results = false
  | _ => True

/-- A call that has returned has left its token in process only if it was before. -/
def ReleasesTokens (s : AuthThreads) : Prop :=
  ∀ call ∈ s.calls, ∀ result, call.progress = .returned result →
    call.heldAtEnd = true → call.heldAtEntry = true

/-- A token in process was so at the start, or belongs to a call that has not returned. -/
def HeldByCalls (h : AuthHandler) (s : AuthThreads) : Prop :=
  ∀ token ∈ s.handler.tokensInProcess, token ∈ h.tokensInProcess ∨
    ∃ (index : Nat) (call : Call), s.calls[index]? = some call ∧ call.providedToken = token ∧
      ∀ result, call.progress ≠ .returned result

/-- Calls that have not ended have different tokens, which are in process because of them. -/
structure Tracked (s : AuthThreads) : Prop where
  held : ∀ (index : Nat) (call : Call), s.calls[index]? = some call →
    call.progress.hasEnded = false →
    s.handler.holds call.providedToken = true ∧ call.heldAtEntry = false
  distinct : ∀ (index index' : Nat) (call call' : Call), s.calls[index]? = some call →
    s.calls[index']? = some call' → call.progress.hasEnded = false →
    call'.progress.hasEnded = false →
    call.providedToken.idToken.value = call'.providedToken.idToken.value → index = index'

section

variable {s : AuthThreads} {call : Call} {out : Call × AuthHandler} {index : Nat}
  {label : AuthThreadLabel}

theorem Resumed.not_ended (hout : Resumed s.handler call index label out) :
    call.progress.hasEnded = false := by
  cases hout with
  | validated hprogress | selected hprogress | selectionTimeout hprogress
  | notified hprogress => rw [hprogress]; rfl

/-- A parent id is pending among the results of the step. -/
def StaysBehind (s : AuthThreads) (call : Call) : AuthThreadLabel → Prop
  | .validated _ results =>
    s.handler.attemptStopWithParentIdToken call.referencedEvses = true ∧
      s.handler.parentIdPending call.referencedEvses results = true
  | _ => False

theorem outcome_of_resumed (hout : Resumed s.handler call index label out) :
    Outcome s.handler call (s.StaysBehind call label) out := by
  have hrefl := (Call.Continues.refl call).narrows
  cases hout with
  | validated _ hout => exact outcome_of_validated hout
  | selected _ hout => exact outcome_of_authorizing hout
  | selectionTimeout | notified => exact .returned _ _ _ hrefl (by simp) (by simp) ⟨rfl, rfl, rfl⟩

/-- A section that runs later handles its token. -/
theorem handled_of_resumed (hcall : s.calls[index]? = some call)
    (hcond : s.NoParentIdPending label) (hout : Resumed s.handler call index label out) :
    Handled s.handler call out := by
  refine handled_of_outcome (fun hstays => ?_) (outcome_of_resumed hout)
  cases hout with
  | validated hprogress => cases hstays.2.symm.trans (hcond call hcall hprogress hstays.1)
  | selected => exact hstays
  | selectionTimeout => exact hstays
  | notified => exact hstays

variable {token : ProvidedIdToken}

theorem holds_eq_false_of_not_inProcess {handler : AuthHandler} {referencedEvses : List Nat}
    (hprocess : handler.isTokenAlreadyInProcess token referencedEvses = false) :
    handler.holds token = false :=
  (Bool.or_eq_false_iff.mp hprocess).1

/-- The first section turns a token in process away, and handles any other. -/
theorem handled_of_begun (hcond : s.NoParentIdPending (.onToken token))
    (hout : Begun s.handler (s.handler.newCall token s.withdrawal) out) :
    out = s.handler.finish (s.handler.newCall token s.withdrawal) .alreadyInProcess ∨
      (s.handler.holds token = false ∧
        Handled (s.handler.processing token) (s.handler.newCall token s.withdrawal) out) := by
  refine (outcome_of_begun hout).imp_right ?_
  rintro ⟨hprocess, houtcome⟩
  refine ⟨holds_eq_false_of_not_inProcess hprocess, handled_of_outcome ?_ houtcome⟩
  rintro ⟨hskips, hattempt, hpending⟩
  cases hpending.symm.trans (hcond hskips hattempt)

/-! ### One step -/

variable {s' : AuthThreads}

/-- No step leaves a token behind that its call has put in process. -/
theorem ReleasesTokens.step (hs : s.ReleasesTokens) (hcond : s.NoParentIdPending label)
    (hstep : Stepped s label s') : s'.ReleasesTokens := by
  have hhandled : ∀ {handler : AuthHandler} {call : Call} {out : Call × AuthHandler},
      Handled handler call out → ∀ result,
      out.1.progress = .returned result → out.1.heldAtEnd = true → out.1.heldAtEntry = true := by
    intro handler call out hout result hreturned hheld
    cases hout with
    | goesOn _ _ hprogress => exact (hprogress result hreturned).elim
    | released _ _ _ hfalse => cases hfalse.symm.trans hheld
  refine hstep.forall_calls hs ?_ ?_ fun _ _ hold => hold
  · rintro token out rfl hout
    rcases handled_of_begun hcond hout with rfl | ⟨-, hout⟩
    · -- the tokens are as they were when the call began
      exact fun _ _ hheld => hheld
    · exact hhandled hout
  · intro index call out hcall hout
    exact hhandled (handled_of_resumed hcall hcond hout)

theorem getElem?_withCall (hcall : s.calls[index]? = some call) (index' : Nat) :
    (s.withCall index out).calls[index']? =
      if index' = index then some out.1 else s.calls[index']? := by
  obtain ⟨hlt, -⟩ := List.getElem?_eq_some_iff.mp hcall
  rw [withCall, List.getElem?_set]
  by_cases heq : index' = index
  · rw [if_pos heq, if_pos heq.symm, if_pos hlt]
  · rw [if_neg heq, if_neg (Ne.symm heq)]

theorem getElem?_append_cases {calls : List Call} {new old : Call}
    (hget : (calls ++ [new])[index]? = some old) :
    calls[index]? = some old ∨ (index = calls.length ∧ old = new) := by
  rw [getElem?_append] at hget
  split at hget
  · exact .inl hget
  · simp only [getElem?_singleton, ite_eq_iff, Option.some.injEq, reduceCtorEq, and_false,
      or_false] at hget
    exact .inr ⟨by omega, hget.2.symm⟩

/-! ### Tokens that are held -/

variable {h : AuthHandler}

/-- A section of one call keeps what the calls hold. -/
theorem HeldByCalls.withCall (hs : s.HeldByCalls h) (hcall : s.calls[index]? = some call)
    (hout : Handled s.handler call out) :
    (s.withCall index out).HeldByCalls h := by
  intro token hmem
  rcases hs token (hout.mem_before hmem) with hstart | ⟨index', call', hcall', htoken, hopen⟩
  · exact .inl hstart
  by_cases heq : index' = index
  · subst heq
    cases hcall.symm.trans hcall'
    cases hout with
    | goesOn hnarrows _ hprogress =>
      exact .inr ⟨index', out.1, by rw [getElem?_withCall hcall, if_pos rfl],
        hnarrows.providedToken.trans htoken, hprogress⟩
    | released _ htokens =>
      -- the token of this call has been removed
      have hvalue := of_mem_filter (htokens ▸ hmem)
      simp [htoken] at hvalue
  · exact .inr ⟨index', call', by rw [getElem?_withCall hcall, if_neg heq, hcall'], htoken, hopen⟩

theorem HeldByCalls.began (hs : s.HeldByCalls h) (hcond : s.NoParentIdPending (.onToken token))
    (hout : Begun s.handler (s.handler.newCall token s.withdrawal) out) :
    HeldByCalls h { s with handler := out.2, calls := s.calls ++ [out.1] } := by
  -- tokens of the calls before
  have hbefore : ∀ other ∈ s.handler.tokensInProcess, other ∈ h.tokensInProcess ∨
      ∃ (index : Nat) (call : Call), (s.calls ++ [out.1])[index]? = some call ∧
        call.providedToken = other ∧ ∀ result, call.progress ≠ .returned result := by
    intro other hmem
    rcases hs other hmem with hstart | ⟨index, call, hcall, htoken, hopen⟩
    · exact .inl hstart
    · refine .inr ⟨index, call, ?_, htoken, hopen⟩
      rw [List.getElem?_append_left (List.getElem?_eq_some_iff.mp hcall).1, hcall]
  intro other hmem
  rcases handled_of_begun hcond hout with rfl | ⟨-, hhandled⟩
  · exact hbefore other hmem
  rcases mem_append.mp (hhandled.mem_before hmem) with hold | hnew
  · exact hbefore other hold
  obtain rfl := mem_singleton.mp hnew
  cases hhandled with
  | goesOn hnarrows _ hprogress =>
    exact .inr ⟨s.calls.length, out.1, getElem?_concat_length, hnarrows.providedToken, hprogress⟩
  | released _ htokens =>
    have hvalue := of_mem_filter (htokens ▸ hmem)
    simp [newCall] at hvalue

/-- Every step keeps the tokens in process with their calls. -/
theorem HeldByCalls.step (hs : s.HeldByCalls h) (hcond : s.NoParentIdPending label)
    (hstep : Stepped s label s') :
    s'.HeldByCalls h := by
  cases hstep with
  | began hout => exact hs.began hcond hout
  | resumed hcall hout => exact hs.withCall hcall (handled_of_resumed hcall hcond hout)
  | withdrawing request =>
    intro token hmem
    rcases hs token hmem with hstart | ⟨index, call, hcall, htoken, hopen⟩
    · exact .inl hstart
    · refine .inr ⟨index, markTargeted request call, ?_, htoken, hopen⟩
      rw [getElem?_map, hcall]
      rfl
  | kept _ _ _ hkeeps =>
    intro token hmem
    exact hs token (hkeeps.tokensInProcess ▸ hmem)

/-! ### Calls that have not ended -/

/-- Calls in progress stay tracked if they were, and their tokens stay. -/
theorem Tracked.of_before (hs : s.Tracked)
    (hbefore : ∀ (index : Nat) (call : Call), s'.calls[index]? = some call →
      call.progress.hasEnded = false → ∃ before, s.calls[index]? = some before ∧
        before.progress.hasEnded = false ∧ before.providedToken = call.providedToken ∧
        before.heldAtEntry = call.heldAtEntry)
    (hholds : ∀ (index : Nat) (call : Call), s'.calls[index]? = some call →
      call.progress.hasEnded = false → s.handler.holds call.providedToken = true →
        s'.handler.holds call.providedToken = true) : s'.Tracked := by
  refine ⟨?_, ?_⟩
  · intro index call hget hopen
    obtain ⟨before, hcall, hbeforeOpen, htoken, hentry⟩ := hbefore index call hget hopen
    obtain ⟨hheld, hnew⟩ := hs.held index before hcall hbeforeOpen
    rw [htoken] at hheld
    exact ⟨hholds index call hget hopen hheld, hentry ▸ hnew⟩
  · intro index₁ index₂ call₁ call₂ hget₁ hget₂ hopen₁ hopen₂ hvalue
    obtain ⟨before₁, hcall₁, hbeforeOpen₁, htoken₁, -⟩ := hbefore index₁ call₁ hget₁ hopen₁
    obtain ⟨before₂, hcall₂, hbeforeOpen₂, htoken₂, -⟩ := hbefore index₂ call₂ hget₂ hopen₂
    rw [← htoken₁, ← htoken₂] at hvalue
    exact hs.distinct _ _ _ _ hcall₁ hcall₂ hbeforeOpen₁ hbeforeOpen₂ hvalue

theorem Tracked.withCall (hs : s.Tracked) (hcall : s.calls[index]? = some call)
    (hopen : call.progress.hasEnded = false) {stays : Prop}
    (hout : Outcome s.handler call stays out) : (s.withCall index out).Tracked := by
  have hnarrows := hout.narrows
  refine hs.of_before ?_ ?_
  · intro index' call' hget hopen'
    rw [getElem?_withCall hcall] at hget
    split at hget
    · rename_i heq
      cases hget
      exact ⟨call, heq ▸ hcall, hopen, hnarrows.providedToken.symm, hnarrows.heldAtEntry.symm⟩
    · exact ⟨call', hget, hopen', rfl, rfl⟩
  · intro index' call' hget hopen' hheld
    refine hout.holds hheld fun hended heq => ?_
    rw [getElem?_withCall hcall] at hget
    split at hget
    · -- the call that has ended
      cases hget
      cases hended.symm.trans hopen'
    · -- a call with the same token would be the one that has ended
      rename_i hne
      exact hne (hs.distinct index' index call' call hget hcall hopen' hopen heq)

theorem Tracked.began (hs : s.Tracked)
    (hout : Begun s.handler (s.handler.newCall token s.withdrawal) out) :
    Tracked { s with handler := out.2, calls := s.calls ++ [out.1] } := by
  rcases outcome_of_begun hout with rfl | ⟨hprocess, houtcome⟩
  · -- the call has ended and nothing else has changed
    refine hs.of_before ?_ fun _ _ _ _ hheld => hheld
    intro index call hget hopen
    rcases getElem?_append_cases hget with hold | ⟨-, rfl⟩
    · exact ⟨call, hold, hopen, rfl, rfl⟩
    · cases hopen
  -- the value of the token is new
  have hnew := holds_eq_false_of_not_inProcess hprocess
  have hdifferent : ∀ (index : Nat) (call : Call), s.calls[index]? = some call →
      call.progress.hasEnded = false → call.providedToken.idToken.value ≠ token.idToken.value := by
    intro index call hcall hopen heq
    obtain ⟨other, hother, hvalue⟩ := (s.handler.holds_iff _).mp (hs.held index call hcall hopen).1
    have hholds := (s.handler.holds_iff token).mpr ⟨other, hother, hvalue.trans heq⟩
    cases hnew.symm.trans hholds
  have htoken : out.1.providedToken = token := houtcome.narrows.providedToken
  refine ⟨?_, ?_⟩
  · intro index call hget hopen
    rcases getElem?_append_cases hget with hcall | ⟨-, rfl⟩
    · obtain ⟨hheld, hnot⟩ := hs.held index call hcall hopen
      refine ⟨houtcome.holds ?_ fun _ => hdifferent index call hcall hopen, hnot⟩
      simp [holds_processing, hheld]
    · refine ⟨houtcome.holds ?_ fun hended => ?_, houtcome.narrows.heldAtEntry.trans hnew⟩
      · simp [holds_processing, htoken, newCall]
      · cases hended.symm.trans hopen
  · intro index₁ index₂ call₁ call₂ hget₁ hget₂ hopen₁ hopen₂ hvalue
    rcases getElem?_append_cases hget₁ with hcall₁ | ⟨hlast₁, rfl⟩
    · rcases getElem?_append_cases hget₂ with hcall₂ | ⟨-, rfl⟩
      · exact hs.distinct _ _ _ _ hcall₁ hcall₂ hopen₁ hopen₂ hvalue
      · rw [htoken] at hvalue
        exact (hdifferent _ _ hcall₁ hopen₁ hvalue).elim
    · rcases getElem?_append_cases hget₂ with hcall₂ | ⟨hlast₂, rfl⟩
      · rw [htoken] at hvalue
        exact (hdifferent _ _ hcall₂ hopen₂ hvalue.symm).elim
      · rw [hlast₁, hlast₂]

/-- Calls in progress stay tracked by every step. -/
theorem Tracked.step (hs : s.Tracked) (hstep : Stepped s label s') : s'.Tracked := by
  cases hstep with
  | began hout => exact hs.began hout
  | resumed hcall hout => exact hs.withCall hcall hout.not_ended (outcome_of_resumed hout)
  | withdrawing request =>
    refine hs.of_before ?_ fun _ _ _ _ hheld => hheld
    intro index call hget hopen
    rw [getElem?_map] at hget
    obtain ⟨before, hbefore, rfl⟩ := Option.map_eq_some_iff.mp hget
    exact ⟨before, hbefore, hopen, rfl, rfl⟩
  | kept _ _ _ hkeeps =>
    refine hs.of_before (fun index call hget hopen => ⟨call, hget, hopen, rfl, rfl⟩) ?_
    intro index call hget hopen hheld
    unfold holds
    rw [hkeeps.tokensInProcess]
    exact hheld

/-! ### Whole runs -/

theorem not_releasesTokens (handler : AuthHandler) {call' : Call} (hcall : call.Continues call')
    (hheld : handler.holds call.providedToken = true) (hnew : call.heldAtEntry = false)
    (hmem : (handler.finish call' .alreadyInProcess).1 ∈ s.calls) : ¬ s.ReleasesTokens := by
  intro hs
  have hend : (handler.finish call' .alreadyInProcess).1.heldAtEnd = true := by
    show handler.holds call'.providedToken = true
    rw [hcall.providedToken, hheld]
  have hentry := hs _ hmem .alreadyInProcess rfl hend
  have hentry : call'.heldAtEntry = true := hentry
  rw [hcall.heldAtEntry, hnew] at hentry
  cases hentry

/-- A step that leaves no token behind meets the condition. -/
theorem noParentIdPending_of_releasesTokens (hs : s.Tracked)
    (hreleases : (s.step label).ReleasesTokens) : s.NoParentIdPending label := by
  cases label with
  | onToken token =>
    intro hskips hattempt
    by_contra hpending
    have htrue : (s.handler.processing token).parentIdPending
        (s.handler.newCall token s.withdrawal).referencedEvses [prevalidatedResult token] =
          true :=
      Bool.eq_true_of_not_eq_false hpending
    obtain ⟨callbacks, call', hcall, hafter⟩ :=
      afterValidation_of_parentIdPending hattempt htrue
    have hnew : s.handler.holds token = false :=
      holds_eq_false_of_not_inProcess (not_inProcess_of_skipsValidation hskips)
    have hheld : (s.handler.processing token).holds token = true := by simp [holds_processing]
    refine not_releasesTokens { s.handler.processing token with callbacks } hcall hheld hnew ?_
      hreleases
    rw [← hafter, ← onToken_of_skipsValidation hskips]
    exact mem_concat_self
  | validated index results =>
    intro call hcall hprogress hattempt
    by_contra hpending
    obtain ⟨callbacks, call', hcontinues, hafter⟩ :=
      afterValidation_of_parentIdPending hattempt (Bool.eq_true_of_not_eq_false hpending)
    have hopen : call.progress.hasEnded = false := by
      rw [hprogress]
      rfl
    obtain ⟨hheld, hnew⟩ := hs.held index call hcall hopen
    refine not_releasesTokens { s.handler with callbacks } hcontinues hheld hnew ?_ hreleases
    have hstep : s.step (.validated index results) =
        s.withCall index (s.handler.afterValidation call results) := by
      simp only [step, resumeCall, hcall, resume, if_pos hprogress]
    rw [hstep, ← hafter]
    exact List.mem_set (List.getElem?_eq_some_iff.mp hcall).1 _
  | _ => trivial

end

/-- **No token stays in process after its call, exactly if the parent id of a token never belongs
to a transaction that is still to be started.** -/
theorem token_released_iff (h : AuthHandler) (labels : List AuthThreadLabel) :
    Always step (fun s => s.ReleasesTokens ∧ s.HeldByCalls h) { handler := h } labels ↔
      Along step NoParentIdPending { handler := h } labels := by
  refine always_iff_along (I := fun s => s.WaitsAtEvses ∧ s.Tracked) ?_ ?_ labels ?_ ?_
  · rintro s label ⟨hwaits, htracked⟩ - -
    exact ⟨hwaits.step label, htracked.step (stepped_step hwaits label)⟩
  · rintro s label ⟨hwaits, htracked⟩ ⟨hreleases, hheld⟩
    have hstep := stepped_step hwaits label
    refine ⟨fun hnext => noParentIdPending_of_releasesTokens htracked hnext.1, fun hcond => ?_⟩
    exact ⟨hreleases.step hcond hstep, hheld.step hcond hstep⟩
  · refine ⟨forall_mem_nil _, ?_, ?_⟩
    · intro index call hget
      simp at hget
    · intro index₁ index₂ call₁ call₂ hget₁
      simp at hget₁
  · exact ⟨forall_mem_nil _, fun token hmem => .inl hmem⟩

/-- **A token is handled by one call at a time**, and is in process until that call has ended. -/
theorem one_call_per_token (h : AuthHandler) (labels : List AuthThreadLabel) :
    Tracked (run step { handler := h } labels) := by
  refine (invariant_run (I := fun s : AuthThreads => s.WaitsAtEvses ∧ s.Tracked) ?_ labels ?_).2
  · rintro s label ⟨hwaits, htracked⟩
    exact ⟨hwaits.step label, htracked.step (stepped_step hwaits label)⟩
  · exact ⟨forall_mem_nil _, by simp, by simp⟩

/-- A token of a group is authorized, and another one of the group is presented before the
transaction starts. -/
def groupPresentedTwice : AuthThreads :=
  run step (.initial .plugEvents singleEvse)
    [.onToken (rfidCard "A"),
      .validated 0 [{ accepted with parentIdToken := some { value := "GROUP" } }],
      .onToken (rfidCard "B"),
      .validated 1 [{ accepted with parentIdToken := some { value := "GROUP" } }],
      .onToken (rfidCard "B")]

/-- The second token was not in process when its call began, but is so ever after. -/
theorem token_of_group_stays_in_process :
    groupPresentedTwice.calls.map Call.progress =
        [.returned .usedToStartTransaction, .returned .alreadyInProcess,
          .returned .alreadyInProcess] ∧
      groupPresentedTwice.calls.map (fun call => (call.heldAtEntry, call.heldAtEnd)) =
        [(false, false), (false, true), (true, true)] := by
  decide +kernel

end AuthThreads

/-! ## Withdrawn tokens -/

namespace AuthHandler

variable {s : AuthHandler}

theorem isWithdrawable_of_narrows {call call' : Call} (hcall : call.Narrows call')
    (hwithdrawable : s.isWithdrawable call' = true) :
    s.isWithdrawable call = true := by
  simp only [isWithdrawable, Bool.and_eq_true, decide_eq_true_eq] at hwithdrawable ⊢
  obtain ⟨⟨halgorithm, hlength⟩, hwithdrawn⟩ := hwithdrawable
  refine ⟨⟨halgorithm, hlength.trans hcall.length_le⟩, ?_⟩
  obtain ⟨request, hrequest, hmatch⟩ := (Option.any_eq_true _ _).mp hwithdrawn
  refine (Option.any_eq_true _ _).mpr ⟨request, hrequest, ?_⟩
  unfold doesWithdrawRequestMatch at hmatch ⊢
  rw [Bool.and_eq_true] at hmatch ⊢
  rw [← hcall.idToken]
  refine ⟨hmatch.1, ?_⟩
  have hevse := hmatch.2
  revert hevse
  cases request.evseId with
  | none => exact fun _ => rfl
  | some evseId =>
    intro hevse
    simp only [Option.all_some, decide_eq_true_eq] at hevse ⊢
    exact hcall.subset hevse

theorem isWithdrawable_congr {s s' : AuthHandler}
    (halgorithm : s'.selectionAlgorithm = s.selectionAlgorithm)
    (hrequest : s'.withdrawRequest = s.withdrawRequest) (call : Call) :
    s'.isWithdrawable call = s.isWithdrawable call := by
  unfold isWithdrawable isAuthorizationWithdrawn
  rw [halgorithm, hrequest]

/-- A section leaves the request as it is, and withdraws only what the request is for. -/
structure KeepsRequest (s : AuthHandler) (call : Call) (out : Call × AuthHandler) : Prop where
  narrows : call.Narrows out.1
  selectionAlgorithm : out.2.selectionAlgorithm = s.selectionAlgorithm
  withdrawRequest : out.2.withdrawRequest = s.withdrawRequest
  withdrawn : out.1.progress = .returned .withdrawn → s.isWithdrawable out.1 = true

/-- No outcome touches the request. -/
theorem keepsRequest_of_outcome {call : Call} {stays : Prop} {out : Call × AuthHandler}
    (hout : Outcome s call stays out) : KeepsRequest s call out := by
  cases hout with
  | goesOn hcall hprogress hkeeps =>
    exact ⟨hcall, hkeeps.selectionAlgorithm, hkeeps.withdrawRequest,
      fun hreturned => (hprogress _ hreturned).elim⟩
  | returned s' call' result hcall _ hwithdrawn hkeeps =>
    obtain ⟨callbacks, hfinish⟩ := s'.finish_snd call' result
    refine ⟨hcall.withProgress _ _, ?_, ?_, ?_⟩
    · rw [hfinish, ← hkeeps.selectionAlgorithm]
    · rw [hfinish, ← hkeeps.withdrawRequest]
    · intro hreturned
      cases hreturned
      exact hwithdrawn rfl

theorem keepsRequest_of_begun {call : Call} {out : Call × AuthHandler} (hout : Begun s call out) :
    KeepsRequest s call out := by
  rcases outcome_of_begun hout with rfl | ⟨-, houtcome⟩
  · have houtcome : Outcome s call True (s.finish call .alreadyInProcess) :=
      .returned _ _ _ (Call.Continues.refl call).narrows (fun _ => trivial) (by simp)
        ⟨rfl, rfl, rfl⟩
    exact keepsRequest_of_outcome houtcome
  · have h := keepsRequest_of_outcome houtcome
    exact { h with }

end AuthHandler

namespace AuthThreads

open AuthHandler

/-- No token is presented that is matched by a withdraw request which has been handled. -/
def noFormerRequest (s : AuthThreads) : AuthThreadLabel → Bool
  | .onToken token =>
    !s.handler.isWithdrawable (s.handler.newCall token s.withdrawal) ||
      s.withdrawal.any fun request =>
        doesWithdrawRequestMatch request (s.handler.getReferencedEvses token) token.idToken
  | _ => true

/-- A withdraw request was meant for every call that has been withdrawn. -/
def WithdrawnTargeted (s : AuthThreads) : Prop :=
  ∀ call ∈ s.calls, call.progress = .returned .withdrawn → call.targeted = true

/-- The same for the calls that have not ended, if the stored request matches. -/
def RequestTargets (s : AuthThreads) : Prop :=
  ∀ call ∈ s.calls, call.progress.hasEnded = false → s.handler.isWithdrawable call = true →
    call.targeted = true

section

variable {s s' : AuthThreads} {label : AuthThreadLabel}

/-- Only targeted calls can be withdrawn after a section, if only they could before. -/
theorem targeted_of_section {call : Call} {out : Call × AuthHandler}
    (htargeted : s.handler.isWithdrawable call = true → call.targeted = true)
    (hout : KeepsRequest s.handler call out) :
    (out.2.isWithdrawable out.1 = true → out.1.targeted = true) ∧
      (out.1.progress = .returned .withdrawn → out.1.targeted = true) := by
  have hwithdrawable : s.handler.isWithdrawable out.1 = true → out.1.targeted = true := by
    intro hnow
    rw [hout.narrows.targeted]
    exact htargeted (isWithdrawable_of_narrows hout.narrows hnow)
  refine ⟨fun hnow => hwithdrawable ?_, fun hreturned => hwithdrawable (hout.withdrawn hreturned)⟩
  rwa [isWithdrawable_congr hout.selectionAlgorithm hout.withdrawRequest] at hnow

/-- A new call can be withdrawn only by a request in progress, which targets it. -/
theorem targeted_of_begun {token : ProvidedIdToken} {out : Call × AuthHandler}
    (hcond : s.noFormerRequest (.onToken token) = true)
    (hout : Begun s.handler (s.handler.newCall token s.withdrawal) out) :
    (out.2.isWithdrawable out.1 = true → out.1.targeted = true) ∧
      (out.1.progress = .returned .withdrawn → out.1.targeted = true) := by
  refine targeted_of_section (fun hnow => ?_) (keepsRequest_of_begun hout)
  rcases Bool.or_eq_true_iff.mp hcond with hnot | hmatch
  · rw [hnow] at hnot
    cases hnot
  · exact hmatch

/-- A stored request stays one for the targeted calls. -/
theorem RequestTargets.step (hs : s.RequestTargets) (hcond : s.noFormerRequest label = true)
    (hstep : Stepped s label s') : s'.RequestTargets := by
  intro call hmem hopen hnow
  cases hstep with
  | began hout =>
    have hkeeps := keepsRequest_of_begun hout
    rcases mem_append.mp hmem with hold | hnew
    · rw [isWithdrawable_congr hkeeps.selectionAlgorithm hkeeps.withdrawRequest] at hnow
      exact hs call hold hopen hnow
    · cases mem_singleton.mp hnew
      exact (targeted_of_begun hcond hout).1 hnow
  | resumed hcall hout =>
    have hkeeps := keepsRequest_of_outcome (outcome_of_resumed hout)
    rcases mem_or_eq_of_mem_set hmem with hold | rfl
    · rw [withCall, isWithdrawable_congr hkeeps.selectionAlgorithm hkeeps.withdrawRequest] at hnow
      exact hs call hold hopen hnow
    · exact (targeted_of_section (hs _ (mem_of_getElem? hcall) hout.not_ended) hkeeps).1 hnow
  | withdrawing request =>
    obtain ⟨old, hold, rfl⟩ := mem_map.mp hmem
    simp only [isWithdrawable, Bool.and_eq_true] at hnow
    have hmatch : doesWithdrawRequestMatch request old.referencedEvses old.token.idToken = true :=
      hnow.2
    have hopen : old.progress.hasEnded = false := hopen
    simp [markTargeted, targets, hopen, hmatch]
  | kept _ _ _ hkeeps =>
    rw [isWithdrawable_congr hkeeps.selectionAlgorithm hkeeps.withdrawRequest] at hnow
    exact hs call hmem hopen hnow

/-- A step withdraws only calls that the request targets. -/
theorem WithdrawnTargeted.step (hs : s.WithdrawnTargeted) (hrequest : s.RequestTargets)
    (hcond : s.noFormerRequest label = true) (hstep : Stepped s label s') :
    s'.WithdrawnTargeted := by
  refine hstep.forall_calls hs ?_ ?_ ?_
  · rintro token out rfl hout
    exact (targeted_of_begun hcond hout).2
  · intro index call out hcall hout
    exact (targeted_of_section (hrequest _ (mem_of_getElem? hcall) hout.not_ended)
      (keepsRequest_of_outcome (outcome_of_resumed hout))).2
  · intro request call hold hreturned
    have htargeted : call.targeted = true := hold hreturned
    simp [markTargeted, htargeted]

end

/-- **Only calls that a withdraw request was meant for are withdrawn, as long as no token is
presented that a former request matches.** -/
theorem withdrawn_only_if_targeted (h : AuthHandler) (labels : List AuthThreadLabel)
    (halong : Along step (fun s label => s.noFormerRequest label = true) { handler := h } labels) :
    Always step WithdrawnTargeted { handler := h } labels := by
  refine always_of_along (I := fun s => s.WaitsAtEvses ∧ s.RequestTargets ∧ s.WithdrawnTargeted)
    ?_ (fun s hs => hs.2.2) ?_ halong
  · rintro s label ⟨hwaits, hrequest, hwithdrawn⟩ hcond
    have hstep := stepped_step hwaits label
    exact ⟨hwaits.step label, hrequest.step hcond hstep, hwithdrawn.step hrequest hcond hstep⟩
  · exact ⟨forall_mem_nil _, forall_mem_nil _, forall_mem_nil _⟩

/-- A token waits for a plug-in, and everything is withdrawn. -/
def withdrawnWhileWaiting : List AuthThreadLabel :=
  [.onToken (rfidCard "A"), .validated 0 [accepted], .withdrawAuthorization {}, .selected 0,
    .withdrawAuthorizationContinues]

theorem withdrawn_while_waiting :
    Always step WithdrawnTargeted (.initial .plugEvents twoEvses) withdrawnWhileWaiting :=
  withdrawn_only_if_targeted _ _ (by decide +kernel)

/-- Everything is withdrawn while no token is in process, then a token is presented. -/
def presentedAfterWithdrawal : AuthThreads :=
  run step (.initial .plugEvents twoEvses)
    [.withdrawAuthorization {}, .onToken (rfidCard "A"), .validated 0 [accepted]]

/-- The token is withdrawn, although the request has been handled before. -/
theorem later_token_is_withdrawn :
    (step (.initial .plugEvents twoEvses) (.withdrawAuthorization {})).withdrawal = none ∧
      presentedAfterWithdrawal.calls.map (fun call => (call.progress, call.targeted)) =
        [(.returned .withdrawn, false)] := by
  decide +kernel

end AuthThreads

end EverestCore.Auth
