import EverestCore.Auth.TokenSteps

/-!
# What a token starts and stops

**Early rejections.** Before a token is validated the handler rejects it if no EVSE could be
used. Nothing could have been started then (`not_granted_of_reserved`), but the parent id of the
token, not known yet, may stop a transaction: `couldStop` says when.

**EVSEs of a result.** A validator may restrict the EVSEs. The handler compares the restriction
with the EVSEs in question, not with the one that is selected (`FirstChoiceFits`).
-/

namespace EverestCore.Auth

open EverestCore.Lib List

namespace AuthHandler

/-! ## Early rejections -/

variable (s : AuthHandler)

variable (call : Call)

/-- The call ends in one of the two checks before the validation. -/
def isRejectedEarly : Bool :=
  (s.stopOwnTransaction call).isNone &&
    (s.noneAvailable call.referencedEvses ||
      s.allEvsesReservedAndTagDoesNotMatch call.token call.referencedEvses)

/-- A transaction is started, also if the call has to wait until a timeout has been handled. -/
def startsTransaction : Bool :=
  match call.progress with
  | .returned .usedToStartTransaction => true
  | .notifying _ _ => true
  | _ => false

/-- The call has stopped a transaction. -/
def stopsTransaction : Bool :=
  call.progress = .returned .usedToStopTransaction &&
    call.token.connectors.any fun evseIds => evseIds ≠ []

/-- Whatever the validators answer, no transaction is started or stopped. -/
def NothingToDo : Prop :=
  ∀ results, startsTransaction (s.afterValidation call results).1 = false ∧
    stopsTransaction (s.afterValidation call results).1 = false

/-- There is a transaction that some parent id stops. -/
def CouldStop (referencedEvses : List Nat) : Prop :=
  s.attemptStopWithParentIdToken referencedEvses = true ∧
    ((s.masterPassGroupId.isSome = true ∧ s.activeEvses referencedEvses ≠ []) ∨
      ∃ parent evseId, s.usedForTransaction referencedEvses parent = some evseId ∧
        (s.evses evseId).transactionActive = true)

theorem isRejectedEarly_iff :
    s.isRejectedEarly call = true ↔
      s.stopOwnTransaction call = none ∧
        (s.noneAvailable call.referencedEvses = true ∨
          s.allEvsesReservedAndTagDoesNotMatch call.token call.referencedEvses = true) := by
  rw [isRejectedEarly, Bool.and_eq_true, Option.isNone_iff_eq_none, Bool.or_eq_true]

variable {s : AuthHandler} {call : Call}

theorem handleToken_of_isRejectedEarly (hearly : s.isRejectedEarly call = true) :
    s.handleToken call = s.finish call .noConnectorAvailable := by
  obtain ⟨hown, hnone | hreserved⟩ := (s.isRejectedEarly_iff call).mp hearly
  · simp [handleToken, hown, hnone]
  · simp [handleToken, hown, hreserved]

variable {evseId : Nat}

theorem mem_evses_of_mem_getReferencedEvses {token : ProvidedIdToken}
    (hmem : evseId ∈ s.getReferencedEvses token) :
    evseId ∈ s.reservationHandler.evses := by
  have hany : (s.reservationHandler.evses[evseId]?.any fun evse => !evse.isUnavailable) = true := by
    unfold getReferencedEvses at hmem
    split at hmem <;> exact (mem_filter.mp hmem).2
  obtain ⟨evse, hget, -⟩ := (Option.any_eq_true _ _).mp hany
  exact mem_iff_exists_getElem?.mpr ⟨evse, hget⟩

/-! ### Nothing is started -/

theorem matchesReservedIdentifier_of_no_parentId {h : ReservationHandler} (hevse : evseId ∈ h.evses)
    (hparent : hasReservationParentId h evseId = false) (idToken : String)
    (parentIdToken : Option String) :
    h.matchesReservedIdentifier idToken evseId parentIdToken =
      h.matchesReservedIdentifier idToken evseId none := by
  unfold hasReservationParentId at hparent
  rw [if_neg (not_not_intro hevse)] at hparent
  unfold ReservationHandler.matchesReservedIdentifier
  cases hget : h.evseReservations[evseId]? with
  | some reservation =>
    simp only [hget, Option.isSome_eq_false_iff, Option.isNone_iff_eq_none] at hparent
    simp [hparent]
  | none =>
    simp only [hget, any_eq_false, Option.isSome_iff_ne_none, not_not] at hparent
    simp only
    congr 1
    refine find?_congr fun reservation hmem => ?_
    simp [hparent reservation hmem]

/-- An EVSE reserved for others is refused. -/
theorem decideEvse_of_isReservedForOthers {token : ProvidedIdToken}
    (hid : call.token.idToken = token.idToken) (hevse : evseId ∈ s.reservationHandler.evses)
    (hreserved : s.isReservedForOthers token evseId = true) (result : ValidationResult) :
    ∃ status, s.decideEvse call result evseId = .refused status := by
  unfold isReservedForOthers at hreserved
  rw [Bool.and_eq_true, Bool.and_eq_true, Bool.not_eq_true', Bool.not_eq_true',
    Option.isNone_iff_eq_none] at hreserved
  obtain ⟨⟨hfree, hmatch⟩, hparent⟩ := hreserved
  have hnone : s.reservationHandler.matchesReservedIdentifier call.token.idToken.value evseId
      (result.parentIdToken.map IdToken.value) = none := by
    rw [hid, matchesReservedIdentifier_of_no_parentId hevse hparent, hmatch]
  unfold decideEvse
  simp only [hnone]
  split
  · exact ⟨_, rfl⟩
  split
  · exact ⟨_, rfl⟩
  split
  · -- an EVSE that is not reserved and where charging is possible
    simp_all
  · exact ⟨_, rfl⟩

theorem not_granted_of_reserved
    (hexist : ∀ evseId ∈ call.referencedEvses, evseId ∈ s.reservationHandler.evses)
    (hreserved : s.allEvsesReservedAndTagDoesNotMatch call.token call.referencedEvses = true)
    {call' : Call} (hcall : (s.withoutIdentifier call).Continues call')
    (hselect : s.selectEvse call'.referencedEvses call'.token.idToken = .evseSelected evseId)
    (result : ValidationResult) : ∃ status, s.decideEvse call' result evseId = .refused status := by
  have hmem : evseId ∈ call.referencedEvses :=
    (mem_filter.mp (hcall.referencedEvses.mem_iff.mp (mem_of_evseSelected hselect))).1
  exact decideEvse_of_isReservedForOthers hcall.idToken (hexist evseId hmem)
    (all_eq_true.mp hreserved evseId hmem) result

/-! ### What is stopped -/

theorem stopsTransaction_of_couldStop (s : AuthHandler) (call : Call)
    (hstop : s.CouldStop call.referencedEvses) :
    ∃ results, stopsTransaction (s.afterValidation call results).1 = true := by
  obtain ⟨hattempt, hstop⟩ := hstop
  -- one accepted result with a suitable parent id
  have hmaster : ∀ parent, s.equalsMasterPassGroupId (some { value := parent }) = true →
      s.activeEvses call.referencedEvses ≠ [] →
      stopsTransaction (s.afterValidation call
        [{ authorizationStatus := .accepted, parentIdToken := some { value := parent } }]).1 =
          true := by
    intro parent hequals hactive
    simp [afterValidation, hattempt, stopByParentId, acceptedParentIdToken, hequals, finish,
      stopsTransaction, hactive]
  rcases hstop with ⟨hgroup, hactive⟩ | ⟨parent, evseId, hused, hactive⟩
  · obtain ⟨groupId, hgroup⟩ := Option.isSome_iff_exists.mp hgroup
    refine ⟨_, hmaster groupId ?_ hactive⟩
    simp [equalsMasterPassGroupId, hgroup, isEqualCaseInsensitive]
  by_cases hequals : s.equalsMasterPassGroupId (some { value := parent }) = true
  · refine ⟨_, hmaster parent hequals (ne_nil_of_mem (a := evseId) ?_)⟩
    exact mem_filter.mpr ⟨mem_of_find?_eq_some hused, hactive⟩
  · refine ⟨[{ authorizationStatus := .accepted, parentIdToken := some { value := parent } }], ?_⟩
    simp [afterValidation, hattempt, stopByParentId, acceptedParentIdToken, hequals, hused,
      hactive, finish, stopsTransaction]

theorem StoppedEvses.eq_nil {referencedEvses evseIds : List Nat}
    (hattempt : s.attemptStopWithParentIdToken referencedEvses = true)
    (hstop : ¬ s.CouldStop referencedEvses) (hstopped : s.StoppedEvses referencedEvses evseIds) :
    evseIds = [] := by
  cases hstopped with
  | masterPass hgroup =>
    by_contra hne
    exact hstop ⟨hattempt, .inl ⟨hgroup, hne⟩⟩
  | parentId hused hactive => exact (hstop ⟨hattempt, .inr ⟨_, _, hused, hactive⟩⟩).elim

/-- After an early rejection nothing but the stop of a transaction by the parent id of the token
is missed. -/
theorem nothingToDo_of_not_couldStop
    (hexist : ∀ evseId ∈ call.referencedEvses, evseId ∈ s.reservationHandler.evses)
    (hearly : s.isRejectedEarly call = true) (hstop : ¬ s.CouldStop call.referencedEvses) :
    s.NothingToDo call := by
  intro results
  have hvalidated := s.validated_afterValidation call results
  generalize s.afterValidation call results = out at hvalidated ⊢
  cases hvalidated with
  | pending => exact ⟨rfl, rfl⟩
  | stopped _ _ hattempt hstopped hconnectors =>
    rw [hstopped.eq_nil hattempt hstop] at hconnectors
    exact ⟨rfl, by simp [stopsTransaction, finish, hconnectors]⟩
  | returned hresult => rcases hresult with rfl | rfl <;> exact ⟨rfl, rfl⟩
  | authorizing havailable hout =>
    have hreserved : s.allEvsesReservedAndTagDoesNotMatch call.token call.referencedEvses =
        true := by
      refine ((s.isRejectedEarly_iff call).mp hearly).2.resolve_left ?_
      simp [noneAvailable, havailable]
    cases hout with
    | returned _ _ hresult => rcases hresult with rfl | rfl <;> exact ⟨rfl, rfl⟩
    | withdrawn => exact ⟨rfl, rfl⟩
    | threw => exact ⟨rfl, rfl⟩
    | waits => exact ⟨rfl, rfl⟩
    | granted _ _ hcall _ hselect hdecide =>
      obtain ⟨status, hrefused⟩ := not_granted_of_reserved hexist hreserved hcall hselect _
      exact (hdecide status hrefused).elim

/-- **An early rejection is only an optimisation exactly if no transaction could be stopped by a
parent id.** -/
theorem early_rejection_is_optimisation_iff (s : AuthHandler) (token : ProvidedIdToken)
    (withdrawal : Option WithdrawAuthorizationRequest)
    (hearly : s.isRejectedEarly (s.newCall token withdrawal) = true) :
    s.handleToken (s.newCall token withdrawal) =
        s.finish (s.newCall token withdrawal) .noConnectorAvailable ∧
      (s.NothingToDo (s.newCall token withdrawal) ↔
        ¬ s.CouldStop (s.getReferencedEvses token)) := by
  refine ⟨handleToken_of_isRejectedEarly hearly, ?_, ?_⟩
  · intro hnothing hstop
    obtain ⟨results, hstops⟩ := s.stopsTransaction_of_couldStop (s.newCall token withdrawal) hstop
    rw [(hnothing results).2] at hstops
    cases hstops
  · exact nothingToDo_of_not_couldStop (fun _ => mem_evses_of_mem_getReferencedEvses) hearly

theorem not_couldStop_of_activeEvses {referencedEvses : List Nat}
    (hactive : s.activeEvses referencedEvses = []) : ¬ s.CouldStop referencedEvses := by
  rintro ⟨-, ⟨-, hne⟩ | ⟨parent, evseId, hused, hevse⟩⟩
  · exact hne hactive
  · have hmem : evseId ∈ s.activeEvses referencedEvses :=
      mem_filter.mpr ⟨mem_of_find?_eq_some hused, hevse⟩
    rw [hactive] at hmem
    exact not_mem_nil hmem

def singleEvse : ReservationHandler :=
  { evses := ({} : Evses).insert 1 { connectors := [{ id := 1, type := .cCCS2 }] } }

def accepted : ValidationResult := { authorizationStatus := .accepted }

variable (value : String)

def rfidCard : ProvidedIdToken :=
  { idToken := { value }, authorizationType := .rfid }

def authorizedWith : AuthThreads :=
  run AuthThreads.step (.initial .plugEvents singleEvse)
    [.onToken (rfidCard value), .validated 0 [accepted], .sessionEvent 1 1 (.sessionStarted true)]

/-- Nothing is lost by the rejection of a second card before the transaction has started. -/
theorem early_rejection_before_transaction :
    (authorizedWith "A").handler.NothingToDo
      ((authorizedWith "A").handler.newCall (rfidCard "B") none) :=
  (early_rejection_is_optimisation_iff _ _ _ (by decide +kernel)).2.mpr
    (not_couldStop_of_activeEvses (by decide +kernel))

def chargingWith : AuthHandler :=
  ((authorizedWith value).step (.sessionEvent 1 1 .transactionStarted)).handler

/-- A transaction was started with the id of a group. A member of this group could stop it, but
is rejected early: the id of the group is no parent id at the EVSE. -/
theorem early_rejection_keeps_transaction :
    (chargingWith "GROUP").isRejectedEarly
        ((chargingWith "GROUP").newCall (rfidCard "MEMBER") none) = true ∧
      ((chargingWith "GROUP").handleToken
        ((chargingWith "GROUP").newCall (rfidCard "MEMBER") none)).1.progress =
          .returned .noConnectorAvailable ∧
      stopsTransaction ((chargingWith "GROUP").afterValidation
        ((chargingWith "GROUP").newCall (rfidCard "MEMBER") none)
        [{ accepted with parentIdToken := some { value := "GROUP" } }]).1 = true := by
  decide +kernel

/-! ## EVSEs of a result -/

/-- Every EVSE was granted by a result that allows it. -/
def RespectsEvseIds (s : AuthHandler) : Prop :=
  ∀ grant ∈ s.grants, (grant.result.evseIds.all fun evseIds => grant.evseId ∈ evseIds) = true

/-- The EVSE that a token gets if there are several candidates: the first one plugged in, which
with `FindFirst` has to be idle, or else the first idle one. -/
def firstChoice (s : AuthHandler) (candidates : List Nat) : Option Nat :=
  let idle evseId := !(s.evses evseId).transactionActive
  let plugged := s.plugInQueue.find? fun evseId => evseId ∈ candidates
  match s.selectionAlgorithm with
  | .plugEvents => plugged
  | .findFirst => (plugged.filter idle).or (candidates.find? idle)
  | .userInput => none

/-- The EVSE that is selected among the candidates. -/
def choice (s : AuthHandler) : List Nat → Option Nat
  | [evseId] => some evseId
  | candidates => s.firstChoice candidates

/-- A request withdraws the token while it waits for a plug-in. -/
def isWithdrawnAmong (s : AuthHandler) (idToken : IdToken) (candidates : List Nat) : Bool :=
  s.selectionAlgorithm == .plugEvents && candidates.length != 1 &&
    s.isAuthorizationWithdrawn candidates idToken

/-- No candidate is among the EVSEs of the result, or the EVSE is reserved for another token. -/
def refuses (s : AuthHandler) (idToken : IdToken) (candidates : List Nat)
    (result : ValidationResult) (evseId : Nat) : Bool :=
  (result.evseIds.any fun evseIds => intersect candidates evseIds = []) ||
    ((s.reservationHandler.matchesReservedIdentifier idToken.value evseId
        (result.parentIdToken.map IdToken.value)).isNone &&
      (!s.reservationHandler.isChargingPossible evseId ||
        decide (evseId ∈ s.reservationHandler.evseReservations)))

/-- An accepted result, with the candidates in the order in which it finds them. -/
abbrev Turn := List Nat × ValidationResult

/-- The candidates after a result: one with EVSEs leaves them sorted. -/
def candidatesAfter (result : ValidationResult) (candidates : List Nat) : List Nat :=
  if result.evseIds.isSome then candidates.insertionSort (· ≤ ·) else candidates

/-- The accepted results up to one of the master pass group. -/
def turns (s : AuthHandler) (candidates : List Nat) : List ValidationResult → List Turn
  | [] => []
  | result :: rest =>
    if result.authorizationStatus ≠ .accepted then s.turns candidates rest
    else if s.equalsMasterPassGroupId result.parentIdToken then []
    else (candidates, result) :: s.turns (candidatesAfter result candidates) rest

/-- The first result that is not refused at the EVSE chosen has no EVSEs, or there is one candidate
only, or the first choice among the candidates is one of the EVSEs of the result. -/
def FirstChoiceFits (s : AuthHandler) (idToken : IdToken) (turns : List Turn) : Prop :=
  ∀ turn ∈ turns.find? fun turn => !(s.choice turn.1).any (s.refuses idToken turn.1 turn.2),
    turn.1.length ≠ 1 → s.isWithdrawnAmong idToken turn.1 = false →
      ∀ evseIds ∈ turn.2.evseIds, ∀ evseId ∈ s.firstChoice turn.1, evseId ∈ evseIds

section

variable {s : AuthHandler} {idToken : IdToken} {candidates : List Nat} {result : ValidationResult}

theorem choice_of_length_ne_one (h : candidates.length ≠ 1) :
    s.choice candidates = s.firstChoice candidates := by
  unfold choice
  split
  · exact absurd rfl h
  · rfl

theorem firstChoice_nil (s : AuthHandler) : s.firstChoice [] = none := by
  have hnone : s.plugInQueue.find? (fun evseId => evseId ∈ []) = none := by simp
  unfold firstChoice
  dsimp only
  rw [hnone]
  split <;> rfl

theorem isWithdrawnAmong_perm {candidates' : List Nat} (h : candidates.Perm candidates') :
    s.isWithdrawnAmong idToken candidates = s.isWithdrawnAmong idToken candidates' := by
  simp only [isWithdrawnAmong, isAuthorizationWithdrawn, doesWithdrawRequestMatch, h.length_eq,
    h.mem_iff]

/-- A selection is interrupted, made, or has to wait. -/
theorem selectEvse_cases (s : AuthHandler) (candidates : List Nat) (idToken : IdToken) :
    (s.isWithdrawnAmong idToken candidates = true ∧
      s.selectEvse candidates idToken = .interrupted) ∨
    (s.isWithdrawnAmong idToken candidates = false ∧
      ((∃ evseId, s.choice candidates = some evseId ∧
          s.selectEvse candidates idToken = .evseSelected evseId) ∨
        s.choice candidates = none ∧ s.selectEvse candidates idToken ∈
          [.wait, .timeOut, .notImplemented])) := by
  by_cases hone : candidates.length = 1
  · obtain ⟨evseId, rfl⟩ := length_eq_one_iff.mp hone
    exact .inr ⟨by simp [isWithdrawnAmong], .inl ⟨evseId, rfl, rfl⟩⟩
  rw [choice_of_length_ne_one hone]
  unfold selectEvse firstChoice isWithdrawnAmong
  split
  · exact absurd rfl hone
  cases s.selectionAlgorithm with
  | plugEvents =>
    cases hwithdrawn : s.isAuthorizationWithdrawn candidates idToken with
    | true => exact .inl ⟨by simp [hone], by simp⟩
    | false =>
      refine .inr ⟨by simp, ?_⟩
      dsimp only [getLatestPlugin]
      cases s.plugInQueue.find? fun evseId => evseId ∈ candidates <;> simp
  | findFirst =>
    refine .inr ⟨rfl, ?_⟩
    dsimp only [getLatestPlugin]
    cases (s.plugInQueue.find? fun evseId => evseId ∈ candidates).filter
        fun evseId => !(s.evses evseId).transactionActive with
    | some evseId => exact .inl ⟨evseId, rfl, rfl⟩
    | none => cases candidates.find? fun evseId => !(s.evses evseId).transactionActive <;> simp
  | userInput => exact .inr ⟨rfl, .inr ⟨rfl, by simp⟩⟩

theorem refuses_eq (s : AuthHandler) (call : Call) (result : ValidationResult) (evseId : Nat) :
    s.refuses call.token.idToken call.referencedEvses result evseId =
      match s.decideEvse call result evseId with
      | .refused _ => true
      | _ => false := by
  unfold refuses decideEvse
  dsimp only
  generalize s.reservationHandler.matchesReservedIdentifier _ _ _ = reservationId
  cases result.evseIds.any fun evseIds => intersect call.referencedEvses evseIds = [] with
  | true => rfl
  | false =>
    cases reservationId with
    | some reservationId => simp
    | none =>
      by_cases hpossible : s.reservationHandler.isChargingPossible evseId = true
      · by_cases hreserved : evseId ∈ s.reservationHandler.evseReservations <;>
          simp [hpossible, hreserved]
      · simp [hpossible]

theorem sortReferenced_eq (call : Call) (result : ValidationResult) :
    sortReferenced call result =
      { call with referencedEvses := candidatesAfter result call.referencedEvses } := by
  unfold sortReferenced candidatesAfter
  split <;> rfl

theorem candidatesAfter_perm (result : ValidationResult) (candidates : List Nat) :
    (candidatesAfter result candidates).Perm candidates := by
  unfold candidatesAfter
  split
  · exact perm_insertionSort _ _
  · rfl

theorem perm_of_mem_turns {results : List ValidationResult} {turn : Turn}
    (h : turn ∈ s.turns candidates results) : turn.1.Perm candidates := by
  induction results generalizing candidates with
  | nil => cases h
  | cons result rest ih =>
    unfold turns at h
    split at h
    · exact ih h
    split at h
    · cases h
    rcases mem_cons.mp h with rfl | h
    · rfl
    · exact (ih h).trans (candidatesAfter_perm result candidates)

variable {turns : List Turn}

/-- A result that is refused grants nothing. -/
theorem fits_cons_of_refused
    (h : (s.choice candidates).any (s.refuses idToken candidates result) = true) :
    s.FirstChoiceFits idToken ((candidates, result) :: turns) ↔
      s.FirstChoiceFits idToken turns := by
  simp [FirstChoiceFits, h]

theorem fits_cons_of_usable
    (h : (s.choice candidates).any (s.refuses idToken candidates result) = false) :
    s.FirstChoiceFits idToken ((candidates, result) :: turns) ↔
      (candidates.length ≠ 1 → s.isWithdrawnAmong idToken candidates = false →
        ∀ evseIds ∈ result.evseIds, ∀ evseId ∈ s.firstChoice candidates, evseId ∈ evseIds) := by
  simp [FirstChoiceFits, h]

/-- A single candidate is among the EVSEs of the result, or is refused. -/
theorem mem_of_not_refuses {evseId : Nat} (h : s.refuses idToken [evseId] result evseId = false) :
    ∀ evseIds ∈ result.evseIds, evseId ∈ evseIds := by
  intro evseIds hmem
  have hmeets := (Bool.or_eq_false_iff.mp h).1
  rw [Option.mem_def.mp hmem] at hmeets
  obtain ⟨other, hother⟩ := exists_mem_of_ne_nil _ (of_decide_eq_false hmeets)
  simp [intersect, mem_bagInter] at hother
  exact hother.1 ▸ hother.2

/-- A result that is used is used well exactly if the first choice fits. -/
theorem fits_cons_of_selected {evseId : Nat} (hchoice : s.choice candidates = some evseId)
    (hactive : s.isWithdrawnAmong idToken candidates = false)
    (h : s.refuses idToken candidates result evseId = false) :
    s.FirstChoiceFits idToken ((candidates, result) :: turns) ↔
      (result.evseIds.all fun evseIds => evseId ∈ evseIds) = true := by
  rw [fits_cons_of_usable (by rw [hchoice]; exact h), Option.all_eq_true]
  simp only [decide_eq_true_eq]
  by_cases hone : candidates.length = 1
  · obtain ⟨other, rfl⟩ := length_eq_one_iff.mp hone
    obtain rfl : other = evseId := Option.some.inj hchoice
    exact iff_of_true (fun hne => absurd hone hne) (mem_of_not_refuses h)
  · rw [choice_of_length_ne_one hone] at hchoice
    simp [hone, hactive, hchoice]

end

/-- The first choice fits, unless the validated token stops a transaction or no EVSE is available.
The candidates are the EVSEs in question without an identifier. -/
def StartFits (s : AuthHandler) (call : Call) (results : List ValidationResult) : Prop :=
  ¬ (s.attemptStopWithParentIdToken call.referencedEvses = true ∧
      (s.stopByParentId call results).isSome = true) →
    s.anyEvseAvailable call.referencedEvses = true →
      s.FirstChoiceFits call.token.idToken
        (s.turns (s.withoutIdentifier call).referencedEvses results)

theorem respectsEvseIds_iff_of_grants {s s' : AuthHandler} (hgrants : s'.grants = s.grants) :
    s'.RespectsEvseIds ↔ s.RespectsEvseIds := by
  unfold RespectsEvseIds
  rw [hgrants]

theorem grants_finish (s : AuthHandler) (call : Call) (result : TokenHandlingResult) :
    (s.finish call result).2.grants = s.grants := by
  obtain ⟨callbacks, hfinish⟩ := s.finish_snd call result
  rw [hfinish]

/-- The end of a call grants nothing. -/
theorem RespectsEvseIds.finish {s : AuthHandler} (hs : s.RespectsEvseIds) (s' : AuthHandler)
    (hgrants : s'.grants = s.grants) (call : Call) (result : TokenHandlingResult) :
    (s'.finish call result).2.RespectsEvseIds :=
  (respectsEvseIds_iff_of_grants ((s'.grants_finish call result).trans hgrants)).mpr hs

theorem grants_reject (s : AuthHandler) (call : Call) (result : ValidationResult) :
    (s.reject call result).2.grants = s.grants := by
  obtain ⟨callbacks, hfinish | ⟨hthrow, -⟩⟩ :=
    s.notifyRejected_cases call result (call.token.connectors.getD [])
  · rw [reject, hfinish, grants_finish]
  · rw [reject, hthrow]
    rfl

theorem grants_notifyAuthorized (s : AuthHandler) (call : Call) (evseId : Nat)
    (result : ValidationResult) :
    (s.notifyAuthorized call evseId result).2.grants = s.grants ++ [{
      evseId, token := call.token.idToken, result
      before := (s.evses evseId).identifier
      transactionActive := (s.evses evseId).transactionActive }] := by
  unfold notifyAuthorized
  split
  · rfl
  · rw [finishNotify, grants_finish]
    rfl

section

variable {s : AuthHandler}

theorem all_evseIds_sortEvseIds (result : ValidationResult) (evseId : Nat) :
    ((sortEvseIds result).evseIds.all fun evseIds => evseId ∈ evseIds) =
      result.evseIds.all fun evseIds => evseId ∈ evseIds := by
  unfold sortEvseIds
  cases result.evseIds with
  | none => rfl
  | some evseIds => simp [mem_insertionSort]

variable (hs : s.RespectsEvseIds)

include hs

/-- One turn of the loop. -/
theorem respectsEvseIds_useSelection_iff (call : Call)
    (result : ValidationResult) (rest : List ValidationResult)
    (next : AuthHandler → Call → ValidationResult → Call × AuthHandler) {turns : List Turn}
    (hturns : ∀ turn ∈ turns, turn.1.Perm call.referencedEvses)
    (hnext : ∀ callbacks last,
      (next { s with callbacks } (sortReferenced call result) last).2.RespectsEvseIds ↔
        s.FirstChoiceFits call.token.idToken turns) :
    (s.useSelection call result rest next
        (s.selectEvse call.referencedEvses call.token.idToken)).2.RespectsEvseIds ↔
      s.FirstChoiceFits call.token.idToken ((call.referencedEvses, result) :: turns) := by
  obtain ⟨hwithdrawn, hselect⟩ | ⟨hactive, ⟨evseId, hchoice, hselect⟩ | ⟨hchoice, hselect⟩⟩ :=
    s.selectEvse_cases call.referencedEvses call.token.idToken
  · -- no result is used at all
    rw [hselect]
    refine iff_of_true (hs.finish s rfl call _) fun turn hfind _ hactive => ?_
    have hperm : turn.1.Perm call.referencedEvses := by
      rcases mem_cons.mp (mem_of_find?_eq_some hfind) with rfl | hmem
      · rfl
      · exact hturns turn hmem
    cases hwithdrawn.symm.trans ((isWithdrawnAmong_perm hperm).symm.trans hactive)
  · have hrefuses := s.refuses_eq call result evseId
    have hgrant : ∀ reservationHandler call' reservationId,
        ({ s with reservationHandler }.notifyAuthorized call' evseId
            { sortEvseIds result with reservationId }).2.RespectsEvseIds ↔
          (result.evseIds.all fun evseIds => evseId ∈ evseIds) = true := by
      intro reservationHandler call' reservationId
      unfold RespectsEvseIds
      rw [grants_notifyAuthorized, ← all_evseIds_sortEvseIds]
      simp only [forall_mem_append, forall_mem_singleton]
      exact and_iff_right hs
    rw [hselect]
    dsimp only [useSelection]
    cases hdecide : s.decideEvse call result evseId with
    | authorized =>
      rw [hdecide] at hrefuses
      rw [fits_cons_of_selected hchoice hactive hrefuses]
      exact hgrant s.reservationHandler _ result.reservationId
    | reservationUsed reservationId =>
      rw [hdecide] at hrefuses
      rw [fits_cons_of_selected hchoice hactive hrefuses]
      exact hgrant _ _ (some reservationId)
    | refused status =>
      rw [hdecide] at hrefuses
      rw [fits_cons_of_refused (by rw [hchoice]; exact hrefuses)]
      exact hnext _ _
  · -- the call waits or ends
    have hkeeps : (s.useSelection call result rest next
        (s.selectEvse call.referencedEvses call.token.idToken)).2.RespectsEvseIds := by
      simp only [mem_cons, not_mem_nil, or_false] at hselect
      rcases hselect with hselect | hselect | hselect <;> rw [hselect]
      · exact hs
      · exact hs.finish s rfl call _
      · exact hs
    rw [fits_cons_of_usable (by rw [hchoice]; rfl)]
    refine iff_of_true hkeeps fun hlength _ _ _ evseId hfirst => ?_
    rw [choice_of_length_ne_one hlength, Option.mem_def.mp hfirst] at hchoice
    cases hchoice

/-- **The loop respects the EVSEs of the results exactly if the first choice fits.** -/
theorem respectsEvseIds_authorize_iff (callbacks : List AuthCallback)
    (call : Call) (last : ValidationResult) (results : List ValidationResult) :
    ({ s with callbacks }.authorize call last results).2.RespectsEvseIds ↔
      s.FirstChoiceFits call.token.idToken (s.turns call.referencedEvses results) := by
  have hreject : ∀ callbacks call last,
      ({ s with callbacks }.reject call last).2.RespectsEvseIds := fun _ _ _ =>
    (respectsEvseIds_iff_of_grants (grants_reject _ _ _)).mpr hs
  induction results generalizing callbacks call last with
  | nil => exact iff_of_true (hreject _ _ _) fun _ hfind => by cases hfind
  | cons result rest ih =>
    by_cases hempty : call.referencedEvses = []
    · rw [authorize, if_pos hempty]
      refine iff_of_true (hreject _ _ _) fun turn hfind _ _ _ _ evseId hfirst => ?_
      have hperm := perm_of_mem_turns (mem_of_find?_eq_some hfind)
      rw [hempty, perm_nil] at hperm
      rw [hperm, firstChoice_nil] at hfirst
      cases hfirst
    rw [authorize, if_neg hempty, turns]
    split
    · exact ih callbacks call result
    · have hcallbacks : { s with callbacks }.equalsMasterPassGroupId result.parentIdToken =
          s.equalsMasterPassGroupId result.parentIdToken := rfl
      rw [hcallbacks]
      by_cases hmaster : s.equalsMasterPassGroupId result.parentIdToken = true
      · rw [if_pos hmaster, if_pos hmaster]
        exact iff_of_true (hs.finish { s with callbacks } rfl _ _) fun _ hfind => by cases hfind
      · rw [if_neg hmaster, if_neg hmaster]
        refine respectsEvseIds_useSelection_iff
          (s := { s with callbacks }.publish (withParentIdToken call result).token .accepted)
          hs (withParentIdToken call result) result rest
          (fun s call last => s.authorize call last rest) ?_ ?_
        · intro turn hmem
          exact (perm_of_mem_turns hmem).trans (candidatesAfter_perm _ _)
        · intro callbacks last
          rw [sortReferenced_eq]
          exact ih callbacks _ last

/-- The section after the validation. -/
theorem respectsEvseIds_afterValidation_iff (call : Call) (results : List ValidationResult) :
    (s.afterValidation call results).2.RespectsEvseIds ↔ s.StartFits call results := by
  have hstart : (s.startTransaction call results).2.RespectsEvseIds ↔
      (s.anyEvseAvailable call.referencedEvses = true → s.FirstChoiceFits call.token.idToken
        (s.turns (s.withoutIdentifier call).referencedEvses results)) := by
    unfold startTransaction
    split
    · rename_i hnone
      exact iff_of_true (hs.finish s rfl _ _) fun h => by simp [h] at hnone
    · rename_i havailable
      rw [forall_prop_of_true (by simpa using havailable)]
      split
      · rename_i hempty
        exact iff_of_true (hs.finish s rfl _ _) (by rw [hempty]; exact nofun)
      · exact respectsEvseIds_authorize_iff hs s.callbacks _ _ _
  unfold afterValidation StartFits
  by_cases hattempt : s.attemptStopWithParentIdToken call.referencedEvses = true
  · rw [if_pos hattempt]
    rcases s.stopByParentId_cases call results with
      ⟨hstop, -⟩ | ⟨callbacks, call', -, ⟨-, hstop⟩ | ⟨-, hstop, -⟩⟩ <;> rw [hstop]
    · simpa using hstart
    · exact iff_of_true (hs.finish { s with callbacks } rfl call' _) (by simp [hattempt])
    · exact iff_of_true (hs.finish { s with callbacks } rfl call' _) (by simp [hattempt])
  · rw [if_neg hattempt]
    simpa [hattempt] using hstart

/-- A token that needs no validation has no EVSEs in its result. -/
theorem respectsEvseIds_onToken (token : ProvidedIdToken)
    (withdrawal : Option WithdrawAuthorizationRequest) :
    (s.onToken token withdrawal).2.RespectsEvseIds := by
  have hbegun := s.begun_onToken token withdrawal
  generalize hout : s.onToken token withdrawal = out at hbegun ⊢
  cases hbegun with
  | alreadyInProcess => exact hs.finish s rfl _ _
  | returned callbacks => exact hs.finish { s.processing token with callbacks } rfl _ _
  | validating => exact hs
  | prevalidated hskips =>
    have hprocessing : (s.processing token).RespectsEvseIds := hs
    rw [← hout, onToken_of_skipsValidation hskips,
      respectsEvseIds_afterValidation_iff hprocessing]
    -- the result that is made for the token has no EVSEs
    intro _ _ turn hfind _ _ evseIds hids
    have hmem := mem_of_find?_eq_some hfind
    unfold AuthHandler.turns AuthHandler.turns at hmem
    split at hmem
    · cases hmem
    split at hmem
    · cases hmem
    obtain rfl := mem_singleton.mp hmem
    cases hids

end

end AuthHandler

namespace AuthThreads

open AuthHandler

/-- In a step that uses validation results, the first choice among the candidates fits. -/
def ChoosesWithin (s : AuthThreads) : AuthThreadLabel → Prop
  | .validated index results =>
    ∀ call, s.calls[index]? = some call → call.progress = .validating →
      s.handler.StartFits call results
  | .selected index =>
    ∀ call result rest, s.calls[index]? = some call → call.progress = .selecting result rest →
      s.handler.FirstChoiceFits call.token.idToken ((call.referencedEvses, result) ::
        s.handler.turns (candidatesAfter result call.referencedEvses) rest)
  | _ => True

theorem Stepped.grants {s s' : AuthThreads} {label : AuthThreadLabel} (hstep : Stepped s label s')
    (hbegin : ∀ token, label ≠ .onToken token)
    (hvalidated : ∀ index results, label ≠ .validated index results)
    (hselected : ∀ index, label ≠ .selected index) :
    s'.handler.grants = s.handler.grants := by
  cases hstep with
  | began => exact (hbegin _ rfl).elim
  | resumed hcall hout =>
    cases hout with
    | validated => exact (hvalidated _ _ rfl).elim
    | selected => exact (hselected _ rfl).elim
    | selectionTimeout => exact grants_finish _ _ _
    | notified => exact grants_finish _ _ _
  | withdrawing => rfl
  | kept _ _ _ hkeeps => exact hkeeps.grants

/-- One step of the threads. -/
theorem respectsEvseIds_step_iff {s : AuthThreads} (hwaits : s.WaitsAtEvses)
    (hs : s.handler.RespectsEvseIds) (label : AuthThreadLabel) :
    (s.step label).handler.RespectsEvseIds ↔ s.ChoosesWithin label := by
  cases label with
  | onToken token => exact iff_of_true (respectsEvseIds_onToken hs token s.withdrawal) trivial
  | validated index results =>
    dsimp only [step, resumeCall, ChoosesWithin]
    cases hcall : s.calls[index]? with
    | none => exact iff_of_true hs (by simp)
    | some call =>
      dsimp only [resume]
      split
      · rename_i hnone
        refine iff_of_true hs fun call' heq hprogress => ?_
        cases heq
        simp [hprogress] at hnone
      · rename_i out hresume
        split at hresume
        · rename_i hprogress
          cases hresume
          simp [withCall, respectsEvseIds_afterValidation_iff hs, hprogress]
        · cases hresume
  | selected index =>
    dsimp only [step, resumeCall, ChoosesWithin]
    cases hcall : s.calls[index]? with
    | none => exact iff_of_true hs (by simp)
    | some call =>
      dsimp only [resume]
      cases hprogress : call.progress with
      | selecting result rest =>
        have hselection := respectsEvseIds_useSelection_iff hs call result rest
          (fun s call last => s.authorize call last rest)
          (fun turn hmem => (perm_of_mem_turns hmem).trans (candidatesAfter_perm _ _))
          fun callbacks last => by
            rw [sortReferenced_eq]
            exact respectsEvseIds_authorize_iff hs callbacks _ last rest
        refine hselection.trans ⟨?_, fun hall => hall call result rest rfl hprogress⟩
        rintro hallowed _ _ _ ⟨⟩ hselecting
        cases hprogress.symm.trans hselecting
        exact hallowed
      | _ =>
        refine iff_of_true hs ?_
        rintro _ _ _ ⟨⟩ hselecting
        cases hprogress.symm.trans hselecting
  | _ =>
    refine iff_of_true ?_ trivial
    refine (respectsEvseIds_iff_of_grants ((stepped_step hwaits _).grants ?_ ?_ ?_)).mpr hs
    all_goals simp

/-- **The restrictions of the validators are respected exactly if, whenever results are used for
several candidates, the first one plugged in (or idle) is among the EVSEs of the result.** -/
theorem restriction_respected_iff (h : AuthHandler) (labels : List AuthThreadLabel) :
    Always step (fun s => s.handler.RespectsEvseIds) { handler := { h with grants := [] } } labels ↔
      Along step ChoosesWithin { handler := { h with grants := [] } } labels := by
  refine always_iff_along (I := WaitsAtEvses) (fun s label hwaits _ _ => hwaits.step label)
    (fun s label hwaits hs => respectsEvseIds_step_iff hwaits hs label) labels ?_ ?_
  · exact forall_mem_nil _
  · exact forall_mem_nil _

def twoEvses : ReservationHandler := { evses := ReservationHandler.twoTypes }

/-- A car is plugged in at EVSE 2, then a token is presented that is accepted for EVSE 1 only. -/
def acceptedElsewhere : AuthThreads :=
  run step (.initial .plugEvents twoEvses)
    [.sessionEvent 2 1 (.sessionStarted true), .onToken (rfidCard "A"),
      .validated 0 [{ accepted with evseIds := some [1] }]]

/-- The token is authorized at EVSE 2. -/
theorem restricted_result_grants_other_evse :
    acceptedElsewhere.calls.map Call.progress = [.returned .usedToStartTransaction] ∧
      acceptedElsewhere.handler.grants.map (fun grant => (grant.evseId, grant.result.evseIds)) =
        [(2, some [1])] := by
  decide +kernel

end AuthThreads

end EverestCore.Auth
