import EverestCore.Auth.Tokens

/-!
# The threads of the Auth handler

Calls of `onToken`, session events, timeouts and withdraw requests come from different threads.
They take turns: each section runs under the handler's lock, and between two sections of one
thread any sections of the others may run.

How long a wait may last is left open: it may end at any time.
-/

namespace EverestCore.Auth

open EverestCore.Lib

inductive AuthSessionEvent
  | sessionStarted (evConnected : Bool)
  | transactionStarted
  | transactionFinished
  | sessionFinished
  | disabled
  | enabled
  | deauthorized
  | reservationEnd
  deriving DecidableEq

namespace AuthHandler

/-! ## Session events -/

variable (s : AuthHandler)

variable (evseId : Nat)

def withEvse (evse : EvseAuthorization) : AuthHandler :=
  { s with evses := Function.update s.evses evseId evse }

def withPluggedIn (pluggedIn : Bool) : AuthHandler :=
  { s with reservationHandler := s.reservationHandler.step (.plugged evseId pluggedIn) }

def submitEventForConnector (evseId connectorId : Nat) (event : ConnectorEvent) :
    AuthHandler :=
  { s with
    reservationHandler := s.reservationHandler.submitEventForConnector evseId connectorId event }

def checkEvseReserved : AuthHandler :=
  { s with
    reservationHandler :=
      s.reservationHandler.checkNumberGlobalReservationsMatchNumberAvailableEvses.2 }

def removeFromQueue : AuthHandler :=
  { s with plugInQueue := s.plugInQueue.filter fun value => value ≠ evseId }

def beginSessionEvent (evseId connectorId : Nat) :
    AuthSessionEvent → AuthHandler
  | .sessionStarted evConnected =>
    if evConnected then
      ({ s with plugInQueue := s.plugInQueue ++ [evseId] }.withPluggedIn evseId true).withEvse
        evseId { s.evses evseId with timeoutTimer := some .plugIn }
    else s
  | .transactionStarted =>
    ((s.withPluggedIn evseId true).withEvse evseId
      { s.evses evseId with transactionActive := true }).submitEventForConnector evseId
        connectorId .transactionStarted
  | .transactionFinished =>
    s.withEvse evseId { s.evses evseId with transactionActive := false, identifier := none }
  | .sessionFinished =>
    ((s.withPluggedIn evseId false).withEvse evseId
      { s.evses evseId with plugInTimeout := false, identifier := none
      }).submitEventForConnector evseId connectorId .sessionFinished
  | .disabled => (s.submitEventForConnector evseId connectorId .disable).checkEvseReserved
  | .enabled => (s.submitEventForConnector evseId connectorId .enable).checkEvseReserved
  | .deauthorized => s.withEvse evseId { s.evses evseId with identifier := none }
  | .reservationEnd =>
    match s.reservationHandler.evseReservations[evseId]? with
    | some reservation =>
      { s with
        reservationHandler :=
          (s.reservationHandler.cancelReservation reservation.reservationId).2 }
    | none => s

def waitsForTimeout : AuthSessionEvent → Bool
  | .transactionStarted => true
  | .sessionFinished => true
  | .deauthorized => true
  | _ => false

def stopTimer : AuthHandler :=
  s.withEvse evseId { s.evses evseId with timeoutTimer := none }

def endSessionEvent : AuthSessionEvent → AuthHandler
  | .transactionStarted => (s.stopTimer evseId).checkEvseReserved
  | .sessionFinished => ((s.stopTimer evseId).removeFromQueue evseId).checkEvseReserved
  | .deauthorized => s.stopTimer evseId
  | _ => s

/-! ## Timeouts -/

/-- The task of an expired timer begins: the flag is set, but not the lock taken. -/
def timeoutExpires : AuthHandler :=
  match (s.evses evseId).timeoutTimer, (s.evses evseId).timeoutInProgress with
  | some task, none =>
    s.withEvse evseId
      { s.evses evseId with timeoutTimer := none, timeoutInProgress := some task }
  | _, _ => s

def timeoutRuns : AuthHandler :=
  match (s.evses evseId).timeoutInProgress with
  | some (.authorization token) =>
    ((s.withEvse evseId
      { s.evses evseId with identifier := none, timeoutInProgress := none }).callback
        (.withdrawAuthorization evseId)).publish token .timedOut
  | some .plugIn =>
    (((s.callback (.withdrawAuthorization evseId)).removeFromQueue evseId).withEvse evseId
      { s.evses evseId with plugInTimeout := true, timeoutInProgress := none })
  | none => s

/-! ## Withdrawn authorizations -/

variable (request : WithdrawAuthorizationRequest)

def isWithdrawRequestTargetingTokenInProcess : Bool :=
  s.tokensInProcess.any fun token =>
    doesWithdrawRequestMatch request (s.getReferencedEvses token) token.idToken

def withdrawAuthorizationOrStopTransaction : AuthHandler :=
  if (s.evses evseId).transactionActive then
    s.callback (.stopTransaction evseId .deAuthorized none)
  else s.callback (.withdrawAuthorization evseId)

def withdrawnEvses : List Nat :=
  (request.evseId.elim s.reservationHandler.evses.keys fun evseId => [evseId]).filter fun evseId =>
    (s.evses evseId).identifier.any fun identifier =>
      request.idToken.all fun idToken => idToken.isEqualCaseInsensitive identifier.idToken

def endWithdrawAuthorization :
    AuthHandler :=
  (s.withdrawnEvses request).foldl withdrawAuthorizationOrStopTransaction s

/-- The validators have changed their mind. -/
def handleTokenValidationResultUpdate
    (result : ValidationResult) : AuthHandler :=
  match s.reservationHandler.evses[evseId]?, (s.evses evseId).identifier with
  | some _, some identifier =>
    (s.withEvse evseId { s.evses evseId with
      identifier := some { identifier with
        authorizationStatus := some result.authorizationStatus
        parentIdToken := result.parentIdToken } }).publish
      { idToken := identifier.idToken
        authorizationType := identifier.type
        parentIdToken := result.parentIdToken
        connectors := some [evseId] } .accepted
  | _, _ => s

end AuthHandler

/-! ## Threads -/

structure AuthThreads where
  handler : AuthHandler
  -- all calls, also those that have ended
  calls : List Call := []
  -- session events that wait for a timeout
  events : List (Nat × AuthSessionEvent) := []
  -- the withdraw request that waits for tokens in process
  withdrawal : Option WithdrawAuthorizationRequest := none

inductive AuthThreadLabel
  | onToken (token : ProvidedIdToken)
  -- the validators have answered
  | validated (call : Nat) (results : List ValidationResult)
  -- the wait for a plug-in ends, or its time is over
  | selected (call : Nat)
  | selectionTimeout (call : Nat)
  -- the wait for a timeout ends
  | notified (call : Nat)
  | sessionEvent (evseId connectorId : Nat) (event : AuthSessionEvent)
  | sessionEventContinues (event : Nat)
  | timeoutExpires (evseId : Nat)
  | timeoutRuns (evseId : Nat)
  | withdrawAuthorization (request : WithdrawAuthorizationRequest)
  | withdrawAuthorizationContinues
  | validationResultUpdate (evseId : Nat) (result : ValidationResult)
  | reserve (now : Int) (evseId : Option Nat) (reservation : Reservation)
  | cancelReservation (reservationId : Int)
  | permanentFault (evseId connectorId : Nat) (raised : Bool)
  | setMasterPassGroupId (groupId : String)
  | setPrioritizeAuthorizationOverStoppingTransaction (b : Bool)
  deriving DecidableEq

namespace AuthThreads

open AuthHandler

variable (s : AuthThreads)

def withCall (index : Nat) (section' : Call × AuthHandler) : AuthThreads :=
  { s with handler := section'.2, calls := s.calls.set index section'.1 }

def withHandler (handler : AuthHandler) : AuthThreads := { s with handler }

/-- The next section of a waiting call, if what it waits for has happened. -/
def resume (handler : AuthHandler) (call : Call) : AuthThreadLabel → Option (Call × AuthHandler)
  | .validated _ results =>
    if call.progress = .validating then some (handler.afterValidation call results) else none
  | .selected _ =>
    match call.progress with
    | .selecting result rest =>
      some (handler.useSelection call result rest
        (fun handler call last => handler.authorize call last rest)
        (handler.selectEvse call.referencedEvses call.token.idToken))
    | _ => none
  | .selectionTimeout _ =>
    match call.progress with
    | .selecting _ _ =>
      if handler.selectEvse call.referencedEvses call.token.idToken = .wait then
        some (handler.finish call .timeout)
      else none
    | _ => none
  | .notified _ =>
    match call.progress with
    | .notifying evseId result =>
      if (handler.evses evseId).timeoutInProgress.isSome then none
      else some (handler.finishNotify call evseId result)
    | _ => none
  | _ => none

def resumeCall (index : Nat) (label : AuthThreadLabel) : AuthThreads :=
  match s.calls[index]? with
  | none => s
  | some call =>
    match resume s.handler call label with
    | none => s
    | some ended => s.withCall index ended

def sessionEvent (evseId connectorId : Nat) (event : AuthSessionEvent) :
    AuthThreads :=
  if evseId > 0 ∧ connectorId > 0 ∧ evseId ∈ s.handler.reservationHandler.evses then
    let begun := s.handler.beginSessionEvent evseId connectorId event
    if waitsForTimeout event ∧ (begun.evses evseId).timeoutInProgress.isSome then
      { s with handler := begun, events := s.events ++ [(evseId, event)] }
    else s.withHandler (begun.endSessionEvent evseId event)
  else s

def sessionEventContinues (index : Nat) : AuthThreads :=
  match s.events[index]? with
  | none => s
  | some (evseId, event) =>
    if (s.handler.evses evseId).timeoutInProgress.isSome then s
    else
      { s with
        handler := s.handler.endSessionEvent evseId event
        events := s.events.eraseIdx index }

variable (request : WithdrawAuthorizationRequest)

def targets (call : Call) : Bool :=
  !call.progress.hasEnded &&
    doesWithdrawRequestMatch request call.referencedEvses call.token.idToken

def markTargeted (call : Call) : Call :=
  { call with targeted := call.targeted || targets request call }

def withdrawAuthorization :
    AuthThreads :=
  if s.withdrawal.isSome then s
  else if request.evseId.any fun evseId => evseId ∉ s.handler.reservationHandler.evses then s
  else
    let requested := { s.handler with withdrawRequest := some request }
    let calls := s.calls.map (markTargeted request)
    if requested.isWithdrawRequestTargetingTokenInProcess request then
      { s with handler := requested, calls, withdrawal := some request }
    else { s with handler := requested.endWithdrawAuthorization request, calls }

def withdrawAuthorizationContinues : AuthThreads :=
  match s.withdrawal with
  | none => s
  | some request =>
    if s.handler.isWithdrawRequestTargetingTokenInProcess request then s
    else
      { s with handler := s.handler.endWithdrawAuthorization request, withdrawal := none }

def step : AuthThreadLabel → AuthThreads
  | .onToken token =>
    let begun := s.handler.onToken token s.withdrawal
    { s with handler := begun.2, calls := s.calls ++ [begun.1] }
  | .validated index results => s.resumeCall index (.validated index results)
  | .selected index => s.resumeCall index (.selected index)
  | .selectionTimeout index => s.resumeCall index (.selectionTimeout index)
  | .notified index => s.resumeCall index (.notified index)
  | .sessionEvent evseId connectorId event => s.sessionEvent evseId connectorId event
  | .sessionEventContinues index => s.sessionEventContinues index
  | .timeoutExpires evseId => s.withHandler (s.handler.timeoutExpires evseId)
  | .timeoutRuns evseId => s.withHandler (s.handler.timeoutRuns evseId)
  | .withdrawAuthorization request => s.withdrawAuthorization request
  | .withdrawAuthorizationContinues => s.withdrawAuthorizationContinues
  | .validationResultUpdate evseId result =>
    s.withHandler (s.handler.handleTokenValidationResultUpdate evseId result)
  | .reserve now evseId reservation =>
    s.withHandler { s.handler with
      reservationHandler :=
        (s.handler.reservationHandler.makeReservation now evseId reservation).2 }
  | .cancelReservation reservationId =>
    s.withHandler { s.handler with
      reservationHandler := (s.handler.reservationHandler.cancelReservation reservationId).2 }
  | .permanentFault evseId connectorId raised =>
    if s.handler.ignoreFaults then s
    else
      s.withHandler (s.handler.submitEventForConnector evseId connectorId
        (if raised then .faulted else .errorCleared))
  | .setMasterPassGroupId groupId =>
    s.withHandler { s.handler with
      masterPassGroupId := if groupId = "" then none else some groupId }
  | .setPrioritizeAuthorizationOverStoppingTransaction b =>
    s.withHandler { s.handler with prioritizeAuthorizationOverStoppingTransaction := b }

def initial (selectionAlgorithm : SelectionAlgorithm) (reservationHandler : ReservationHandler) :
    AuthThreads :=
  { handler := { selectionAlgorithm, reservationHandler } }

end AuthThreads

end EverestCore.Auth
