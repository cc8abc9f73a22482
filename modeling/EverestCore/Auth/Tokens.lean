import EverestCore.Auth.Capacity
import Mathlib.Data.List.Lattice
import Mathlib.Data.List.Sort

/-!
# Tokens of the Auth handler

A token stops a transaction, or it is validated, an EVSE is selected and the token is
authorized there. All this happens under the handler's lock, which is released in three
places: while the validators work, while no car is plugged in at the EVSEs in question, and
while a timeout of the selected EVSE is being handled. A call of `onToken` is therefore a
sequence of sections that run without interruption.

All callbacks are registered, and calls of them are recorded. The wait for the socket signal keeps
the lock, so it is no point at which another section could run.
-/

namespace EverestCore.Auth

open EverestCore.Lib

/-! ## Types -/

inductive IdTokenType
  | central
  | eMAID
  | macAddress
  | iso14443
  | iso15693
  | keyCode
  | localToken
  | noAuthorization
  deriving DecidableEq

structure IdToken where
  value : String
  type : IdTokenType := .iso14443
  deriving DecidableEq

inductive AuthorizationType
  | ocpp
  | rfid
  | autocharge
  | plugAndCharge
  | bankCard
  deriving DecidableEq

inductive AuthorizationStatus
  | accepted
  | blocked
  | concurrentTx
  | expired
  | invalid
  | noCredit
  | notAllowedTypeEVSE
  | notAtThisLocation
  | notAtThisTime
  | unknown
  deriving DecidableEq

inductive TokenValidationStatus
  | processing
  | accepted
  | rejected
  | timedOut
  | usedToStart
  | usedToStop
  | withdrawn
  deriving DecidableEq

inductive SelectionAlgorithm
  | userInput
  | plugEvents
  | findFirst
  deriving DecidableEq

inductive TokenHandlingResult
  | alreadyInProcess
  | rejected
  | usedToStartTransaction
  | usedToStopTransaction
  | timeout
  | noConnectorAvailable
  | withdrawn
  deriving DecidableEq

inductive StopTransactionReason
  | localStop
  | masterPass
  | deAuthorized
  deriving DecidableEq

structure ProvidedIdToken where
  idToken : IdToken
  parentIdToken : Option IdToken := none
  authorizationType : AuthorizationType
  connectors : Option (List Nat) := none
  prevalidated : Option Bool := none
  deriving DecidableEq

structure ValidationResult where
  authorizationStatus : AuthorizationStatus
  expiryTime : Option String := none
  parentIdToken : Option IdToken := none
  evseIds : Option (List Nat) := none
  reservationId : Option Int := none
  deriving DecidableEq

structure Identifier where
  idToken : IdToken
  type : AuthorizationType
  authorizationStatus : Option AuthorizationStatus
  expiryTime : Option String
  parentIdToken : Option IdToken
  deriving DecidableEq

structure WithdrawAuthorizationRequest where
  evseId : Option Nat := none
  idToken : Option IdToken := none
  deriving DecidableEq

def IdToken.isEqualCaseInsensitive (token1 token2 : IdToken) : Bool :=
  Auth.isEqualCaseInsensitive token1.value token2.value && token1.type = token2.type

/-- What the timer of an EVSE does when it expires. -/
inductive TimeoutTask
  | authorization (token : ProvidedIdToken)
  | plugIn
  deriving DecidableEq

/-- The context of an EVSE, apart from its connectors and whether a car is plugged in. -/
structure EvseAuthorization where
  identifier : Option Identifier := none
  transactionActive : Bool := false
  plugInTimeout : Bool := false
  timeoutTimer : Option TimeoutTask := none
  -- the expired task that waits for the lock
  timeoutInProgress : Option TimeoutTask := none
  deriving DecidableEq

inductive AuthCallback
  | publishTokenValidationStatus (token : ProvidedIdToken) (status : TokenValidationStatus)
  | stopTransaction (evseId : Nat) (reason : StopTransactionReason)
      (idTag : Option ProvidedIdToken)
  | notifyEvse (evseId : Nat) (token : ProvidedIdToken) (result : ValidationResult)
  | withdrawAuthorization (evseId : Nat)
  deriving DecidableEq

/-- An identifier has been stored at an EVSE. What was there before is kept for the
statements only. -/
structure Grant where
  evseId : Nat
  token : IdToken
  result : ValidationResult
  before : Option Identifier
  transactionActive : Bool
  deriving DecidableEq

structure AuthHandler where
  selectionAlgorithm : SelectionAlgorithm
  masterPassGroupId : Option String := none
  prioritizeAuthorizationOverStoppingTransaction : Bool := false
  ignoreFaults : Bool := false
  reservationHandler : ReservationHandler
  evses : Nat → EvseAuthorization := fun _ => {}
  plugInQueue : List Nat := []
  tokensInProcess : List ProvidedIdToken := []
  withdrawRequest : Option WithdrawAuthorizationRequest := none
  callbacks : List AuthCallback := []
  grants : List Grant := []

def Connector.isUnavailable (connector : Connector) : Bool :=
  connector.state = .unavailable || connector.state = .unavailableFaulted

def EvseContext.isUnavailable (evse : EvseContext) : Bool :=
  evse.connectors.all Connector.isUnavailable

/-! ## Calls -/

/-- Where a call is when it does not have the lock. -/
inductive Progress
  | validating
  -- waits for a plug-in, with the current result and those that follow
  | selecting (result : ValidationResult) (rest : List ValidationResult)
  -- waits until the timeout of the EVSE has been handled
  | notifying (evseId : Nat) (result : ValidationResult)
  | returned (result : TokenHandlingResult)
  | threw
  deriving DecidableEq

def Progress.hasEnded : Progress → Bool
  | .returned _ => true
  | .threw => true
  | _ => false

structure Call where
  providedToken : ProvidedIdToken
  -- the copy that the handler works on
  token : ProvidedIdToken
  referencedEvses : List Nat
  progress : Progress := .validating
  -- for the statements only: whether the token was in process at the beginning and at the
  -- end, and whether a withdraw request was meant for this call
  heldAtEntry : Bool
  heldAtEnd : Bool := false
  targeted : Bool
  deriving DecidableEq

inductive Selection
  | evseSelected (evseId : Nat)
  | interrupted
  | timeOut
  -- the lock is released until a car is plugged in or the authorization is withdrawn
  | wait
  -- an exception: the algorithm is not implemented
  | notImplemented
  deriving DecidableEq

/-- What the restriction of the result and the reservations say about the selected EVSE. -/
inductive Decision
  | authorized
  | reservationUsed (reservationId : Int)
  | refused (status : AuthorizationStatus)
  deriving DecidableEq

namespace AuthHandler

/-! ## The EVSEs of a token -/

variable (s : AuthHandler)

def isAvailable (evseId : Nat) : Bool :=
  if (s.evses evseId).plugInTimeout then false
  else if (s.evses evseId).identifier.isSome then false
  else
    match s.reservationHandler.evses[evseId]? with
    | none => false
    | some evse =>
      let occupied := evse.connectors.any fun connector =>
        connector.state = .occupied || connector.state = .faultedOccupied
      let available := evse.connectors.any fun connector =>
        connector.state ≠ .unavailable && connector.state ≠ .faulted
      if occupied then false else available

variable (token : ProvidedIdToken)

/-- The EVSEs that the token names, or all EVSEs, without those that are unavailable. -/
def getReferencedEvses : List Nat :=
  match token.connectors with
  | some connectors =>
    connectors.filter fun evseId =>
      s.reservationHandler.evses[evseId]?.any fun evse => !evse.isUnavailable
  | none =>
    s.reservationHandler.evses.keys.filter fun evseId =>
      s.reservationHandler.evses[evseId]?.any fun evse => !evse.isUnavailable

def identifierMatches (token : String) (evseId : Nat) : Bool :=
  (s.evses evseId).identifier.any fun identifier =>
    isEqualCaseInsensitive identifier.idToken.value token ||
      identifier.parentIdToken.any fun parent => isEqualCaseInsensitive parent.value token

variable (evseIds : List Nat)

def usedForTransaction (token : String) : Option Nat :=
  evseIds.find? (s.identifierMatches token)

/-- Tokens are ordered by their value: a token with the same value counts as the same. -/
def holds : Bool :=
  s.tokensInProcess.any fun other => other.idToken.value = token.idToken.value

variable (referencedEvses : List Nat)

def isTokenAlreadyInProcess : Bool :=
  s.holds token ||
    -- or it was used to authorize an EVSE where no transaction has been started yet
    referencedEvses.any fun evseId =>
      ((s.evses evseId).identifier.any fun identifier =>
        identifier.idToken.isEqualCaseInsensitive token.idToken) &&
      !(s.evses evseId).transactionActive

def anyEvseAvailable : Bool :=
  evseIds.any s.isAvailable

def anyParentIdPresent : Bool :=
  evseIds.any fun evseId =>
    (s.evses evseId).identifier.any fun identifier => identifier.parentIdToken.isSome

def equalsMasterPassGroupId (parentIdToken : Option IdToken) : Bool :=
  s.masterPassGroupId.any fun groupId =>
    parentIdToken.any fun parent => isEqualCaseInsensitive parent.value groupId

/-! ## Selection of an EVSE -/

/-- The EVSE where a car has been plugged in first, among the given ones. -/
def getLatestPlugin : Option Nat :=
  s.plugInQueue.find? fun evseId => evseId ∈ evseIds

def doesWithdrawRequestMatch (request : WithdrawAuthorizationRequest) (selectedEvses : List Nat)
    (idToken : IdToken) : Bool :=
  (request.idToken.all fun requested => requested.isEqualCaseInsensitive idToken) &&
    request.evseId.all fun evseId => evseId ∈ selectedEvses

def isAuthorizationWithdrawn (selectedEvses : List Nat) (idToken : IdToken) :
    Bool :=
  s.withdrawRequest.any fun request => doesWithdrawRequestMatch request selectedEvses idToken

def selectEvse (selectedEvses : List Nat) (idToken : IdToken) : Selection :=
  match selectedEvses with
  | [evseId] => .evseSelected evseId
  | _ =>
    match s.selectionAlgorithm with
    | .plugEvents =>
      if s.isAuthorizationWithdrawn selectedEvses idToken then .interrupted
      else
        match s.getLatestPlugin selectedEvses with
        | some evseId => .evseSelected evseId
        | none => .wait
    | .findFirst =>
      let idle evseId := !(s.evses evseId).transactionActive
      match (s.getLatestPlugin selectedEvses).filter idle with
      | some evseId => .evseSelected evseId
      | none =>
        -- the first one where no transaction is active
        match selectedEvses.find? idle with
        | some evseId => .evseSelected evseId
        | none => .timeOut
    | .userInput => .notImplemented

/-! ## The end of a call -/

def callback (callback : AuthCallback) : AuthHandler :=
  { s with callbacks := s.callbacks ++ [callback] }

def publish (status : TokenValidationStatus) :
    AuthHandler :=
  s.callback (.publishTokenValidationStatus token status)

def publishResult : TokenHandlingResult → AuthHandler
  | .alreadyInProcess => s
  | .timeout => s.publish token .timedOut
  | .noConnectorAvailable => s.publish token .rejected
  | .rejected => s.publish token .rejected
  | .usedToStartTransaction => s.publish token .usedToStart
  | .usedToStopTransaction => s.publish token .usedToStop
  | .withdrawn => s.publish token .withdrawn

def eraseToken : AuthHandler :=
  { s with
    tokensInProcess := s.tokensInProcess.filter fun other =>
      other.idToken.value ≠ token.idToken.value }

variable (call : Call)

def finish (result : TokenHandlingResult) : Call × AuthHandler :=
  let published := s.publishResult call.token result
  let erased :=
    if result ≠ .alreadyInProcess then published.eraseToken call.providedToken else published
  ({ call with progress := .returned result, heldAtEnd := erased.holds call.providedToken },
    erased)

def throw : Call × AuthHandler :=
  ({ call with progress := .threw, heldAtEnd := s.holds call.providedToken }, s)

/-! ## Authorization -/

/-- Both lists are sorted and compared. -/
def intersect (a b : List Nat) : List Nat :=
  (a.insertionSort (· ≤ ·)).bagInter (b.insertionSort (· ≤ ·))

/-- The EVSEs of a rejected token are notified. An EVSE that does not exist is an exception. -/
def notifyRejected (s : AuthHandler) (call : Call) (result : ValidationResult) :
    List Nat → Call × AuthHandler
  | [] => s.finish call .rejected
  | evseId :: rest =>
    if evseId ∈ s.reservationHandler.evses then
      (s.callback (.notifyEvse evseId call.token result)).notifyRejected call result rest
    else s.throw call

variable (result : ValidationResult)

def reject : Call × AuthHandler :=
  s.notifyRejected call result (call.token.connectors.getD [])

variable (evseId : Nat)

/-- The rest of `notifyEvse`, when no timeout is in progress. -/
def finishNotify (result : ValidationResult) :
    Call × AuthHandler :=
  let notified := { s with
    evses := Function.update s.evses evseId
      { s.evses evseId with timeoutTimer := some (.authorization call.token) }
    plugInQueue := s.plugInQueue.filter fun value => value ≠ evseId }
  (notified.callback (.notifyEvse evseId call.token result)).finish call .usedToStartTransaction

/-- The identifier is stored, then a timeout that is in progress is waited for. -/
def notifyAuthorized (result : ValidationResult) :
    Call × AuthHandler :=
  let identifier : Identifier :=
    { idToken := call.token.idToken
      type := call.token.authorizationType
      authorizationStatus := some result.authorizationStatus
      expiryTime := result.expiryTime
      parentIdToken := result.parentIdToken }
  let stored := { s with
    evses := Function.update s.evses evseId
      { s.evses evseId with identifier := some identifier }
    grants := s.grants ++ [{
      evseId, token := call.token.idToken, result
      before := (s.evses evseId).identifier
      transactionActive := (s.evses evseId).transactionActive }] }
  if (s.evses evseId).timeoutInProgress.isSome then
    ({ call with progress := .notifying evseId result }, stored)
  else stored.finishNotify call evseId result

def decideEvse :
    Decision :=
  let parentIdToken := result.parentIdToken.map IdToken.value
  let reservationId := s.reservationHandler.matchesReservedIdentifier call.token.idToken.value
    evseId parentIdToken
  if result.evseIds.any fun evseIds => intersect call.referencedEvses evseIds = [] then
    .refused .notAtThisLocation
  else if reservationId = none ∧ ¬ s.reservationHandler.isChargingPossible evseId then
    .refused .notAtThisTime
  else if evseId ∉ s.reservationHandler.evseReservations ∧ reservationId = none then .authorized
  else
    match reservationId with
    | some reservationId => .reservationUsed reservationId
    | none => .refused .notAtThisTime

/-- The comparison with the EVSEs of the result sorts both lists. -/
def sortEvseIds : ValidationResult :=
  { result with evseIds := result.evseIds.map (List.insertionSort (· ≤ ·)) }

def sortReferenced : Call :=
  if result.evseIds.isSome then
    { call with referencedEvses := call.referencedEvses.insertionSort (· ≤ ·) }
  else call

def assign : Call :=
  { call with token := { call.token with connectors := some [evseId] } }

/-- The current result with the outcome of the selection. A refused token goes on with the
next result. -/
def useSelection (rest : List ValidationResult)
    (next : AuthHandler → Call → ValidationResult → Call × AuthHandler) :
    Selection → Call × AuthHandler
  | .wait => ({ call with progress := .selecting result rest }, s)
  | .timeOut => s.finish call .timeout
  | .interrupted => s.finish call .withdrawn
  | .notImplemented => s.throw call
  | .evseSelected evseId =>
    let sorted := sortReferenced call result
    let sortedResult := sortEvseIds result
    match s.decideEvse call result evseId with
    | .authorized => s.notifyAuthorized (assign sorted evseId) evseId sortedResult
    | .reservationUsed reservationId =>
      { s with
        reservationHandler := s.reservationHandler.onReservationUsed reservationId
      }.notifyAuthorized (assign sorted evseId) evseId
        { sortedResult with reservationId := some reservationId }
    | .refused status =>
      let refused := { sortedResult with authorizationStatus := status }
      next (s.callback (.notifyEvse evseId sorted.token refused)) sorted refused

def withParentIdToken : Call :=
  { call with
    token := { call.token with
      parentIdToken := result.parentIdToken.or call.token.parentIdToken } }

/-- The loop over the validation results. `last` is the result that is passed on if none of
them leads to an authorization. -/
def authorize (s : AuthHandler) (call : Call) (last : ValidationResult) :
    List ValidationResult → Call × AuthHandler
  | [] => s.reject call last
  | result :: rest =>
    if call.referencedEvses = [] then s.reject call last
    else if result.authorizationStatus ≠ .accepted then s.authorize call result rest
    else if s.equalsMasterPassGroupId result.parentIdToken then s.finish call .rejected
    else
      let call := withParentIdToken call result
      let s := s.publish call.token .accepted
      s.useSelection call result rest (fun s call last => s.authorize call last rest)
        (s.selectEvse call.referencedEvses call.token.idToken)

/-! ## Before the validation -/

def stopOwnTransaction : Option (Call × AuthHandler) :=
  if call.token.authorizationType = .rfid then
    (s.usedForTransaction call.referencedEvses call.token.idToken.value).map fun evseId =>
      let parentIdToken := (s.evses evseId).identifier.bind Identifier.parentIdToken
      let token := { call.token with
        parentIdToken := parentIdToken.or call.token.parentIdToken
        connectors := some [evseId] }
      (s.callback (.stopTransaction evseId .localStop (some call.token))).finish
        { call with token } .usedToStopTransaction
  else none

/-- No EVSE is available, and no parent id could help. -/
def noneAvailable : Bool :=
  !s.anyEvseAvailable referencedEvses && !s.anyParentIdPresent referencedEvses &&
    !s.masterPassGroupId.isSome

def hasReservationParentId (h : ReservationHandler) (evseId : Nat) : Bool :=
  if evseId ∉ h.evses then false
  else
    match h.evseReservations[evseId]? with
    | some reservation => reservation.parentIdToken.isSome
    | none => h.globalReservations.any fun reservation => reservation.parentIdToken.isSome

/-- The token cannot be used at the EVSE because of reservations, whatever its parent id is. -/
def isReservedForOthers : Bool :=
  !(evseId ∉ s.reservationHandler.evseReservations &&
      s.reservationHandler.isChargingPossible evseId) &&
    (s.reservationHandler.matchesReservedIdentifier token.idToken.value evseId none).isNone &&
    !hasReservationParentId s.reservationHandler evseId

def allEvsesReservedAndTagDoesNotMatch : Bool :=
  referencedEvses.all (s.isReservedForOthers token)

/-! ## After the validation -/

def activeEvses : List Nat :=
  referencedEvses.filter fun evseId => (s.evses evseId).transactionActive

def stopAll : AuthHandler :=
  evseIds.foldl
    (fun s evseId => s.callback (.stopTransaction evseId .masterPass (some token))) s

def acceptedParentIdToken : Option IdToken :=
  if result.authorizationStatus = .accepted then result.parentIdToken else none

/-- The first accepted result whose parent id is the master pass, or belongs to the identifier
of an EVSE, ends the call. -/
def stopByParentId (s : AuthHandler) (call : Call) :
    List ValidationResult → Option (Call × AuthHandler)
  | [] => none
  | result :: rest =>
    match acceptedParentIdToken result with
    | none => s.stopByParentId call rest
    | some parent =>
      if s.equalsMasterPassGroupId (some parent) then
        let evseIds := s.activeEvses call.referencedEvses
        let token := { call.token with
          parentIdToken := some parent, connectors := some evseIds }
        some ((s.stopAll call.token evseIds).finish { call with token } .usedToStopTransaction)
      else
        match s.usedForTransaction call.referencedEvses parent.value with
        | none => s.stopByParentId call rest
        | some evseId =>
          let token := { call.token with connectors := some [evseId] }
          if !(s.evses evseId).transactionActive then
            some (s.finish { call with token } .alreadyInProcess)
          else
            some ((s.callback (.stopTransaction evseId .localStop (some token))).finish
              { call with token := { token with parentIdToken := some parent } }
              .usedToStopTransaction)

def attemptStopWithParentIdToken : Bool :=
  if s.prioritizeAuthorizationOverStoppingTransaction then !s.anyEvseAvailable referencedEvses
  else true

def withoutIdentifier : Call :=
  { call with
    referencedEvses := call.referencedEvses.filter fun evseId =>
      (s.evses evseId).identifier.isNone }

def startTransaction (results : List ValidationResult) :
    Call × AuthHandler :=
  if !s.anyEvseAvailable call.referencedEvses then s.finish call .noConnectorAvailable
  else if results = [] then s.finish call .rejected
  else s.authorize (s.withoutIdentifier call) { authorizationStatus := .unknown } results

def afterValidation (results : List ValidationResult) :
    Call × AuthHandler :=
  let stopped :=
    if s.attemptStopWithParentIdToken call.referencedEvses then s.stopByParentId call results
    else none
  match stopped with
  | some ended => ended
  | none => s.startTransaction call results

/-! ## The call -/

/-- The lock is released while the token is validated, unless that has been done before. -/
def handleToken : Call × AuthHandler :=
  match s.stopOwnTransaction call with
  | some ended => ended
  | none =>
    if s.noneAvailable call.referencedEvses then s.finish call .noConnectorAvailable
    else if s.allEvsesReservedAndTagDoesNotMatch call.token call.referencedEvses then
      s.finish call .noConnectorAvailable
    else if call.token.prevalidated = some true then
      s.afterValidation call
        [{ authorizationStatus := .accepted, parentIdToken := call.token.parentIdToken }]
    else ({ call with progress := .validating }, s)

/-- The call for a token. A withdraw request that is still being handled may be meant for it. -/
def newCall
    (withdrawal : Option WithdrawAuthorizationRequest) : Call :=
  { providedToken := token
    token
    referencedEvses := s.getReferencedEvses token
    heldAtEntry := s.holds token
    targeted := withdrawal.any fun request =>
      doesWithdrawRequestMatch request (s.getReferencedEvses token) token.idToken }

def insertToken : AuthHandler :=
  { s with tokensInProcess := s.tokensInProcess ++ [token] }

def onToken
    (withdrawal : Option WithdrawAuthorizationRequest) : Call × AuthHandler :=
  let call := s.newCall token withdrawal
  if s.isTokenAlreadyInProcess token call.referencedEvses then s.finish call .alreadyInProcess
  else ((s.insertToken token).publish token .processing).handleToken call

end AuthHandler

end EverestCore.Auth
