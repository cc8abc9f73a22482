import EverestCore.V2G.Context

/-!
# DIN 70121: states, requests and handlers

`din_server.hpp` and `din_server.cpp`. As in ISO 15118-2 every handler fills its response,
lets `din_validate_response_code` look at it and then **sets the next state whatever the
code is**. There is one table, DC only, and external payment only.

The charger writes to the context while a request is handled: `during` falls between the
reads of a handler, `late` before the code is validated.
-/

namespace EverestCore.V2G.Din

/-! ## Response codes and states -/

/-- `din_responseCodeType`, in the order of its values. -/
inductive ResponseCode
  | ok | okNewSessionEstablished | okOldSessionJoined | okCertificateExpiresSoon
  | failed | failedSequenceError | failedServiceIDInvalid | failedUnknownSession
  | failedServiceSelectionInvalid | failedPaymentSelectionInvalid | failedCertificateExpired
  | failedSignatureError | failedNoCertificateAvailable | failedCertChainError
  | failedChallengeInvalid | failedContractCanceled | failedWrongChargeParameter
  | failedPowerDeliveryNotApplied | failedTariffSelectionInvalid
  | failedChargingProfileInvalid | failedEVSEPresentVoltageToLow
  | failedMeteringSignatureNotValid | failedWrongEnergyTransferType
  deriving DecidableEq

def ResponseCode.isFailed : ResponseCode → Bool
  | .ok | .okNewSessionEstablished | .okOldSessionJoined | .okCertificateExpiresSoon => false
  | _ => true

structure Response where
  responseCode : ResponseCode := .ok
  evseProcessing : EVSEProcessing := .finished
  evseIsolationStatus : IsolationLevel := .invalid
  evseIsolationStatusIsUsed : Bool := false
  evseStatusCode : EVSEStatusCode := .notReady
  deriving DecidableEq

inductive StateId
  | waitForSessionSetup | waitForServiceDiscovery | waitForPaymentServiceSelection
  | waitForAuthorization | waitForChargeParameterDiscovery | waitForCableCheck
  | waitForPreCharge | waitForPreChargePowerDelivery | waitForCurrentDemand
  | waitForCurrentDemandPowerDelivery | waitForWeldingDetectionSessionStop
  | waitForSessionStop | waitForTerminatedSession
  deriving DecidableEq

@[simp] def StateId.id : StateId → Nat
  | .waitForSessionSetup => 0
  | .waitForServiceDiscovery => 1
  | .waitForPaymentServiceSelection => 2
  | .waitForAuthorization => 3
  | .waitForChargeParameterDiscovery => 4
  | .waitForCableCheck => 5
  | .waitForPreCharge => 6
  | .waitForPreChargePowerDelivery => 7
  | .waitForCurrentDemand => 8
  | .waitForCurrentDemandPowerDelivery => 9
  | .waitForWeldingDetectionSessionStop => 10
  | .waitForSessionStop => 11
  | .waitForTerminatedSession => 12

/-- `din_states`: the `allowed_requests` of each state. -/
def dinStates : List (List V2gMsgTypeId) :=
  [[.sessionSetup],
   [.serviceDiscovery, .sessionStop],
   [.paymentServiceSelection, .sessionStop],
   [.authorization, .sessionStop],
   [.chargeParameterDiscovery, .sessionStop],
   [.cableCheck, .sessionStop],
   [.preCharge, .sessionStop],
   [.powerDelivery, .preCharge, .sessionStop],
   [.currentDemand],
   [.currentDemand, .powerDelivery],
   [.weldingDetection, .sessionStop],
   [.sessionStop],
   []]

variable (c : Context)

/-- The bit of `allowed_requests` that `din_validate_state` reads. -/
def dinAllowed (msg : V2gMsgTypeId) : Bool :=
  (dinStates[c.state]?.getD []).contains msg

/-! ## Requests -/

structure ChargeParameterDiscoveryReq where
  evRequestedEnergyTransferType : EnergyTransferMode
  acEVChargeParameterIsUsed : Bool
  deriving DecidableEq

/-- `PowerDeliveryReq`, with the tuple id of its charging profile if that is used. -/
structure PowerDeliveryReq where
  readyToChargeState : Nat
  saScheduleTupleId : Option Int
  deriving DecidableEq

inductive Body
  | currentDemand
  | sessionSetup (rand₁ rand₂ rand₃ rand₄ : Nat)
  | serviceDiscovery
  | servicePaymentSelection (option : PaymentOption) (services : List Nat)
  | contractAuthentication
  | chargeParameterDiscovery (req : ChargeParameterDiscoveryReq)
  | cableCheck
  | preCharge
  | powerDelivery (req : PowerDeliveryReq)
  | weldingDetection
  | sessionStop
  /-- PaymentDetails, ServiceDetail, ChargingStatus, MeteringReceipt, CertificateUpdate and
  CertificateInstallation -/
  | notSupported
  | unknown
  deriving DecidableEq

structure Request where
  sessionId : Nat
  body : Body
  during : List Write := []
  late : List Write := []
  deriving DecidableEq

/-- The type `din_handle_request` records for a body it has a handler for. -/
def Body.msg : Body → V2gMsgTypeId
  | .currentDemand => .currentDemand
  | .sessionSetup _ _ _ _ => .sessionSetup
  | .serviceDiscovery => .serviceDiscovery
  | .servicePaymentSelection _ _ => .paymentServiceSelection
  | .contractAuthentication => .authorization
  | .chargeParameterDiscovery _ => .chargeParameterDiscovery
  | .cableCheck => .cableCheck
  | .preCharge => .preCharge
  | .powerDelivery _ => .powerDelivery
  | .weldingDetection => .weldingDetection
  | .sessionStop => .sessionStop
  | .notSupported | .unknown => .unknown

/-! ## Validation -/

structure Outcome where
  conn : Connection
  res : Response
  event : V2gEvent

def unknownSession : Bool :=
  c.currentV2gMsg ≠ .sessionSetup && c.sessionId ≠ c.receivedSessionId

def checkedCode (code : ResponseCode) : ResponseCode :=
  let code := if c.stopHlc || c.intlEmergencyShutdown then .failed else code
  let code := if dinAllowed c c.currentV2gMsg then code else .failedSequenceError
  if unknownSession c then .failedUnknownSession else code

def dinValidateResponseCode (code : ResponseCode) : ResponseCode × V2gEvent :=
  if c.isConnectionTerminated then (code, .terminateConnection)
  else if c.terminateConnectionOnFailedResponse && (checkedCode c code).isFailed then
    (checkedCode c code, .sendAndTerminate)
  else (checkedCode c code, .noEvent)

variable (conn : Connection)

variable (late : List Write)

/-- The end of the handlers: validate, then set the next expected request. -/
def respond (res : Response) (next : Context → StateId) :
    Outcome :=
  let c := conn.ctx.writes late
  let validated := dinValidateResponseCode c res.responseCode
  { conn := { conn with ctx := { c with state := (next c).id } }
    res := { res with responseCode := validated.1 }
    event := validated.2 }

/-! ## Handlers -/

/-- The four results of `rand()`, shifted into the 64 bits of the id. -/
def randomSessionId (rand₁ rand₂ rand₃ rand₄ : Nat) : Nat :=
  ((rand₁ <<< 48) ||| (rand₂ <<< 32) ||| (rand₃ <<< 16) ||| rand₄) % 2 ^ 64

def handleDinSessionSetup (random : Nat) (late : List Write) : Outcome :=
  let conn := conn.mapCtx fun c =>
    { c with sessionId := if c.sessionId = 0 then random else c.sessionId }
  respond conn late { responseCode := .okNewSessionEstablished } fun _ => .waitForServiceDiscovery

def correctEnergyTransferMode : Context :=
  if c.supportedEnergyTransferMode.head? = some .dcCore ∨
      c.supportedEnergyTransferMode.head? = some .dcExtended then c
  else
    { c with supportedEnergyTransferMode := .dcExtended :: c.supportedEnergyTransferMode.tail }

def handleDinServiceDiscovery : Outcome :=
  respond (conn.mapCtx correctEnergyTransferMode) late {} fun _ => .waitForPaymentServiceSelection

def handleDinServicePaymentSelection (option : PaymentOption)
    (services : List Nat) (late : List Write) : Outcome :=
  let code : ResponseCode :=
    if option ≠ .externalPayment then .failedPaymentSelectionInvalid else .ok
  let code := if services = [conn.ctx.chargeServiceId] then code else .failedServiceSelectionInvalid
  respond conn late { responseCode := code } fun _ => .waitForAuthorization

/-- `EVSEProcessing` of a phase: DIN 70121 knows finished and ongoing. -/
def dinProcessing (phase : ChargingPhase) : EVSEProcessing :=
  if c.evseProcessing phase = .finished then .finished else .ongoing

def handleDinContractAuthentication : Outcome :=
  let processing := dinProcessing conn.ctx .auth
  respond conn late { evseProcessing := processing } fun _ =>
    if processing = .ongoing then .waitForAuthorization else .waitForChargeParameterDiscovery

/-- The code of the requested transfer type and of parameters for AC. -/
def chargeParameterCode (req : ChargeParameterDiscoveryReq) : ResponseCode :=
  let requested := req.evRequestedEnergyTransferType
  let code : ResponseCode :=
    if (requested ≠ .dcCore ∧ requested ≠ .dcExtended) ∨
        c.supportedEnergyTransferMode.head? ≠ some requested then .failedWrongEnergyTransferType
    else .ok
  if req.acEVChargeParameterIsUsed then .failedWrongChargeParameter else code

def handleDinChargeParameter (req : ChargeParameterDiscoveryReq)
    (during late : List Write) : Outcome :=
  let c := conn.ctx
  let conn := conn.mapCtx (·.writes during)
  let processing := dinProcessing conn.ctx .parameter
  let res : Response :=
    { responseCode := chargeParameterCode c req
      evseProcessing := processing
      evseIsolationStatus := c.evseIsolationStatus
      evseIsolationStatusIsUsed := c.evseIsolationStatusIsUsed
      evseStatusCode := c.emergencyStatusCode .parameter }
  respond conn late res fun c =>
    if processing = .finished then
      if c.noEnergyPause = .beforeCableCheck ∨ c.noEnergyPause = .afterCableCheckPreCharge then
        .waitForSessionStop
      else .waitForCableCheck
    else .waitForChargeParameterDiscovery

def statusResponse (phase : ChargingPhase) : Response :=
  { evseIsolationStatus := c.evseIsolationStatus
    evseIsolationStatusIsUsed := c.evseIsolationStatusIsUsed
    evseStatusCode := c.emergencyStatusCode phase }

def saScheduleTupleId : Int := 1

variable (req : PowerDeliveryReq)

/-- The code of the selected schedule and of the EVSE status. -/
def powerDeliveryCode (status : EVSEStatusCode) : ResponseCode :=
  let code : ResponseCode :=
    match req.saScheduleTupleId with
    | some tupleId => if tupleId ≠ saScheduleTupleId then .failedTariffSelectionInvalid else .ok
    | none => .ok
  if req.readyToChargeState = 1 ∧ status ≠ .ready then .failedPowerDeliveryNotApplied else code

/-- What a PowerDeliveryReq publishes, before anything is checked. -/
def announceDelivery : Connection :=
  if req.readyToChargeState = 0 then
    ((conn.publish .currentDemandFinished).publish .dcOpenContactor).mapCtx
      ({ · with isCharging := false })
  else conn.publish .v2gSetupFinished

def handleDinPowerDelivery (late : List Write) :
    Outcome :=
  let conn := announceDelivery conn req
  let res := statusResponse conn.ctx .charge
  let res := { res with responseCode := powerDeliveryCode req res.evseStatusCode }
  if req.readyToChargeState = 1 ∧ conn.ctx.lastV2gMsg ≠ .currentDemand then
    respond conn late res fun _ => .waitForCurrentDemand
  else
    let out := respond conn late res fun _ => .waitForWeldingDetectionSessionStop
    -- ready to charge after the current demand phase aborts the session
    if req.readyToChargeState = 1 then
      { out with res := { out.res with responseCode := .failed }, event := .sendAndTerminate }
    else out

/-- The isolation status is used and valid, if with a warning. -/
def Response.isolated (res : Response) : Bool :=
  res.evseIsolationStatusIsUsed &&
    (res.evseIsolationStatus = .valid || res.evseIsolationStatus = .warning)

def handleDinCableCheck (during late : List Write) : Outcome :=
  let c := conn.ctx
  let conn := conn.mapCtx (·.writes during)
  let processing := dinProcessing conn.ctx .isolation
  let status :=
    if conn.ctx.intlEmergencyShutdown then .emergencyShutdown
    else if processing = .finished then .ready
    else conn.ctx.evseStatusCode .isolation
  let res : Response :=
    { evseProcessing := processing
      evseIsolationStatus := c.evseIsolationStatus
      evseIsolationStatusIsUsed := c.evseIsolationStatusIsUsed
      evseStatusCode := status }
  respond conn late res fun _ =>
    if processing = .finished ∧ res.isolated = true ∧ status = .ready then .waitForPreCharge
    else .waitForCableCheck

def handleDinPreCharge : Outcome :=
  respond conn late (statusResponse conn.ctx .precharge) fun _ => .waitForPreChargePowerDelivery

def handleDinCurrentDemand : Outcome :=
  respond conn late (statusResponse conn.ctx .charge) fun _ => .waitForCurrentDemandPowerDelivery

def handleDinWeldingDetection : Outcome :=
  respond conn late (statusResponse conn.ctx .welding) fun _ => .waitForWeldingDetectionSessionStop

def handleDinSessionStop : Outcome :=
  { respond { conn with dlinkAction := .terminate } late {} fun _ => .waitForTerminatedSession with
    event := .sendAndTerminate }

/-! ## The dispatcher -/

def announce : V2gMsgTypeId → Connection
  | .currentDemand =>
    if conn.ctx.lastV2gMsg = .powerDelivery then
      (conn.publish .currentDemandStarted).mapCtx ({ · with isCharging := true })
    else conn
  | .authorization =>
    if conn.ctx.lastV2gMsg ≠ .authorization then conn.publish .requireAuthEim else conn
  | .cableCheck =>
    if conn.ctx.lastV2gMsg = .chargeParameterDiscovery then conn.publish .startCableCheck
    else conn
  | .preCharge =>
    if conn.ctx.lastV2gMsg = .cableCheck then conn.publish .startPreCharge else conn
  | _ => conn

variable (req : Request)

/-- The handler of a body; bodies without one are ignored. -/
def handle : Outcome :=
  match req.body with
  | .currentDemand => handleDinCurrentDemand conn req.late
  | .sessionSetup rand₁ rand₂ rand₃ rand₄ =>
    handleDinSessionSetup conn (randomSessionId rand₁ rand₂ rand₃ rand₄) req.late
  | .serviceDiscovery => handleDinServiceDiscovery conn req.late
  | .servicePaymentSelection option services =>
    handleDinServicePaymentSelection conn option services req.late
  | .contractAuthentication => handleDinContractAuthentication conn req.late
  | .chargeParameterDiscovery param => handleDinChargeParameter conn param req.during req.late
  | .cableCheck => handleDinCableCheck conn req.during req.late
  | .preCharge => handleDinPreCharge conn req.late
  | .powerDelivery delivery => handleDinPowerDelivery conn delivery req.late
  | .weldingDetection => handleDinWeldingDetection conn req.late
  | .sessionStop => handleDinSessionStop conn req.late
  | .notSupported | .unknown => ⟨conn, {}, .ignoreMsg⟩

/-- The connection a handler is called with: the session id of the header is extracted and
the type of the message recorded; an unknown body leaves the recorded type. -/
def prepare : Connection :=
  let conn := { conn with
    published := [], ctx := { conn.ctx with receivedSessionId := req.sessionId } }
  match req.body with
  | .unknown => conn
  | body => announce (conn.mapCtx ({ · with currentV2gMsg := body.msg })) body.msg

def dinHandleRequest : Outcome :=
  let out := handle (prepare conn req) req
  if out.event = .ignoreMsg then out
  else { out with conn := out.conn.mapCtx fun c => { c with lastV2gMsg := c.currentV2gMsg } }

end EverestCore.V2G.Din
