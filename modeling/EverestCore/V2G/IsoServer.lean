import EverestCore.V2G.IsoMessages

/-!
# ISO 15118-2: the request handlers

`iso_server.cpp`. Every handler fills its response, lets `iso_validate_response_code`
look at it and then **sets the next state whatever the code is**; `respond` is that common
end. `iso_handle_request` publishes the signals that go by the previous message before the
handler is called.
-/

namespace EverestCore.V2G.Iso

open DcStateId

structure Outcome where
  conn : Connection
  res : Response
  event : V2gEvent

/-! ## Validation -/

variable (c : Context)

/-- The session id of the header is neither 0 nor the one of the session. -/
def unknownSession : Bool :=
  c.currentV2gMsg ≠ .sessionSetup && c.receivedSessionId ≠ 0 &&
    c.sessionId ≠ c.receivedSessionId

def checkedCode (code : ResponseCode) : ResponseCode :=
  let code := if c.stopHlc || c.intlEmergencyShutdown then .failed else code
  let code := if isoAllowed c c.currentV2gMsg then code else .failedSequenceError
  if unknownSession c then .failedUnknownSession else code

def isoValidateResponseCode (code : ResponseCode) : ResponseCode × V2gEvent :=
  if c.isConnectionTerminated then (code, .terminateConnection)
  else if c.terminateConnectionOnFailedResponse && (checkedCode c code).isFailed then
    (checkedCode c code, .sendAndTerminate)
  else (checkedCode c code, .noEvent)

variable (conn : Connection)

/-- The end of the handlers: validate, then set the next expected request. -/
def respond (res : Response) (next : Nat) : Outcome :=
  let validated := isoValidateResponseCode conn.ctx res.responseCode
  { conn := conn.mapCtx ({ · with state := next })
    res := { res with responseCode := validated.1 }
    event := validated.2 }

/-! ## Session setup and services -/

/-- `generate_random_data(&session_id, 4)` writes the lower four bytes. -/
def randomSessionId (old random : Nat) : Nat := old / 2 ^ 32 * 2 ^ 32 + random % 2 ^ 32

def handleIsoSessionSetup (random : Nat) : Outcome :=
  let c := conn.ctx
  if c.sessionId = 0 ∨ c.sessionId ≠ c.receivedSessionId then
    respond (conn.mapCtx ({ · with sessionId := randomSessionId c.sessionId random }))
      { responseCode := .okNewSessionEstablished } waitForServiceDiscovery.id
  else
    respond conn { responseCode := .okOldSessionJoined } waitForServiceDiscovery.id

/-- Contract payment is not offered without TLS. -/
def correctPaymentOptions : Connection :=
  if !conn.isTlsConnection && conn.ctx.paymentOptionList.contains .contract then
    conn.mapCtx fun c =>
      { c with
        paymentOptionList := c.paymentOptionList.set 0 .externalPayment
        paymentOptionListLen := 1 }
  else conn

def handleIsoServiceDiscovery : Outcome :=
  let conn := conn.mapCtx ({ · with chargeServiceId := serviceIdCharging })
  respond (correctPaymentOptions conn) {} waitForSvcDetailPaymentSvcSel.id

def handleIsoServiceDetail (serviceId : Nat) : Outcome :=
  let found := conn.ctx.evseServiceList.contains serviceId || serviceId = serviceIdCharging
  respond conn { responseCode := if found then .ok else .failedServiceIDInvalid }
    waitForSvcDetailPaymentSvcSel.id

def saeV2h : Nat := 28472

def saeV2g : Nat := 28473

def selectBidi (serviceId : Nat) : Context :=
  if serviceId = saeV2h then { c with enabledSaeV2h := true, enabledSaeV2g := false }
  else if serviceId = saeV2g then { c with enabledSaeV2h := false, enabledSaeV2g := true }
  else c

/-- The loop over the selected services, up to the first one that is not offered:
the context, whether the charge service was found, whether all were found. -/
def selectServices (c : Context) (charge : Bool) : List Nat → Context × Bool × Bool
  | [] => (c, charge, true)
  | serviceId :: rest =>
    if serviceId = serviceIdCharging then selectServices c true rest
    else if c.evseServiceList.contains serviceId then
      selectServices (selectBidi c serviceId) charge rest
    else (c, charge, false)

def selectionCode (listed charge all : Bool) : ResponseCode :=
  if !charge then .failedNoChargeServiceSelected
  else if !all then .failedServiceSelectionInvalid
  else if !listed then .failedPaymentSelectionInvalid
  else .ok

variable (option : PaymentOption)

def offersPayment : Bool :=
  (c.paymentOptionList.take c.paymentOptionListLen).contains option

def publishOption : Connection :=
  if offersPayment conn.ctx option then conn.publish (.selectedPaymentOption option) else conn

def handleIsoPaymentServiceSelection
    (services : List Nat) (now : Int) : Outcome :=
  let selected := selectServices conn.ctx false services
  let code := selectionCode (offersPayment conn.ctx option) selected.2.1 selected.2.2
  let res : Response := { responseCode := code }
  let conn := { publishOption conn option with ctx := selected.1 }
  match option with
  | .contract =>
    respond (conn.mapCtx ({ · with isoSelectedPaymentOption := .contract })) res
      waitForPaymentDetailsCertInstCertUpd.id
  | .externalPayment =>
    respond (conn.mapCtx fun c =>
        { c with
          evseProcessing := Function.update c.evseProcessing .auth
            .ongoingWaitingForCustomerInteraction
          authStartTimeout := now })
      res waitForAuthorization.id

/-! ## Payment details and authorization -/

/-- The eMAID without dashes and without case. -/
def normalizedEmaid (emaid : List Char) : List Char := (emaid.filter (· ≠ '-')).map Char.toLower

variable (req : PaymentDetailsReq)

/-- The checks on the contract certificate before its public key is kept. -/
def PaymentDetailsReq.leafValid : Bool :=
  req.certificateReceived && normalizedEmaid req.emaid = normalizedEmaid req.certEmaid &&
    req.certificateParsed

/-- A verdict that the CSMS may overrule. -/
def forwarded (code : ResponseCode) : ResponseCode :=
  if c.centralContractValidationAllowed then .ok else code

/-- The local verification of the chain. -/
def verifyCode : VerifyResult → ResponseCode
  | .verified => .ok
  | .certificateExpired => .failedCertificateExpired
  | .certificateRevoked => forwarded c .failedCertificateRevoked
  | .noCertificateAvailable => forwarded c .failedNoCertificateAvailable
  | .certificateNotAllowed => forwarded c .failedCertificateNotAllowedAtThisEVSE
  | .certChainError => .failedCertChainError

/-- The checks after the public key has been kept. -/
def chainCode : ResponseCode :=
  if req.publicKey.isNone || !req.subCertificatesLoaded then .failedCertChainError
  else if c.verifyContractCertChain then verifyCode c req.verifyResult
  else .ok

def acceptContract : Connection :=
  { conn with
    challengeIssued := true
    ctx := { conn.ctx with
      genChallenge := req.random
      providedIdToken := some (req.certEmaid.filter (· ≠ '-')) } }

def handleIsoPaymentDetails (now : Int) :
    Outcome :=
  let conn := conn.mapCtx ({ · with authStartTimeout := now })
  let next := waitForAuthorization.id
  if conn.ctx.isoSelectedPaymentOption ≠ .contract then
    respond conn { responseCode := .failed } next
  else if !req.leafValid then respond conn { responseCode := .failedCertChainError } next
  else
    let conn := { conn with pubkey := req.publicKey }
    let code := chainCode conn.ctx req
    if code = .ok then respond (acceptContract conn req) {} next
    else respond conn { responseCode := code } next

variable (req : AuthorizationReq)

def challengeValid : Bool :=
  match req.genChallenge with
  | none => false
  | some challenge => challenge.length = 16 && challenge = c.genChallenge

/-- `check_iso2_signature`; without a public key nothing is accepted. -/
def checkIso2Signature : Bool :=
  match conn.pubkey with
  | none => false
  | some key => req.signatureIsUsed && req.signatureVerifies key

/-- The timeout of the selected payment option, in seconds; 0 waits forever. -/
def authTimeout : Int :=
  if c.isoSelectedPaymentOption = .contract then c.authTimeoutPnc else c.authTimeoutEim

/-- The timeout or the verdict of the authorization, on the second read of
`evse_processing`. -/
def authorizationVerdict (now : Int) : Context × ResponseCode :=
  if c.evseProcessing .auth ≠ .finished then
    if authTimeout c ≠ 0 ∧ 1000 * authTimeout c ≤ now - c.authStartTimeout then
      ({ c with authStartTimeout := now }, .failed)
    else (c, .ok)
  else if c.authorizationRejected then
    (c, if c.certificateStatus = .certificateRevoked then .failedCertificateRevoked
        else .failed)
  else (c, .ok)

/-- `error_out` of `handle_iso_authorization`. -/
def respondAuthorization (res : Response) : Outcome :=
  respond conn res
    (if res.evseProcessing = .finished then waitForChargeParameterDiscovery.id
     else waitForAuthorization.id)

def authorizationStatus (now : Int) (during : List Write) : Outcome :=
  let processing := conn.ctx.evseProcessing .auth
  let verdict := authorizationVerdict (conn.ctx.writes during) now
  respondAuthorization { conn with ctx := verdict.1 }
    { responseCode := verdict.2, evseProcessing := processing }

/-- The first request of a contract has to prove the possession of its key. -/
def needsProof : Bool :=
  c.lastV2gMsg ≠ .authorization && c.isoSelectedPaymentOption = .contract

def handleIsoAuthorization (now : Int)
    (during : List Write) : Outcome :=
  if !needsProof conn.ctx then authorizationStatus conn now during
  else if !challengeValid conn.ctx req then
    respondAuthorization conn { responseCode := .failedChallengeInvalid }
  else if !checkIso2Signature conn req then
    respondAuthorization conn { responseCode := .failedSignatureError }
  else
    let conn :=
      { conn with signatureAccepted := conn.signatureAccepted || conn.challengeIssued }
    match conn.ctx.providedIdToken with
    | none => respondAuthorization conn { responseCode := .failed }
    | some emaid =>
      authorizationStatus
        ((conn.publish (.requireAuthPnc emaid)).mapCtx ({ · with providedIdToken := none }))
        now during

/-! ## Charge parameters -/

variable (req : ChargeParameterDiscoveryReq)

/-- The vehicle-to-home handshake takes two requests. -/
def v2hParameter (res : Response) :
    Context × Response :=
  if !c.enabledSaeV2h then (c, res)
  else if c.firstReq then ({ c with firstReq := false }, { res with evseProcessing := .ongoing })
  else
    let negative := req.bulkSOCIsUsed && req.evMaximumCurrentLimit.value < 0 &&
      req.evMaximumPowerLimitIsUsed && req.evMaximumPowerLimit.value < 0
    ({ c with firstReq := true },
      { responseCode := if negative then res.responseCode else .failedWrongEnergyTransferMode
        evseProcessing := .finished })

def wrongDcParameter : Bool :=
  req.acEVChargeParameterIsUsed ||
    (!c.enabledSaeV2h && (req.evMaximumCurrentLimit.value < 0 ||
      req.evMaximumPowerLimit.value < 0 || req.evMaximumVoltageLimit.value < 0)) ||
    req.evMaximumCurrentLimit.amount < c.evseMinimumCurrentLimit.amount ||
    req.evMaximumVoltageLimit.amount < c.evseMinimumVoltageLimit.amount

def handleIsoChargeParameterDiscovery : Outcome :=
  let c := { conn.ctx with renegotiationRequired := false }
  let supported := c.supportedEnergyTransferMode.contains req.requestedEnergyTransferMode
  let res : Response :=
    { responseCode := if supported then .ok else .failedWrongEnergyTransferMode
      evseProcessing := if c.evseProcessing .parameter = .finished then .finished else .ongoing }
  if c.isDcCharger then
    let (c, res) := v2hParameter c req res
    let res := if wrongDcParameter c req then
      { res with responseCode := .failedWrongChargeParameter } else res
    respond { conn with ctx := c } res
      (if c.noEnergyPause = .beforeCableCheck then waitForPreChargePowerDelivery.id
       else if res.evseProcessing = .finished then waitForCableCheck.id
       else waitForChargeParameterDiscovery.id)
  else
    let res := if req.dcEVChargeParameterIsUsed then
      { res with responseCode := .failedWrongChargeParameter } else res
    respond { conn with ctx := c } res
      (if res.evseProcessing = .finished then AcStateId.waitForPowerDelivery.id
       else AcStateId.waitForChargeParameterDiscovery.id)

/-! ## Power delivery -/

def contactorWaitEnds : Bool :=
  c.contactorIsClosed || c.intlEmergencyShutdown || c.stopHlc || c.isConnectionTerminated

variable (req : PowerDeliveryReq)

variable (during : List Write)

/-- `ChargeProgress` start: the setup is finished, and an AC charger closes its contactor
and waits for it. -/
def startDelivery :
    Connection × ResponseCode :=
  let pause := conn.ctx.noEnergyPause = .afterCableCheckPreCharge ∨
    conn.ctx.noEnergyPause = .beforeCableCheck
  let conn := conn.publish .v2gSetupFinished
  if !conn.ctx.isDcCharger then
    if conn.ctx.contactorIsClosed then (conn, .ok)
    else
      let conn := (conn.publish .acCloseContactor).mapCtx fun c =>
        { c with isCharging := true }.writes during
      (conn, if req.timedOut || !contactorWaitEnds conn.ctx then .failedContactorError else .ok)
  else if pause then
    ((conn.publish .dcOpenContactor).mapCtx ({ · with isCharging := false }), .failed)
  else (conn, .ok)

def stopDelivery : Connection :=
  let conn := conn.mapCtx ({ · with isCharging := false })
  if !conn.ctx.isDcCharger then conn.publish .acOpenContactor
  else (conn.publish .currentDemandFinished).publish .dcOpenContactor

def progressDelivery :
    Connection × ResponseCode :=
  match req.chargeProgress with
  | .start => startDelivery conn req during
  | .stop => (stopDelivery conn, .ok)
  | .renegotiate => (conn.mapCtx ({ · with renegotiationRequired := true }), .ok)
  | .unknown => (conn, .failed)

def afterChargingLoop : Bool :=
  c.lastV2gMsg = .currentDemand || c.lastV2gMsg = .chargingStatus

/-- The checks of `handle_iso_power_delivery` between the switch and the validation. -/
def deliveryCode (code : ResponseCode) : ResponseCode :=
  let code := if c.isDcCharger ∧ req.chargeProgress = .start ∧
    c.emergencyStatusCode .charge ≠ .ready then .failedPowerDeliveryNotApplied else code
  let code := if c.saScheduleTupleIds.contains req.saScheduleTupleId then code
    else .failedTariffSelectionInvalid
  let code := if code = .ok ∧ req.chargingProfileInvalid then .failedChargingProfileInvalid
    else code
  if (req.chargeProgress = .start ∧ afterChargingLoop c) ∨
    (req.chargeProgress = .renegotiate ∧ !afterChargingLoop c) then .failed else code

def keepTuple (tupleId : Nat) : Context :=
  if c.saScheduleTupleIds.contains tupleId then { c with saScheduleTupleId := tupleId } else c

def resetIsolation : Context :=
  if c.isDcCharger then
    { c with
      evseProcessing := Function.update c.evseProcessing .isolation .ongoing
      evseIsolationStatus := .invalid }
  else c

def handleIsoPowerDelivery : Outcome :=
  let (conn, code) := progressDelivery conn req during
  let conn := conn.mapCtx (keepTuple · req.saScheduleTupleId)
  let c := conn.ctx
  let res : Response := { responseCode := deliveryCode c req code }
  if req.chargeProgress = .renegotiate ∧ afterChargingLoop c then
    let out := respond conn res waitForChargeParameterDiscovery.id
    { out with conn := out.conn.mapCtx resetIsolation }
  else if req.chargeProgress = .start ∧ !afterChargingLoop c then
    respond conn res
      (if c.isDcCharger then waitForCurrentDemand.id
       else AcStateId.waitForChargingStatus.id)
  else
    respond conn res
      (if c.isDcCharger then waitForWeldingDetectionSessionStop.id
       else AcStateId.waitForSessionStop.id)

/-! ## The charging loop -/

def receiptAsked : Bool :=
  c.isoSelectedPaymentOption = .contract && c.receiptRequired

def handleIsoChargingStatus : Outcome :=
  respond conn {}
    (if receiptAsked conn.ctx then AcStateId.waitForMeteringReceipt.id
     else AcStateId.waitForChargingStatusPowerDelivery.id)

def handleIsoMeteringReceipt : Outcome :=
  respond conn {}
    (if conn.ctx.isDcCharger then waitForCurrentDemandPowerDelivery.id
     else AcStateId.waitForChargingStatusPowerDelivery.id)

/-- CertificateUpdate is not implemented: no check, no code, no state. -/
def handleIsoCertificateUpdate : Outcome := ⟨conn, {}, .noEvent⟩

/-- The conditions under which the wait for the certificate goes on. -/
def certificateAwaited : Bool :=
  c.certInstallResB64Buffer.isEmpty && !c.intlEmergencyShutdown && !c.stopHlc &&
    !c.isConnectionTerminated

/-- The wait for the certificate; its timeout is an emergency shutdown. -/
def awaitCertificate (timedOut : Bool) (during : List Write) : Context :=
  if !certificateAwaited c then c
  else
    let c := c.writes during
    if timedOut || certificateAwaited c then { c with intlEmergencyShutdown := true } else c

def handleIsoCertificateInstallation (req : CertificateInstallationReq)
    (during : List Write) : Outcome :=
  let next := waitForPaymentDetails.id
  if !req.published then respond conn {} next
  else
    let conn := conn.mapCtx (awaitCertificate · req.timedOut during)
    if !conn.ctx.certInstallResB64Buffer.isEmpty && conn.ctx.certInstallStatus then
      if req.decoded then
        -- the answer is sent as it is, without validation
        { conn := conn.mapCtx ({ · with state := next }), res := {}, event := .sendRecvExiMsg }
      else respond conn {} next
    else respond conn { responseCode := .failed } next

def handleIsoCableCheck : Outcome :=
  let processing := conn.ctx.evseProcessing .isolation
  respond conn { evseProcessing := processing }
    (if processing = .finished then waitForPreCharge.id
     else waitForCableCheck.id)

def handleIsoPreCharge : Outcome :=
  respond conn {} waitForPreChargePowerDelivery.id

def handleIsoCurrentDemand : Outcome :=
  respond conn {}
    (if receiptAsked conn.ctx then waitForMeteringReceipt.id
     else waitForCurrentDemandPowerDelivery.id)

def handleIsoWeldingDetection : Outcome :=
  respond conn {} waitForWeldingDetectionSessionStop.id

/-- A pause is only allowed after power delivery or welding detection. -/
def pauseAllowed : Bool :=
  c.lastV2gMsg = .powerDelivery || c.lastV2gMsg = .weldingDetection

def handleIsoSessionStop (chargingSession : ChargingSession) : Outcome :=
  let code := (isoValidateResponseCode conn.ctx .ok).1
  let terminated := waitForTerminatedSession.id
  match chargingSession with
  | .terminate =>
    { conn := { conn with
        dlinkAction := .terminate
        ctx := { conn.ctx with hlcPauseActive := false, state := terminated } }
      res := { responseCode := code }, event := .sendAndTerminate }
  | .pause =>
    if pauseAllowed conn.ctx then
      { conn := { conn with
          dlinkAction := .pause
          ctx := { conn.ctx with
            hlcPauseActive := true, state := waitForSessionSetup.id } }
        res := { responseCode := code }, event := .sendAndTerminate }
    else
      { conn := { conn with
          dlinkAction := .terminate
          ctx := { conn.ctx with hlcPauseActive := false, state := terminated } }
        res := { responseCode := .failed }, event := .sendAndTerminate }
  | .unknown =>
    { conn := { conn with
        dlinkAction := .terminate, ctx := { conn.ctx with state := terminated } }
      res := { responseCode := code }, event := .sendAndTerminate }

/-! ## The dispatcher -/

def announce : V2gMsgTypeId → Connection
  | .currentDemand =>
    if conn.ctx.lastV2gMsg = .powerDelivery then
      (conn.publish .currentDemandStarted).mapCtx ({ · with isCharging := true })
    else conn
  | .authorization =>
    if conn.ctx.lastV2gMsg ≠ .authorization ∧
      conn.ctx.isoSelectedPaymentOption = .externalPayment then conn.publish .requireAuthEim
    else conn
  | .cableCheck =>
    if conn.ctx.lastV2gMsg = .chargeParameterDiscovery then conn.publish .startCableCheck
    else conn
  | .preCharge =>
    if conn.ctx.lastV2gMsg = .cableCheck then conn.publish .startPreCharge else conn
  | _ => conn

variable (req : Request)

def handle : Outcome :=
  match req.body with
  | .currentDemand => handleIsoCurrentDemand conn
  | .sessionSetup random => handleIsoSessionSetup conn random
  | .serviceDiscovery => handleIsoServiceDiscovery conn
  | .serviceDetail serviceId => handleIsoServiceDetail conn serviceId
  | .paymentServiceSelection option services =>
    handleIsoPaymentServiceSelection conn option services req.now
  | .paymentDetails details => handleIsoPaymentDetails conn details req.now
  | .authorization auth => handleIsoAuthorization conn auth req.now req.during
  | .chargeParameterDiscovery params => handleIsoChargeParameterDiscovery conn params
  | .powerDelivery delivery => handleIsoPowerDelivery conn delivery req.during
  | .chargingStatus => handleIsoChargingStatus conn
  | .meteringReceipt => handleIsoMeteringReceipt conn
  | .certificateUpdate => handleIsoCertificateUpdate conn
  | .certificateInstallation cert => handleIsoCertificateInstallation conn cert req.during
  | .cableCheck => handleIsoCableCheck conn
  | .preCharge => handleIsoPreCharge conn
  | .weldingDetection => handleIsoWeldingDetection conn
  | .sessionStop chargingSession => handleIsoSessionStop conn chargingSession
  | .unknown => ⟨conn, {}, .ignoreMsg⟩

/-- The session id of the header is extracted; nothing has been published yet. -/
def receive : Connection :=
  { conn with published := [], ctx := { conn.ctx with receivedSessionId := req.sessionId } }

def setCurrentMsg (msg : V2gMsgTypeId) : Connection :=
  conn.mapCtx ({ · with currentV2gMsg := msg })

def prepare : Connection :=
  match req.body with
  | .unknown => receive conn req
  | body => announce (setCurrentMsg (receive conn req) body.msg) body.msg

def noteLastMsg (out : Outcome) : Outcome :=
  { out with conn := out.conn.mapCtx fun c => { c with lastV2gMsg := c.currentV2gMsg } }

/-- `iso_handle_request`. The event that keeps the last message, `V2G_EVENT_IGNORE_MSG`, is
that of unknown bodies; no handler returns it. -/
def isoHandleRequest : Outcome :=
  match req.body with
  | .unknown => handle (prepare conn req) req
  | _ => noteLastMsg (handle (prepare conn req) req)

end EverestCore.V2G.Iso
