import EverestCore.V2G.Context

/-!
# ISO 15118-2: states, requests and response codes

The state ids and the tables `iso_ac_states` and `iso_dc_states` of `iso_server.hpp`, and
the decoded requests.

What the crypto library makes of certificates and signatures is part of the request.
-/

namespace EverestCore.V2G.Iso

/-! ## Response codes -/

/-- `iso2_responseCodeType`, in the order of its values. -/
inductive ResponseCode
  | ok | okNewSessionEstablished | okOldSessionJoined | okCertificateExpiresSoon
  | failed | failedSequenceError | failedServiceIDInvalid | failedUnknownSession
  | failedServiceSelectionInvalid | failedPaymentSelectionInvalid | failedCertificateExpired
  | failedSignatureError | failedNoCertificateAvailable | failedCertChainError
  | failedChallengeInvalid | failedContractCanceled | failedWrongChargeParameter
  | failedPowerDeliveryNotApplied | failedTariffSelectionInvalid
  | failedChargingProfileInvalid | failedMeteringSignatureNotValid
  | failedNoChargeServiceSelected | failedWrongEnergyTransferMode | failedContactorError
  | failedCertificateNotAllowedAtThisEVSE | failedCertificateRevoked
  deriving DecidableEq

def ResponseCode.isFailed : ResponseCode → Bool
  | .ok | .okNewSessionEstablished | .okOldSessionJoined | .okCertificateExpiresSoon => false
  | _ => true

/-- The fields of a response that decide about the session. The document is zeroed before
it is filled, so an error path leaves `EVSEProcessing` finished. -/
structure Response where
  responseCode : ResponseCode := .ok
  evseProcessing : EVSEProcessing := .finished
  deriving DecidableEq

/-! ## State ids -/

inductive AcStateId
  | waitForSessionSetup | waitForServiceDiscovery | waitForSvcDetailPaymentSvcSel
  | waitForPaymentDetailsCertInstCertUpd | waitForPaymentDetails | waitForAuthorization
  | waitForChargeParameterDiscovery | waitForPowerDelivery | waitForChargingStatus
  | waitForChargingStatusPowerDelivery | waitForMeteringReceipt | waitForSessionStop
  | waitForTerminatedSession
  deriving DecidableEq

inductive DcStateId
  | waitForSessionSetup | waitForServiceDiscovery | waitForSvcDetailPaymentSvcSel
  | waitForPaymentDetailsCertInstCertUpd | waitForPaymentDetails | waitForAuthorization
  | waitForChargeParameterDiscovery | waitForCableCheck | waitForPreCharge
  | waitForPreChargePowerDelivery | waitForCurrentDemandPowerDelivery | waitForCurrentDemand
  | waitForMeteringReceipt | waitForWeldingDetectionSessionStop | waitForTerminatedSession
  deriving DecidableEq

@[simp] def AcStateId.id : AcStateId → Nat
  | .waitForSessionSetup => 0
  | .waitForServiceDiscovery => 1
  | .waitForSvcDetailPaymentSvcSel => 2
  | .waitForPaymentDetailsCertInstCertUpd => 3
  | .waitForPaymentDetails => 4
  | .waitForAuthorization => 5
  | .waitForChargeParameterDiscovery => 6
  | .waitForPowerDelivery => 7
  | .waitForChargingStatus => 8
  | .waitForChargingStatusPowerDelivery => 9
  | .waitForMeteringReceipt => 10
  | .waitForSessionStop => 11
  | .waitForTerminatedSession => 12

@[simp] def DcStateId.id : DcStateId → Nat
  | .waitForSessionSetup => 0
  | .waitForServiceDiscovery => 1
  | .waitForSvcDetailPaymentSvcSel => 2
  | .waitForPaymentDetailsCertInstCertUpd => 3
  | .waitForPaymentDetails => 4
  | .waitForAuthorization => 5
  | .waitForChargeParameterDiscovery => 6
  | .waitForCableCheck => 7
  | .waitForPreCharge => 8
  | .waitForPreChargePowerDelivery => 9
  | .waitForCurrentDemandPowerDelivery => 10
  | .waitForCurrentDemand => 11
  | .waitForMeteringReceipt => 12
  | .waitForWeldingDetectionSessionStop => 13
  | .waitForTerminatedSession => 14

/-- `iso_ac_states`: the `allowed_requests` of each state. -/
def isoAcStates : List (List V2gMsgTypeId) :=
  [[.sessionSetup],
   [.serviceDiscovery, .sessionStop],
   [.serviceDetail, .paymentServiceSelection, .sessionStop],
   [.paymentDetails, .certificateInstallation, .certificateUpdate, .sessionStop],
   [.paymentDetails, .sessionStop],
   [.authorization, .sessionStop],
   [.chargeParameterDiscovery, .sessionStop],
   [.powerDelivery, .sessionStop],
   [.chargingStatus],
   [.chargingStatus, .powerDelivery],
   [.meteringReceipt],
   [.sessionStop],
   []]

/-- `iso_dc_states`: the `allowed_requests` of each state. -/
def isoDcStates : List (List V2gMsgTypeId) :=
  [[.sessionSetup],
   [.serviceDiscovery, .sessionStop],
   [.serviceDetail, .paymentServiceSelection, .sessionStop],
   [.paymentDetails, .authorization, .certificateInstallation, .certificateUpdate,
    .sessionStop],
   [.paymentDetails, .sessionStop],
   [.authorization, .sessionStop],
   [.chargeParameterDiscovery, .sessionStop],
   [.cableCheck, .sessionStop],
   [.preCharge, .sessionStop],
   [.preCharge, .powerDelivery, .sessionStop],
   [.currentDemand, .powerDelivery],
   [.currentDemand],
   [.meteringReceipt],
   [.weldingDetection, .sessionStop],
   []]

/-- The bit of `allowed_requests` that `iso_validate_state` reads. The handlers write DC
state ids on AC chargers as well, and two of them lie behind the end of the AC table. -/
def isoAllowed (c : Context) (msg : V2gMsgTypeId) : Bool :=
  if c.isDcCharger then (isoDcStates[c.state]?.getD []).contains msg
  else
    match isoAcStates[c.state]? with
    | some allowed => allowed.contains msg
    | none => c.behindAcStates msg

/-! ## Requests -/

inductive VerifyResult
  | verified | certificateExpired | certificateRevoked | noCertificateAvailable
  | certificateNotAllowed | certChainError
  deriving DecidableEq

/-- `PaymentDetailsReq`, with what the crypto library makes of its certificates. -/
structure PaymentDetailsReq where
  emaid : List Char
  /-- `Certificate.bytesLen` is not zero -/
  certificateReceived : Bool
  /-- `parse_contract_certificate` succeeds -/
  certificateParsed : Bool
  /-- `getEmaidFromContractCert` -/
  certEmaid : List Char
  /-- `certificate_public_key` -/
  publicKey : Option Nat
  /-- every sub certificate can be loaded -/
  subCertificatesLoaded : Bool
  /-- `verify_certificate` -/
  verifyResult : VerifyResult
  /-- the bytes `generate_random_data` delivers -/
  random : List UInt8
  deriving DecidableEq

structure AuthorizationReq where
  genChallenge : Option (List UInt8)
  signatureIsUsed : Bool
  /-- what `check_iso2_signature` says of the signature under a public key -/
  signatureVerifies : Nat → Bool

structure ChargeParameterDiscoveryReq where
  requestedEnergyTransferMode : EnergyTransferMode
  acEVChargeParameterIsUsed : Bool
  dcEVChargeParameterIsUsed : Bool
  evMaximumCurrentLimit : PhysicalValue
  evMaximumPowerLimit : PhysicalValue
  evMaximumPowerLimitIsUsed : Bool
  evMaximumVoltageLimit : PhysicalValue
  bulkSOCIsUsed : Bool
  deriving DecidableEq

/-- `iso2_chargeProgressType`; `unknown` is any other value. -/
inductive ChargeProgress
  | start | stop | renegotiate | unknown
  deriving DecidableEq

structure PowerDeliveryReq where
  chargeProgress : ChargeProgress
  saScheduleTupleId : Nat
  /-- `check_iso2_charging_profile_values` finds a power above the schedule -/
  chargingProfileInvalid : Bool
  /-- the wait for the contactor runs into its timeout -/
  timedOut : Bool
  deriving DecidableEq

/-- `CertificateInstallationReq`: how the exchange over the extensions interface goes. -/
structure CertificateInstallationReq where
  /-- `publish_iso_certificate_installation_exi_req` succeeds -/
  published : Bool
  /-- the wait for the response runs into its timeout -/
  timedOut : Bool
  /-- the response is base64 of a length that fits the buffer -/
  decoded : Bool
  deriving DecidableEq

/-- `iso2_chargingSessionType`; `unknown` is any other value. -/
inductive ChargingSession
  | terminate | pause | unknown
  deriving DecidableEq

inductive Body
  | currentDemand
  | sessionSetup (random : Nat)
  | serviceDiscovery
  | serviceDetail (serviceId : Nat)
  | paymentServiceSelection (option : PaymentOption) (services : List Nat)
  | paymentDetails (req : PaymentDetailsReq)
  | authorization (req : AuthorizationReq)
  | chargeParameterDiscovery (req : ChargeParameterDiscoveryReq)
  | powerDelivery (req : PowerDeliveryReq)
  | chargingStatus
  | meteringReceipt
  | certificateUpdate
  | certificateInstallation (req : CertificateInstallationReq)
  | cableCheck
  | preCharge
  | weldingDetection
  | sessionStop (chargingSession : ChargingSession)
  | unknown

/-- A decoded request: the session id of its header and its body, the time at which it is
handled, and the writes of the charger that fall into the handling of a request that waits
or reads a value twice. -/
structure Request where
  sessionId : Nat
  body : Body
  now : Int := 0
  during : List Write := []

/-- The type `iso_handle_request` records for a body. -/
def Body.msg : Body → V2gMsgTypeId
  | .currentDemand => .currentDemand
  | .sessionSetup _ => .sessionSetup
  | .serviceDiscovery => .serviceDiscovery
  | .serviceDetail _ => .serviceDetail
  | .paymentServiceSelection _ _ => .paymentServiceSelection
  | .paymentDetails _ => .paymentDetails
  | .authorization _ => .authorization
  | .chargeParameterDiscovery _ => .chargeParameterDiscovery
  | .powerDelivery _ => .powerDelivery
  | .chargingStatus => .chargingStatus
  | .meteringReceipt => .meteringReceipt
  | .certificateUpdate => .certificateUpdate
  | .certificateInstallation _ => .certificateInstallation
  | .cableCheck => .cableCheck
  | .preCharge => .preCharge
  | .weldingDetection => .weldingDetection
  | .sessionStop _ => .sessionStop
  | .unknown => .unknown

end EverestCore.V2G.Iso
