import Mathlib.Algebra.Ring.Int.Defs
import Mathlib.Algebra.Ring.Nat
import Mathlib.Logic.Function.Basic

/-!
# The V2G context

One `v2g_context` is shared by every connection of a charging port, by the request
handlers of both protocols and by the charger, whose commands run in other threads.

Left out are the values that only fill response messages (EVSE id, meter, present
values, notification) and the texts of the log.
-/

namespace EverestCore.V2G

/-! ## Enumerations -/

/-- `v2g_event`: what the connection loop does after a request. -/
inductive V2gEvent
  | noEvent | terminateConnection | sendAndTerminate | sendRecvExiMsg | ignoreMsg
  deriving DecidableEq

/-- Events after which the connection loop receives no further request. -/
def V2gEvent.closes : V2gEvent → Bool
  | .terminateConnection | .sendAndTerminate => true
  | _ => false

inductive V2gMsgTypeId
  | supportedAppProtocol | sessionSetup | serviceDiscovery | serviceDetail
  | paymentServiceSelection | paymentDetails | authorization | chargeParameterDiscovery
  | meteringReceipt | certificateUpdate | certificateInstallation | chargingStatus
  | cableCheck | preCharge | powerDelivery | currentDemand | weldingDetection | sessionStop
  | unknown
  deriving DecidableEq

inductive ChargingPhase
  | init | auth | parameter | isolation | precharge | charge | welding | stop
  deriving DecidableEq

/-- `iso2_EVSEProcessingType`; the value 0 is `finished`. -/
inductive EVSEProcessing
  | finished | ongoing | ongoingWaitingForCustomerInteraction
  deriving DecidableEq

inductive EVSEStatusCode
  | notReady | ready | shutdown | utilityInterruptEvent | isolationMonitoringActive
  | emergencyShutdown | malfunction
  deriving DecidableEq

inductive IsolationLevel
  | invalid | valid | warning | fault | noIMD
  deriving DecidableEq

inductive PaymentOption
  | contract | externalPayment
  deriving DecidableEq

/-- `iso2_EnergyTransferModeType`; DIN 70121 numbers its transfer types alike. -/
inductive EnergyTransferMode
  | acSinglePhaseCore | acThreePhaseCore | dcCore | dcExtended | dcComboCore | dcUnique
  deriving DecidableEq

inductive NoEnergyPauseStatus
  | none | allowEvToIgnorePause | afterCableCheckPreCharge | beforeCableCheck
  deriving DecidableEq

inductive CertificateStatus
  | accepted | signatureError | certificateExpired | certificateRevoked
  | noCertificateAvailable | certChainError | contractCancelled
  deriving DecidableEq

/-- `mqtt_dlink_action`: what is signalled when the connection is closed. -/
inductive MqttDlinkAction
  | error | terminate | pause
  deriving DecidableEq

/-- The variables of `p_charger` that start, stop or authorize charging. -/
inductive Signal
  | currentDemandStarted | currentDemandFinished | v2gSetupFinished
  | startCableCheck | startPreCharge
  | acCloseContactor | acOpenContactor | dcOpenContactor
  | requireAuthEim | requireAuthPnc (emaid : List Char)
  | selectedPaymentOption (option : PaymentOption)
  | dlinkTerminate | dlinkPause
  deriving DecidableEq

structure PhysicalValue where
  value : Int
  multiplier : Int := 0
  deriving DecidableEq

/-- `calc_physical_value`, in thousandths: multipliers are not below -3. -/
def PhysicalValue.amount (p : PhysicalValue) : Int :=
  p.value * 10 ^ (p.multiplier + 3).toNat

/-! ## The context -/

structure Context where
  lastV2gMsg : V2gMsgTypeId := .unknown
  currentV2gMsg : V2gMsgTypeId := .unknown
  state : Nat := 0
  isDcCharger : Bool := true
  intlEmergencyShutdown : Bool := false
  stopHlc : Bool := false
  isConnectionTerminated : Bool := false
  terminateConnectionOnFailedResponse : Bool := false
  contactorIsClosed : Bool := false
  hlcPauseActive : Bool := false
  connectionInitiated : Bool := false
  /-- `evse_v2g_data` -/
  sessionId : Nat := 0
  evseIsolationStatus : IsolationLevel := .invalid
  evseIsolationStatusIsUsed : Bool := true
  evseStatusCode : ChargingPhase → EVSEStatusCode := fun _ => .notReady
  evseProcessing : ChargingPhase → EVSEProcessing := fun _ => .ongoing
  supportedEnergyTransferMode : List EnergyTransferMode := [.acSinglePhaseCore]
  chargeServiceId : Nat := 1
  evseServiceList : List Nat := []
  saScheduleTupleIds : List Nat := [1]
  /-- an array of two, of which `payment_option_list_len` are announced -/
  paymentOptionList : List PaymentOption := [.externalPayment, .contract]
  paymentOptionListLen : Nat := 1
  centralContractValidationAllowed : Bool := false
  certInstallStatus : Bool := false
  certInstallResB64Buffer : List Char := []
  receiptRequired : Bool := false
  evseMinimumCurrentLimit : PhysicalValue := { value := 0 }
  evseMinimumVoltageLimit : PhysicalValue := { value := 0 }
  enabledSaeV2h : Bool := false
  enabledSaeV2g : Bool := false
  noEnergyPause : NoEnergyPauseStatus := .none
  /-- `session` -/
  isoSelectedPaymentOption : PaymentOption := .externalPayment
  authStartTimeout : Int := 0
  authTimeoutEim : Int := 0
  authTimeoutPnc : Int := 0
  genChallenge : List UInt8 := List.replicate 16 0
  verifyContractCertChain : Bool := true
  certificateStatus : CertificateStatus := .accepted
  authorizationRejected : Bool := false
  providedIdToken : Option (List Char) := none
  renegotiationRequired : Bool := false
  isCharging : Bool := false
  saScheduleTupleId : Nat := 0
  /-- `ev_v2g_data` -/
  receivedSessionId : Nat := 0
  /-- the static variables `initialize_once` of `v2g_ctx_init_charging_values` and
  `first_req` of `handle_iso_charge_parameter_discovery` -/
  initializeOnce : Bool := false
  firstReq : Bool := true
  /-- what is read behind the end of `iso_ac_states` -/
  behindAcStates : V2gMsgTypeId → Bool := fun _ => false

/-- The single writes of the charger's commands, which run in other threads. A command
that writes several fields is several of them. -/
inductive Write
  | evseProcessing (phase : ChargingPhase) (value : EVSEProcessing)
  | authorizationRejected (value : Bool)
  | certificateStatus (value : CertificateStatus)
  | evseIsolationStatus (value : IsolationLevel)
  | evseStatusCode (phase : ChargingPhase) (value : EVSEStatusCode)
  | contactorIsClosed (value : Bool)
  | receiptRequired (value : Bool)
  | noEnergyPause (value : NoEnergyPauseStatus)
  | certInstallRes (buffer : List Char) (status : Bool)
  | stopHlc (value : Bool)
  | intlEmergencyShutdown
  | connectionTerminated
  deriving DecidableEq

variable (c : Context)

def Context.write : Write → Context
  | .evseProcessing phase value =>
    { c with evseProcessing := Function.update c.evseProcessing phase value }
  | .authorizationRejected value => { c with authorizationRejected := value }
  | .certificateStatus value => { c with certificateStatus := value }
  | .evseIsolationStatus value =>
    { c with evseIsolationStatus := value, evseIsolationStatusIsUsed := true }
  | .evseStatusCode phase value =>
    { c with evseStatusCode := Function.update c.evseStatusCode phase value }
  | .contactorIsClosed value => { c with contactorIsClosed := value }
  | .receiptRequired value => { c with receiptRequired := value }
  | .noEnergyPause value => { c with noEnergyPause := value }
  | .certInstallRes buffer status =>
    { c with certInstallResB64Buffer := buffer, certInstallStatus := status }
  | .stopHlc value => { c with stopHlc := value }
  | .intlEmergencyShutdown => { c with intlEmergencyShutdown := true }
  | .connectionTerminated => { c with isConnectionTerminated := true }

/-- The writes that fall into one stretch of a handler. -/
def Context.writes (during : List Write) : Context := during.foldl Context.write c

theorem Context.writes_of_write {α : Type} {f : Context → α} (h : ∀ c w, f (c.write w) = f c)
    (c : Context) (during : List Write) : f (c.writes during) = f c := by
  induction during generalizing c with
  | nil => rfl
  | cons w rest ih => exact (ih (c.write w)).trans (h c w)

theorem Context.writes_comm {f : Context → Context} (h : ∀ c w, (f c).write w = f (c.write w))
    (c : Context) (during : List Write) : (f c).writes during = f (c.writes during) := by
  induction during generalizing c with
  | nil => rfl
  | cons w rest ih =>
    show ((f c).write w).writes rest = _
    rw [h, ih]
    rfl

def Context.emergencyStatusCode (phase : ChargingPhase) : EVSEStatusCode :=
  if c.intlEmergencyShutdown then .emergencyShutdown else c.evseStatusCode phase

/-! ## Initialisation -/

def v2gCtxInitChargingState (isConnectionTerminated : Bool) : Context :=
  { c with
    stopHlc := false
    intlEmergencyShutdown := false
    isConnectionTerminated := isConnectionTerminated
    lastV2gMsg := .unknown
    currentV2gMsg := .unknown
    state := 0
    renegotiationRequired := false
    isCharging := false }

def initStatusCode : ChargingPhase → EVSEStatusCode
  | .parameter | .precharge | .charge => .ready
  | .isolation => .isolationMonitoringActive
  | _ => .notReady

/-- Every phase is ongoing, but the parameter phase is skipped. -/
def initProcessing : ChargingPhase → EVSEProcessing
  | .parameter => .finished
  | _ => .ongoing

def serviceIdCertificate : Nat := 2

def serviceIdCharging : Nat := 1

def Context.removeService (serviceId : Nat) : Context :=
  { c with evseServiceList := c.evseServiceList.filter (· ≠ serviceId) }

/-- The part of `v2g_ctx_init_charging_values` that is done for the first session only. -/
def Context.initOnce : Context :=
  if c.initializeOnce then c
  else
    { c with
      supportedEnergyTransferMode := [.acSinglePhaseCore]
      paymentOptionList := c.paymentOptionList.set 0 .externalPayment
      paymentOptionListLen := 1
      evseServiceList := [] }

/-- The values that survive a paused session. -/
def Context.initUnlessPaused : Context :=
  if c.hlcPauseActive then
    { c with
      paymentOptionList := c.paymentOptionList.set 0 c.isoSelectedPaymentOption
      paymentOptionListLen := 1 }
  else
    { c with
      sessionId := 0
      chargeServiceId := 1
      saScheduleTupleIds := [1]
      isoSelectedPaymentOption := .externalPayment }

def v2gCtxInitChargingValues : Context :=
  { c.initOnce.initUnlessPaused.removeService serviceIdCertificate with
    evseIsolationStatus := .invalid
    evseIsolationStatusIsUsed := true
    evseStatusCode := initStatusCode
    evseProcessing := initProcessing
    certInstallResB64Buffer := []
    contactorIsClosed := false
    receiptRequired := false
    enabledSaeV2h := false
    enabledSaeV2g := false
    noEnergyPause := .none
    -- `memset(&ctx->ev_v2g_data, 0xff, ...)`
    receivedSessionId := 2 ^ 64 - 1
    genChallenge := List.replicate 16 0
    authorizationRejected := false
    initializeOnce := true }

def v2gCtxInitChargingSession (isConnectionTerminated : Bool) : Context :=
  v2gCtxInitChargingValues (v2gCtxInitChargingState c isConnectionTerminated)

/-! ## Connections -/

/-- `v2g_connection`: a connection beside its context. -/
structure Connection where
  ctx : Context
  isTlsConnection : Bool := true
  /-- the public key of the contract certificate -/
  pubkey : Option Nat := none
  dlinkAction : MqttDlinkAction := .error
  /-- observer: `gen_challenge` has been generated on this connection -/
  challengeIssued : Bool := false
  /-- observer: a request has carried the challenge that was issued on this connection and
  a signature that was accepted -/
  signatureAccepted : Bool := false
  /-- observer: what has been published while the present request is handled -/
  published : List Signal := []

def Connection.mapCtx (conn : Connection) (f : Context → Context) : Connection :=
  { conn with ctx := f conn.ctx }

def Connection.publish (conn : Connection) (signal : Signal) : Connection :=
  { conn with published := conn.published ++ [signal] }

end EverestCore.V2G
