import EverestCore.Lib.Effect

/-!
# The LEM DCBM 400/600 controller

The controller talks to a DC meter over HTTP. It starts and stops the meter's
transactions, reads live values, and keeps the last signed record (OCMF) it has
fetched while a transaction runs, to have one should the connection be lost.

Bodies are read by the parsers of the `Setup`, request payloads stay unserialised, and
numbers are exact.
-/

namespace EverestCore.LemDcbm

open EverestCore.Lib

/-! ## Messages -/

structure HttpResponse where
  statusCode : Nat
  body : String
  deriving DecidableEq

inductive JsonValue
  | text (s : String)
  | number (n : Int)
  deriving DecidableEq

inductive Setting
  | ntp
  | utc
  | tz (meterTimezone : String)
  | dst (meterDst : String)
  deriving DecidableEq

/-- The requests, `v2` where the endpoint depends on the firmware. -/
inductive Request
  | getStatus
  | getLegal (v2 : Bool)
  | postLegal (v2 : Bool) (payload : List (String × JsonValue))
  | putLegal (v2 : Bool) (transactionId : String)
  | getOcmf (v2 : Bool) (transactionId : String)
  | getLivemeasure (v2 : Bool)
  | putSettings (setting : Setting)
  deriving DecidableEq

def version (v2 : Bool) : String := if v2 then "/v2" else "/v1"

def Request.endpoint : Request → String
  | .getStatus => "/v1/status"
  | .getLegal v2 => version v2 ++ "/legal"
  | .postLegal v2 _ => version v2 ++ "/legal"
  | .putLegal v2 transactionId => version v2 ++ "/legal?transactionId=" ++ transactionId
  | .getOcmf v2 transactionId => version v2 ++ "/ocmf?transactionId=" ++ transactionId
  | .getLivemeasure v2 => version v2 ++ "/livemeasure"
  | .putSettings _ => "/v1/settings"

structure Exchange where
  request : Request
  outcome : Except String HttpResponse

inductive Err
  | httpClientError (reason : String)
  | unexpectedResponseCode (endpoint : String) (expectedCode : Nat) (response : HttpResponse)
  | unexpectedResponseBody (endpoint error : String)
  /-- A JSON exception that no function on the way turns into another one. -/
  | json (reason : String)
  deriving DecidableEq

def Err.what : Err → String
  | .httpClientError reason => reason
  | .unexpectedResponseCode endpoint expectedCode response =>
    "Received unexpected response from endpoint '" ++ endpoint ++ "': "
      ++ toString response.statusCode ++ " (expected " ++ toString expectedCode ++ ") "
      ++ (if response.body = "" then "" else " - body: " ++ response.body)
  | .unexpectedResponseBody endpoint error =>
    "Received unexpected response body from endpoint " ++ endpoint ++ ": " ++ error
  | .json reason => reason

/-- What `callWithRetry` catches: all but JSON exceptions. -/
def Err.retryable : Err → Bool
  | .json _ => false
  | _ => true

/-! ## Data -/

structure Conf where
  initNumberOfHttpRetries : Nat
  transactionNumberOfHttpRetries : Nat
  cableId : Int
  tariffId : Int
  meterTimezone : String
  meterDst : String
  SC : Int
  UV : String
  UD : String
  ntpEnabled : Bool

structure SignedMeterValue where
  signedMeterData : String := ""
  signingMethod : String := ""
  encodingMethod : String := ""
  publicKey : Option String := none
  timestamp : Option String := none
  deriving DecidableEq

structure TransactionReq where
  evseId : String
  transactionId : String
  identificationData : Option String
  tariffText : Option String
  deriving DecidableEq

inductive TransactionRequestStatus
  | ok
  | notSupported
  | unexpectedError
  deriving DecidableEq

structure TransactionStartResponse where
  status : TransactionRequestStatus
  error : Option String := none
  deriving DecidableEq

structure TransactionStopResponse where
  status : TransactionRequestStatus
  startSignedMeterValue : Option SignedMeterValue := none
  signedMeterValue : Option SignedMeterValue := none
  error : Option String := none
  deriving DecidableEq

structure Livemeasure where
  timestamp : String
  energyImportTotal : Rat
  energyExportTotal : Rat
  voltage : Rat
  current : Rat
  power : Rat
  temperatureH : Rat
  temperatureL : Rat
  deriving DecidableEq

structure Powermeter where
  timestamp : String
  meterId : String
  energyWhImport : Rat
  energyWhExport : Rat
  voltageV : Rat
  currentA : Rat
  powerW : Rat
  temperatures : List (Rat × String)
  deriving DecidableEq

structure Parsers where
  meterId : String → Except String String
  publicKeyOcmf : String → Except String String
  transactionIsOnGoing : String → Except String Bool
  applicationFirmwareVersion : String → Except String String
  transactionId : String → Except String String
  running : String → Except String Bool
  transactionStatus : String → Except String Int
  result : String → Except String Int
  livemeasure : String → Except String Livemeasure

structure Setup where
  config : Conf
  parse : Parsers
  /-- The outcome of a request, after the exchanges so far. -/
  peer : List Exchange → Request → Except String HttpResponse
  /-- Whether two minutes have passed since the unsafe period began. -/
  unsafePeriodOver : List Exchange → Bool
  deadlineForNextSyncReached : List Exchange → Bool

/-- The controller's fields, with those of its time synchronisation, and the exchanges so
far. -/
structure World where
  meterId : String := ""
  publicKeyOcmf : String := ""
  v2Capable : Bool := false
  needToStopTransaction : Bool := false
  currentTransactionId : String := ""
  currentSignedMeterValue : SignedMeterValue := {}
  dcbmNtpSettingsSaved : Bool := false
  unsafePeriodStarted : Bool := false
  log : List Exchange := []

abbrev M := Eff Err World

variable (env : Setup)

/-! ## Requests -/

def send (request : Request) : M HttpResponse := do
  let world ← get
  let outcome := env.peer world.log request
  modify fun w => { w with log := w.log ++ [⟨request, outcome⟩] }
  match outcome with
  | .ok response => pure response
  | .error reason => throw (.httpClientError reason)

def sendExpecting (expectedCode : Nat) (request : Request) : M HttpResponse := do
  let response ← send env request
  if response.statusCode ≠ expectedCode then
    throw (.unexpectedResponseCode request.endpoint expectedCode response)
  else pure response

/-- A field of a body, a JSON exception being turned into `err`. -/
def orThrow {α : Type} (err : String → Err) : Except String α → M α
  | .ok a => pure a
  | .error what => throw (err what)

def callWithRetry {α : Type} (func : M α) (numberOfRetries : Nat) : M α :=
  retry Err.retryable func numberOfRetries

/-! ## Time synchronisation -/

def isSettingWriteSafe : M Bool := do
  let world ← get
  pure (world.unsafePeriodStarted && env.unsafePeriodOver world.log)

def Setting.rejection : Setting → String
  | .ntp => "NTP setting was rejected by the device, e.g. because of an ongoing transaction."
  | .utc => "Time setting was rejected by the device, e.g. because of an ongoing transaction."
  | .tz _ => "Timezone setting was rejected by the device, e.g. because of an ongoing transaction."
  | .dst _ =>
    "Daylight saving setting was rejected by the device, e.g. because of an ongoing transaction."

def putSetting (setting : Setting) : M Unit := do
  let response ← sendExpecting env 200 (.putSettings setting)
  let result ← orThrow .json (env.parse.result response.body)
  if result = 1 then pure ()
  else throw (.unexpectedResponseBody "/v1/settings" setting.rejection)

def setNtpSettingsOnDevice : M Unit := do
  putSetting env .ntp
  let safe ← isSettingWriteSafe env
  modify fun w => { w with dcbmNtpSettingsSaved := w.dcbmNtpSettingsSaved || safe }

def syncSystemTime : M Unit := putSetting env .utc

def syncTimezone : M Unit := putSetting env (.tz env.config.meterTimezone)

def syncDst : M Unit := putSetting env (.dst env.config.meterDst)

def sync : M Unit := do
  let world ← get
  if env.config.ntpEnabled && world.dcbmNtpSettingsSaved then pure ()
  else do
    if env.config.ntpEnabled then setNtpSettingsOnDevice env else syncSystemTime env
    syncTimezone env
    syncDst env

/-- Only the device's refusals are caught here, not a lost connection. -/
def syncIfDeadlineExpired : M Unit := do
  let world ← get
  if env.config.ntpEnabled && world.dcbmNtpSettingsSaved then pure ()
  else if env.deadlineForNextSyncReached world.log then
    tryCatch (sync env) fun
      | .unexpectedResponseCode _ _ _ => pure ()
      | .unexpectedResponseBody _ _ => pure ()
      | e => throw e
  else pure ()

/-! ## Status -/

def getCurrentTransaction : M String := do
  let world ← get
  let request := Request.getLegal world.v2Capable
  let response ← sendExpecting env 200 request
  orThrow (fun what => .unexpectedResponseBody request.endpoint ("Json error '" ++ what ++ "'"))
    (env.parse.transactionId response.body)

def statusError (body what : String) : Err :=
  .unexpectedResponseBody "/v1/status" ("Json error " ++ what ++ " for body " ++ body)

def updateLemStatus : M Unit := do
  let response ← sendExpecting env 200 .getStatus
  let onGoing ← orThrow (statusError response.body)
    (env.parse.transactionIsOnGoing response.body)
  modify fun w => { w with needToStopTransaction := onGoing }
  let transactionId ← getCurrentTransaction env
  modify fun w => { w with currentTransactionId := transactionId }

/-- The parts of a text between delimiters; no part follows a delimiter at its end. -/
def split (str : String) (delimiter : Char) : List String :=
  let tokens := (str.toList.splitOnP (· == delimiter)).map String.ofList
  if tokens.getLast? = some "" then tokens.dropLast else tokens

/-- Version numbers are compared as texts. -/
def isV2Capable (firmware : String) : Bool :=
  match split firmware '.' with
  | [_, second, _, _] => decide ("1" < second)
  | _ => false

def fetchMeterIdFromDevice : M Unit := do
  let response ← sendExpecting env 200 .getStatus
  let body := response.body
  let meterId ← orThrow (statusError body) (env.parse.meterId body)
  modify fun w => { w with meterId := meterId }
  let publicKeyOcmf ← orThrow (statusError body) (env.parse.publicKeyOcmf body)
  modify fun w => { w with publicKeyOcmf := publicKeyOcmf }
  let onGoing ← orThrow (statusError body) (env.parse.transactionIsOnGoing body)
  modify fun w => { w with needToStopTransaction := onGoing }
  let firmware ← orThrow (statusError body) (env.parse.applicationFirmwareVersion body)
  modify fun w => { w with v2Capable := isV2Capable firmware }
  let transactionId ← getCurrentTransaction env
  modify fun w => { w with currentTransactionId := transactionId }

def init : M Unit := do
  callWithRetry (fetchMeterIdFromDevice env) env.config.initNumberOfHttpRetries
  modify fun w => { w with unsafePeriodStarted := true }

/-! ## Transactions -/

def maxLengthClientId : Nat := 37

def clientId (request : TransactionReq) : String :=
  String.ofList ((request.identificationData.getD "" ++ "," ++ request.transactionId).toList.take
    maxLengthClientId)

def transactionStartRequestToDcbmPayload (v2Capable : Bool) (request : TransactionReq) :
    List (String × JsonValue) :=
  if v2Capable then
    [("evseId", .text request.evseId), ("transactionId", .text request.transactionId),
      ("clientId", .text (clientId request)), ("tariffId", .number env.config.tariffId),
      ("TT", .text (request.tariffText.getD "")), ("UV", .text env.config.UV),
      ("UD", .text env.config.UD), ("cableId", .number env.config.cableId),
      ("userData", .text ""), ("SC", .number env.config.SC)]
  else
    [("evseId", .text request.evseId), ("transactionId", .text request.transactionId),
      ("clientId", .text (clientId request)), ("tariffId", .number env.config.tariffId),
      ("cableId", .number env.config.cableId), ("userData", .text "")]

def requestDeviceToStartTransaction (value : TransactionReq) : M Unit := do
  sync env
  let world ← get
  let request := Request.postLegal world.v2Capable
    (transactionStartRequestToDcbmPayload env world.v2Capable value)
  let response ← sendExpecting env 201 request
  let running ← orThrow
    (fun what => .unexpectedResponseBody request.endpoint
      ("Json error " ++ what ++ " for body '" ++ response.body ++ "'"))
    (env.parse.running response.body)
  if running then pure ()
  else throw (.unexpectedResponseBody "/v1/legal"
    ("Created transaction " ++ value.transactionId ++ " has state running = false."))

variable (transactionId : String)

def requestDeviceToStopTransaction : M Unit := do
  let world ← get
  let request := Request.putLegal world.v2Capable transactionId
  let response ← sendExpecting env 200 request
  let status ← orThrow
    (fun what => .unexpectedResponseBody request.endpoint
      ("Json error '" ++ what ++ "' for body " ++ response.body))
    (env.parse.transactionStatus response.body)
  -- the third status bit says that the transaction is still going on
  if status / 4 % 2 = 1 then
    throw (.unexpectedResponseBody request.endpoint
      ("Transaction stop request for transaction " ++ transactionId
        ++ " returned device status " ++ toString status ++ "."))
  else pure ()

def fetchOcmfResult : M String := do
  let world ← get
  let request := Request.getOcmf world.v2Capable transactionId
  let response ← sendExpecting env 200 request
  if response.body = "" then
    throw (.unexpectedResponseBody request.endpoint "Returned empty body")
  else pure response.body

/-- Closing a transaction left open, before a new one is started. -/
def closeDanglingTransaction : M Unit := do
  let world ← get
  if world.needToStopTransaction then
    tryCatch
      (do
        requestDeviceToStopTransaction env world.currentTransactionId
        modify fun w => { w with needToStopTransaction := false })
      fun
      | .unexpectedResponseCode _ _ _ => pure ()
      | e => throw e
  else pure ()

def startTransaction (value : TransactionReq) : M TransactionStartResponse :=
  tryCatch
    (do
      closeDanglingTransaction env
      callWithRetry (requestDeviceToStartTransaction env value)
        env.config.transactionNumberOfHttpRetries
      modify fun w =>
        { w with currentTransactionId := value.transactionId, needToStopTransaction := true }
      pure { status := .ok })
    fun
    | .json reason => throw (.json reason)
    | .httpClientError reason => pure
        { status := .unexpectedError
          error := some ("Failed to start transaction " ++ value.transactionId
            ++ " - connection to device failed: " ++ reason) }
    | e => pure
        { status := .unexpectedError
          error := some ("Failed to start transaction " ++ value.transactionId ++ ": " ++ e.what) }

def fetchSignedMeterValue (tid : String) : M TransactionStopResponse := do
  let ocmf ← fetchOcmfResult env tid
  let world ← get
  pure
    { status := .ok
      signedMeterValue := some
        { signedMeterData := ocmf, encodingMethod := "OCMF",
          publicKey := some world.publicKeyOcmf } }

/-- One attempt at a stop: the device is told unless its transaction is closed already, and the
record is fetched. -/
def stopAndFetch (needToExecuteDeviceStopTransaction : Bool) (tid : String) :
    M TransactionStopResponse := do
  if needToExecuteDeviceStopTransaction then requestDeviceToStopTransaction env tid else pure ()
  fetchSignedMeterValue env tid

/-- The last part of a stop: the attempts, and what is answered when they fail. -/
def finishStop (needToExecuteDeviceStopTransaction : Bool) (tid : String) :
    M TransactionStopResponse :=
  tryCatch
    (callWithRetry (stopAndFetch env needToExecuteDeviceStopTransaction tid)
      env.config.transactionNumberOfHttpRetries)
    fun
    | .json reason => throw (.json reason)
    | .httpClientError reason => do
        let world ← get
        -- the last known record, whichever transaction it was fetched for
        if world.currentSignedMeterValue.publicKey.isSome then
          pure { status := .ok, signedMeterValue := some world.currentSignedMeterValue }
        else do
          modify fun w => { w with currentSignedMeterValue := {} }
          pure
            { status := .unexpectedError
              error := some ("Failed to stop transaction " ++ tid
                ++ " - connection to device failed: " ++ reason) }
    | e => pure
        { status := .unexpectedError
          error := some ("Failed to stop transaction " ++ tid ++ ": " ++ e.what) }

/-- What a stop does before it talks to the device. -/
inductive StopPlan
  | noDanglingTransaction
  | attempt (needToExecuteDeviceStopTransaction : Bool) (tid : String)
  deriving DecidableEq

/-- The bookkeeping of a stop: the four conditionals of the source, in their order. -/
def planStop (w : World) : StopPlan × World :=
  let closed := !w.needToStopTransaction && transactionId == w.currentTransactionId
  let w₁ := if closed then { w with currentTransactionId := "" } else w
  if !w₁.needToStopTransaction && transactionId == "" then (.noDanglingTransaction, w₁)
  else
    let w₂ := if w₁.needToStopTransaction && transactionId == w₁.currentTransactionId then
      { w₁ with needToStopTransaction := false, currentTransactionId := "" } else w₁
    if w₂.needToStopTransaction && transactionId == "" then
      (.attempt (!closed) w₂.currentTransactionId,
        { w₂ with needToStopTransaction := false, currentTransactionId := "" })
    else (.attempt (!closed) transactionId, w₂)

def stopTransaction : M TransactionStopResponse := do
  let world ← get
  modify fun w => (planStop transactionId w).2
  match (planStop transactionId world).1 with
  | .noDanglingTransaction =>
    pure { status := .unexpectedError, error := some "No dangling transaction open" }
  | .attempt needToExecuteDeviceStopTransaction tid =>
    finishStop env needToExecuteDeviceStopTransaction tid

/-! ## Live values -/

def convertLivemeasureToPowermeter (meterId : String) (data : Livemeasure) : Powermeter where
  timestamp := data.timestamp
  meterId := meterId
  energyWhImport := data.energyImportTotal * 1000
  energyWhExport := data.energyExportTotal * 1000
  voltageV := data.voltage
  currentA := data.current
  powerW := data.power * 1000
  temperatures := [(data.temperatureH, "temperatureH"), (data.temperatureL, "temperatureL")]

/-- The record of the running transaction, kept for the case of a lost connection. -/
def rememberOcmf (timestamp : String) : M Unit := do
  let world ← get
  if world.needToStopTransaction then
    tryCatch
      (do
        let ocmf ← fetchOcmfResult env world.currentTransactionId
        modify fun w =>
          { w with
            currentSignedMeterValue :=
              { signedMeterData := ocmf, encodingMethod := "OCMF",
                publicKey := some w.publicKeyOcmf, timestamp := some timestamp } })
      fun
      | .json reason => throw (.json reason)
      | _ => pure ()
  else pure ()

def getPowermeter : M Powermeter := do
  syncIfDeadlineExpired env
  let world ← get
  let request := Request.getLivemeasure world.v2Capable
  let response ← sendExpecting env 200 request
  let data ← orThrow
    (fun what => .unexpectedResponseBody request.endpoint ("Json error '" ++ what ++ "'"))
    (env.parse.livemeasure response.body)
  let powermeter := convertLivemeasureToPowermeter world.meterId data
  rememberOcmf env powermeter.timestamp
  pure powermeter

/-! ## Calls -/

inductive Call
  | init
  | startTransaction (value : TransactionReq)
  | stopTransaction (transactionId : String)
  | getPowermeter
  | updateLemStatus
  deriving DecidableEq

def step (w : World) : Call → World
  | .init => (init env).after w
  | .startTransaction value => (startTransaction env value).after w
  | .stopTransaction transactionId => (stopTransaction env transactionId).after w
  | .getPowermeter => (getPowermeter env).after w
  | .updateLemStatus => (updateLemStatus env).after w

end EverestCore.LemDcbm
