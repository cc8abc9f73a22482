import EverestCore.Lib.Effect

/-!
# The Iskra meter driver

Transactions are started and stopped over Modbus. The driver remembers the request of the
transaction it has started, for the case that the meter loses power: the meter then needs
the metadata once more before it can finish the transaction.

Texts are carried as they are; their conversion to and from registers is part of the
`Setup`.
-/

namespace EverestCore.Iskra

open EverestCore.Lib

/-! ## Data -/

inductive MeterState
  | idle
  | active
  | activeAfterPowerFailure
  | activeAfterReset
  | unknown
  deriving DecidableEq

def MeterState.fromRegister : Nat → MeterState
  | 0 => .idle
  | 1 => .active
  | 2 => .activeAfterPowerFailure
  | 3 => .activeAfterReset
  | _ => .unknown

inductive SignatureStatus
  | notInitialized
  | idle
  | signatureInProgress
  | signatureOk
  | error (name : String)
  deriving DecidableEq

def SignatureStatus.fromRegister : Nat → Except String SignatureStatus
  | 0 => .ok .notInitialized
  | 1 => .ok .idle
  | 2 => .ok .signatureInProgress
  | 15 => .ok .signatureOk
  | 128 => .ok (.error "InvalidDateTime")
  | 129 => .ok (.error "CheckSumError")
  | 130 => .ok (.error "InvalidCommand")
  | 131 => .ok (.error "InvalidState")
  | 132 => .ok (.error "InvalidMeasurement")
  | 133 => .ok (.error "TestModeError")
  | 243 => .ok (.error "VerifyStateError")
  | 244 => .ok (.error "SignatureStateError")
  | 245 => .ok (.error "KeyPairGenerationError")
  | 246 => .ok (.error "SHAFailed")
  | 247 => .ok (.error "InitFailed")
  | 248 => .ok (.error "DataNotLocked")
  | 249 => .ok (.error "ConfigNotLocked")
  | 250 => .ok (.error "VerifyError")
  | 251 => .ok (.error "PublicKeyError")
  | 252 => .ok (.error "InvalidMessageFormat")
  | 253 => .ok (.error "InvalidMessageSize")
  | 254 => .ok (.error "SignatureError")
  | 255 => .ok (.error "UndefinedError")
  | unknown => .error ("Failed to convert the value " ++ toString unknown)

structure TransactionReq where
  evseId : String
  transactionId : String
  tariffText : Option String
  deriving DecidableEq

/-- The evse id and the tariff text of a request, as they go into the metadata. -/
def TransactionReq.metadata (req : TransactionReq) : String × String :=
  (req.evseId, req.tariffText.getD "")

structure OcmfData where
  formatVersion : String := "1.0"
  gatewayIdentification : String := ""
  gatewaySerial : String := ""
  gatewayVersion : String := ""
  pagination : String := ""
  meterVendor : String := ""
  meterModel : String := ""
  meterSerial : String := ""
  meterFirmware : String := ""
  identificationStatus : Bool := true
  identificationFlags : List String := ["RFID_PLAIN"]
  identificationType : String := "NONE"
  identificationData : String := ""
  chargePointIdentificationType : String := "EVSEID"
  chargePointIdentification : String := ""
  readings : List String := []
  deriving DecidableEq

inductive Access
  | readHolding (address count : Nat)
  | writeSingle (address value : Nat)
  /-- The metadata, serialised, in the registers from 7100 on. -/
  | writeMetadata (message : String)
  /-- A text of the display, cut or padded to a number of registers. -/
  | writeText (address numRegisters : Nat) (text : String)
  deriving DecidableEq

/-! ## The meter -/

structure Transaction where
  /-- The request that started it, if that was in this process. -/
  request : Option TransactionReq
  /-- The number of the call that started it. -/
  number : Nat
  /-- That call has returned `ok`. -/
  started : Bool
  deriving DecidableEq

inductive Activity
  | normal
  | afterPowerFailure
  | afterReset
  deriving DecidableEq

inductive Interruption
  | powerFailure
  | reset
  deriving DecidableEq

def Interruption.activity : Interruption → Activity
  | .powerFailure => .afterPowerFailure
  | .reset => .afterReset

structure Meter where
  running : Option Transaction := none
  activity : Activity := .normal
  deriving DecidableEq

def Meter.stateRegister (m : Meter) : Nat :=
  match m.running, m.activity with
  | none, _ => 0
  | some _, .normal => 1
  | some _, .afterPowerFailure => 2
  | some _, .afterReset => 3

/-- A start has no effect while a transaction is running. -/
def Meter.begin (t : Transaction) (m : Meter) : Meter :=
  match m.running with
  | none => ⟨some t, .normal⟩
  | some _ => m

def Meter.finish (m : Meter) : Meter := { m with running := none }

structure Outcome where
  /-- Before the access, the meter has lost power or was reset. -/
  interruption : Option Interruption := none
  /-- A command takes effect, even if its answer is lost. -/
  takesEffect : Bool := true
  /-- The charging state is reported as one that the driver does not know. -/
  unknownState : Bool := false
  answer : Except String (List Nat) := .ok []

/-! ## The driver -/

structure Setup where
  ocmfData : OcmfData
  mainText : String
  labelText : String
  /-- The outcome of an access, after the accesses so far. -/
  line : List Access → Access → Outcome
  /-- How often a register is polled before the deadline. -/
  polls : List Access → Nat
  sessionId : List Access → String
  timestamp : List Access → Nat
  offsetMin : Nat
  toJson : OcmfData → String
  to8String : List Nat → Except String String
  toSignature : List Nat → String
  toHexString : List Nat → String

structure Completion where
  transaction : Option Transaction
  metadata : String × String
  deriving DecidableEq

structure World where
  meter : Meter := {}
  /-- The remembered request. -/
  transaction : Option TransactionReq := none
  publicKey : Option String := none
  /-- The number of starts called so far. -/
  starts : Nat := 0
  completions : List Completion := []
  log : List Access := []

abbrev M := Eff String World

variable (env : Setup)

/-! ## Modbus -/

def access (a : Access) (effect : Meter → Meter) : M (List Nat) := do
  let world ← get
  let outcome := env.line world.log a
  modify fun w =>
    let interrupted :=
      { w.meter with
        activity := (outcome.interruption.map Interruption.activity).getD w.meter.activity }
    { w with
      meter := if outcome.takesEffect then effect interrupted else interrupted
      log := w.log ++ [a] }
  match outcome.answer with
  | .error error => throw error
  | .ok registers => pure registers

def orThrow {α : Type} : Except String α → M α
  | .ok a => pure a
  | .error error => throw error

def readHoldingRegisters (address count : Nat) : M (List Nat) := do
  let registers ← access env (.readHolding address count) id
  if registers.length ≠ count then
    throw ("Expected size " ++ toString registers.length ++ ", received size " ++ toString count)
  else pure registers

def readHoldingRegister (address : Nat) : M Nat := do
  let registers ← readHoldingRegisters env address 1
  pure (registers.headD 0)

def writeSingleRegister (address value : Nat) : M Unit := do
  let _ ← access env (.writeSingle address value) id

def readState : M MeterState := do
  let world ← get
  let outcome := env.line world.log (.readHolding 7000 1)
  let _ ← access env (.readHolding 7000 1) id
  let world ← get
  pure (if outcome.unknownState then .unknown else .fromRegister world.meter.stateRegister)

def readCommandStatus : M SignatureStatus := do
  let register ← readHoldingRegister env 7052
  orThrow (SignatureStatus.fromRegister register)

inductive RetryState
  | keepTrying
  | done
  deriving DecidableEq

def retry (func : M RetryState) (duration : String) : Nat → M Unit
  | 0 => throw ("Retry failed - timeout after " ++ duration)
  | n + 1 => do
      match ← func with
      | .done => pure ()
      | .keepTrying => retry func duration n

def retryWithin (func : M RetryState) (duration : String) : M Unit := do
  let world ← get
  retry func duration (env.polls world.log)

def reaches (expected : MeterState) : M RetryState := do
  let state ← readState env
  pure (if state = expected then .done else .keepTrying)

def signatureDone : M RetryState := do
  match ← readCommandStatus env with
  | .notInitialized => pure .keepTrying
  | .idle => pure .keepTrying
  | .signatureInProgress => pure .keepTrying
  | .signatureOk => pure .done
  | .error name => throw ("Error state " ++ name)

def checkSignatureStatus : M Unit := retryWithin env (signatureDone env) "15s"

def setTime : M Unit := do
  let world ← get
  let ts := env.timestamp world.log
  writeSingleRegister env 7054 (ts / 65536 % 65536)
  writeSingleRegister env 7055 (ts % 65536)
  writeSingleRegister env 7053 env.offsetMin
  writeSingleRegister env 7071 2

/-- The metadata for a session: the evse id identifies the charge point where that is
configured so, and is identification data otherwise. -/
def OcmfData.fill (ocmfData : OcmfData) (sessionId evseId tariffText : String) : OcmfData :=
  let isEvseId := ocmfData.chargePointIdentificationType == "EVSEID" && evseId != ""
  let identificationData :=
    if isEvseId then [sessionId, tariffText] else [sessionId, evseId, tariffText]
  { ocmfData with
    chargePointIdentification :=
      if isEvseId then evseId else ocmfData.chargePointIdentification
    identificationData := " ".intercalate (identificationData.filter (· != "")) }

def writeMetadata (metadata : String × String) : M Unit := do
  let world ← get
  let message := env.toJson (env.ocmfData.fill (env.sessionId world.log) metadata.1 metadata.2)
  let _ ← access env (.writeMetadata message) id
  writeSingleRegister env 7056 (message.utf8ByteSize % 65536)
  let registers ← readHoldingRegisters env 7100 ((message.utf8ByteSize + 1) / 2)
  let _ ← orThrow (env.to8String registers)

def writeLcdText (mainText labelText : String) : M Unit := do
  let currentParams ← readHoldingRegister env 7062
  -- the fourth bit says whether a text is shown at all
  let cleared := currentParams - (if currentParams.testBit 3 then 8 else 0)
  writeSingleRegister env 7062 (if mainText = "" ∧ labelText = "" then cleared else cleared + 8)
  let _ ← access env (.writeText 7063 4 mainText) id
  let _ ← access env (.writeText 7067 2 labelText) id

def readSignature : M String := do
  let length ← readHoldingRegister env 7058
  let registers ← readHoldingRegisters env 8188 ((length + 1) / 2)
  pure (String.ofList ((env.toSignature registers).toList.take (length * 2)))

def readSignedMeterValues : M String := do
  let length ← readHoldingRegister env 7057
  let registers ← readHoldingRegisters env 7612 ((length + 1) / 2)
  let text ← orThrow (env.to8String registers)
  pure (String.ofList (text.toList.take length))

def publicKeyPrefix : String := "3059301306072A8648CE3D020106082A8648CE3D03010703420004"

def readPublicKey : M String := do
  let world ← get
  match world.publicKey with
  | some key => pure key
  | none =>
    let registers ← readHoldingRegisters env 8124 32
    let key := publicKeyPrefix ++ env.toHexString registers
    modify fun w => { w with publicKey := some key }
    pure key

/-! ## Transactions -/

structure TransactionStopResponse where
  signedMeterValues : String
  signature : String
  publicKey : Option String
  deriving DecidableEq

/-- Metadata are written to finish the transaction that is running. -/
def completeTransaction : M Unit := do
  let world ← get
  let metadata := (world.transaction.map TransactionReq.metadata).getD ("", "")
  modify fun w => { w with completions := w.completions ++ [⟨w.meter.running, metadata⟩] }
  writeMetadata env metadata

def prepareStop : MeterState → M Unit
  | .idle => throw "Transaction not started"
  | .active => pure ()
  | .activeAfterReset => pure ()
  | .activeAfterPowerFailure => do
      setTime env
      completeTransaction env
  | .unknown => pure ()

def readRecord : M TransactionStopResponse := do
  checkSignatureStatus env
  let signature ← readSignature env
  let signedMeterValues ← readSignedMeterValues env
  writeLcdText env env.mainText env.labelText
  modify fun w => { w with transaction := none }
  let publicKey ← tryCatch
    (do
      let key ← readPublicKey env
      pure (some key))
    fun _ => pure none
  pure { signedMeterValues, signature, publicKey }

def stopTransaction : M TransactionStopResponse := do
  let state ← readState env
  prepareStop env state
  let _ ← access env (.writeSingle 7051 0x7200) Meter.finish
  retryWithin env (reaches env .idle) "1s"
  readRecord env

def stopStuckTransaction : MeterState → M Unit
  | .active => do let _ ← stopTransaction env
  | .activeAfterReset => do let _ ← stopTransaction env
  | .activeAfterPowerFailure => do let _ ← stopTransaction env
  | .idle => pure ()
  | .unknown => pure ()

/-- The call returns: the transaction it has started, if any, is started. -/
def World.returnStart (w : World) : World :=
  { w with
    meter :=
      { w.meter with
        running := w.meter.running.map fun t =>
          if t.number = w.starts then { t with started := true } else t } }

def startTransaction (req : TransactionReq) : M Unit := do
  modify fun w => { w with transaction := some req, starts := w.starts + 1 }
  let state ← readState env
  stopStuckTransaction env state
  setTime env
  writeSingleRegister env 7059 0
  writeMetadata env req.metadata
  writeLcdText env (req.tariffText.getD "") ""
  let world ← get
  let _ ← access env (.writeSingle 7051 0x4200) (Meter.begin ⟨some req, world.starts, false⟩)
  retryWithin env (reaches env .active) "1s"
  checkSignatureStatus env
  modify World.returnStart

inductive Call
  | startTransaction (req : TransactionReq)
  | stopTransaction
  deriving DecidableEq

def step (w : World) : Call → World
  | .startTransaction req => (startTransaction env req).after w
  | .stopTransaction => (stopTransaction env).after w

end EverestCore.Iskra
