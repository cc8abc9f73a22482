import EverestCore.Slac.Messages

/-!
# Matching on the EVSE side

`MatchingState` of the EVSE's SLAC state machine: one `MatchingSession` for each
EV and run id, driven by messages and by the deadlines the callback checks.
-/

namespace EverestCore.Slac.Evse

open EverestCore.Slac

/-! ## Configuration -/

inductive ModemVendor where
  | unknown
  | qualcomm
  | lumissil
  | vertexCom
deriving DecidableEq

structure ChipReset where
  enabled : Bool := false
  timeoutMs : Int := 500
  delayMs : Int := 100
deriving DecidableEq

structure LinkStatus where
  doDetect : Bool := false
  retryMs : Int := 100
  pollInMatchedStateMs : Int := 1000
  timeoutMs : Int := 5000
  debugSimulateFailedMatching : Bool := false
deriving DecidableEq

structure EvseSlacConfig where
  plcPeerMac : Mac := #v[0x00, 0xB0, 0x52, 0x00, 0x00, 0x01]
  sessionNmk : Nmk := Vector.replicate 16 0
  acModeFivePercent : Bool := true
  setKeyTimeoutMs : Int := 500
  chipReset : ChipReset := {}
  linkStatus : LinkStatus := {}
  requestInfoDelayMs : Int := 100
  soundingAttenAdjustment : Int := 0
  resetInsteadOfFail : Bool := false
deriving DecidableEq

inductive Out (n : Nat) where
  | send (mac : Mac) (payload : Payload n)
  | signalState (state : String)
  | signalDlinkReady (value : Bool)
  | signalErrorRoutineRequest
  | signalCmSlacParmReq (evMac : Mac)
  | signalCmSlacMatchCnf (evMac : Mac)
deriving DecidableEq

/-! ## Sessions -/

inductive MatchingSubState where
  | waitForStartAttenChar
  | sounding
  | finalizeSounding
  | waitForAttenCharRsp
  | waitForSlacMatch
  | receivedSlacMatch
  | matchComplete
  | failed
deriving DecidableEq

def finalizeSoundingDelayMs : Int := 45

structure MatchingSession (n : Nat) where
  state : MatchingSubState := .waitForStartAttenChar
  evMac : Mac
  runId : RunId
  nextTimeout : Int := 0
  timeoutActive : Bool := false
  capturedSounds : Nat := 0
  capturedAags : Vector Int n := Vector.replicate n 0
  receivedMnbcSound : Bool := false
  numRetries : Int := 0
deriving DecidableEq

namespace MatchingSession

variable {n : Nat}

def setNextTimeout (now delayMs : Int) (session : MatchingSession n) : MatchingSession n :=
  { session with nextTimeout := deadlineIn now delayMs, timeoutActive := true }

def ackTimeout (session : MatchingSession n) : MatchingSession n :=
  { session with timeoutActive := false }

def isIdentifiedBy (evMac : Mac) (runId : RunId) (session : MatchingSession n) : Bool :=
  runId == session.runId && evMac == session.evMac

end MatchingSession

structure MatchingState (n : Nat) where
  sessions : List (MatchingSession n) := []
  timeoutSlacParmReq : Int := 0
  seenSlacParmReq : Bool := false
  numRetries : Int := 0
  matchCnfMessage : Option CmSlacMatchCnf := none
  failedCount : Int := 0
deriving DecidableEq

section

variable {n : Nat}

variable (sessions : List (MatchingSession n))

variable (evMac : Mac)

def findSession (runId : RunId) :
    Option (MatchingSession n) :=
  sessions.find? (MatchingSession.isIdentifiedBy evMac runId)

def updateSession (runId : RunId)
    (f : MatchingSession n → MatchingSession n) : List (MatchingSession n) :=
  sessions.replaceF fun session =>
    if session.isIdentifiedBy evMac runId then some (f session) else none

/-- The session of a MAC alone: the last one found. -/
def findSessionByMac :
    Option (MatchingSession n) :=
  sessions.reverse.find? fun session => evMac == session.evMac

def updateSessionByMac
    (f : MatchingSession n → MatchingSession n) : List (MatchingSession n) :=
  (sessions.reverse.replaceF fun session =>
    if evMac == session.evMac then some (f session) else none).reverse

def allSessionsFailed : Bool :=
  sessions.all fun session => session.state == .failed

end

section

variable (d : Defs) (config : EvseSlacConfig)

/-! ## Messages sent -/

variable (session : MatchingSession d.aagListLen)

def createCmSlacParmCnf : CmSlacParmCnf where
  mSoundTarget := d.broadcastMacAddress
  numSounds := d.cmSlacParmCnfNumSounds
  timeout := d.cmSlacParmCnfTimeout
  respType := d.cmSlacParmCnfRespType
  forwardingSta := session.evMac
  applicationType := d.commonApplicationType
  securityType := d.commonSecurityType
  runId := session.runId

/-- The average of every group plus the configured offset, cut to a byte. -/
def createCmAttenCharInd :
    CmAttenCharInd d.aagListLen where
  applicationType := d.commonApplicationType
  securityType := d.commonSecurityType
  sourceAddress := session.evMac
  runId := session.runId
  numSounds := UInt8.ofNat session.capturedSounds
  numGroups := UInt8.ofNat d.aagListLen
  aag :=
    if session.capturedSounds ≠ 0 then
      session.capturedAags.map fun sum =>
        UInt8.ofInt (sum.tdiv session.capturedSounds + config.soundingAttenAdjustment)
    else Vector.replicate d.aagListLen 1

def wrongSessionNmk : Nmk :=
  #v[0x01, 0x02, 0x03, 0x04, 0x05, 0x06, 0x07, 0x08, 0x09, 0x0A, 0x0B, 0x0C, 0x0D, 0x0E, 0x0F, 0x10]

def createCmSlacMatchCnf (matchReq : CmSlacMatchReq) (sessionNmk : Nmk) : CmSlacMatchCnf where
  applicationType := d.commonApplicationType
  securityType := d.commonSecurityType
  mvfLength := d.cmSlacMatchCnfMvfLength
  pevId := matchReq.pevId
  pevMac := matchReq.pevMac
  evseId := matchReq.evseId
  evseMac := matchReq.evseMac
  runId := matchReq.runId
  nid := d.generateNidFromNmk sessionNmk
  nmk := sessionNmk

/-! ## Message handlers -/

def validateCmSlacParmReq (msg : CmSlacParmReq) : Bool :=
  msg.applicationType == d.commonApplicationType && msg.securityType == d.commonSecurityType

def validateCmStartAttenCharInd (msg : CmStartAttenCharInd) : Bool :=
  msg.applicationType == d.commonApplicationType && msg.securityType == d.commonSecurityType &&
    msg.numSounds != 0 && msg.timeout != 0 && msg.respType == d.cmSlacParmCnfRespType

def validateCmMnbcSoundInd (msg : CmMnbcSoundInd) : Bool :=
  msg.applicationType == d.commonApplicationType && msg.securityType == d.commonSecurityType

def validateCmAttenCharRsp (msg : CmAttenCharRsp) : Bool :=
  msg.applicationType == d.commonApplicationType && msg.securityType == d.commonSecurityType &&
    msg.result == d.cmAttenCharRspResult

def validateCmSlacMatchReq (msg : CmSlacMatchReq) : Bool :=
  msg.applicationType == d.commonApplicationType && msg.securityType == d.commonSecurityType &&
    msg.mvfLength == d.cmSlacMatchReqMvfLength

variable (now : Int) (evMac : Mac) (m : MatchingState d.aagListLen)

/-- A new session, or the same one again from its start [V2G3-A09-16]. -/
def handleCmSlacParmReq (msg : CmSlacParmReq) :
    MatchingState d.aagListLen × List (Out d.aagListLen) :=
  if validateCmSlacParmReq d msg then
    let session : MatchingSession d.aagListLen :=
      MatchingSession.setNextTimeout now d.ttMatchSequenceMs { evMac := evMac, runId := msg.runId }
    let sessions := match findSession m.sessions evMac msg.runId with
      | some _ => updateSession m.sessions evMac msg.runId fun _ => session
      | none => m.sessions ++ [session]
    ({ m with seenSlacParmReq := true, sessions := sessions },
      [.send session.evMac (.cmSlacParmCnf (createCmSlacParmCnf d session)),
        .signalCmSlacParmReq evMac])
  else (m, [])

/-- The session a message is for, if it is in the sub-state the message needs. -/
def sessionIn (state : MatchingSubState) (runId : RunId) : Bool :=
  match findSession m.sessions evMac runId with
  | some session => session.state == state
  | none => false

def handleCmStartAttenCharInd (msg : CmStartAttenCharInd) : MatchingState d.aagListLen :=
  if validateCmStartAttenCharInd d msg && sessionIn d evMac m .waitForStartAttenChar msg.runId then
    { m with sessions := updateSession m.sessions evMac msg.runId fun session =>
        { session with state := .sounding }.setNextTimeout now d.ttEvseMatchMnbcMs }
  else m

def handleCmMnbcSoundInd (msg : CmMnbcSoundInd) : MatchingState d.aagListLen :=
  if validateCmMnbcSoundInd d msg && sessionIn d evMac m .sounding msg.runId then
    { m with sessions := updateSession m.sessions evMac msg.runId fun session =>
        { session with receivedMnbcSound := true } }
  else m

def captureProfile (msg : CmAttenProfileInd d.aagListLen)
    (session : MatchingSession d.aagListLen) : MatchingSession d.aagListLen :=
  let session := { session with
    capturedAags := session.capturedAags.zipWith (fun sum aag => sum + aag.toNat) msg.aag
    capturedSounds := session.capturedSounds + 1 }
  if session.capturedSounds < d.cmSlacParmCnfNumSounds.toNat then session
  else { session with state := .finalizeSounding }.setNextTimeout now finalizeSoundingDelayMs

def handleCmAttenProfileInd (msg : CmAttenProfileInd d.aagListLen) :
    MatchingState d.aagListLen :=
  match findSessionByMac m.sessions msg.pevMac with
  | some session =>
    if session.state = .sounding ∧ msg.numGroups.toNat = d.aagListLen then
      { m with sessions := updateSessionByMac m.sessions msg.pevMac (captureProfile d now msg) }
    else m
  | none => m

def handleCmAttenCharRsp (msg : CmAttenCharRsp) : MatchingState d.aagListLen :=
  if validateCmAttenCharRsp d msg && sessionIn d evMac m .waitForAttenCharRsp msg.runId then
    { m with sessions := updateSession m.sessions evMac msg.runId fun session =>
        { session with state := .waitForSlacMatch }.setNextTimeout now d.ttEvseMatchSessionMs }
  else m

def validateCnf : CmValidateCnf where
  signalType := d.cmValidateReqSignalType
  toggleNum := 0
  result := d.cmValidateReqResultFailure

/-- The message that completes a session: the key is sent. -/
def handleCmSlacMatchReq (msg : CmSlacMatchReq) :
    MatchingState d.aagListLen × List (Out d.aagListLen) :=
  if validateCmSlacMatchReq d msg && sessionIn d evMac m .waitForSlacMatch msg.runId then
    let nmk := if config.linkStatus.debugSimulateFailedMatching then wrongSessionNmk
      else config.sessionNmk
    let cnf := createCmSlacMatchCnf d msg nmk
    ({ m with
        matchCnfMessage := some cnf
        sessions := updateSession m.sessions evMac msg.runId fun session =>
          { session with state := .matchComplete }.setNextTimeout now 0 },
      [.send evMac (.cmSlacMatchCnf cnf), .signalCmSlacMatchCnf evMac])
  else (m, [])

def handleSlacMessage (payload : Payload d.aagListLen) :
    MatchingState d.aagListLen × List (Out d.aagListLen) :=
  match payload with
  | .cmSlacParmReq msg => handleCmSlacParmReq d now evMac m msg
  | .cmStartAttenCharInd msg => (handleCmStartAttenCharInd d now evMac m msg, [])
  | .cmMnbcSoundInd msg => (handleCmMnbcSoundInd d evMac m msg, [])
  | .cmAttenProfileInd msg => (handleCmAttenProfileInd d now m msg, [])
  | .cmAttenCharRsp msg => (handleCmAttenCharRsp d now evMac m msg, [])
  | .cmSlacMatchReq msg => handleCmSlacMatchReq d config now evMac m msg
  | .cmValidateReq => (m, [.send evMac (.cmValidateCnf (validateCnf d))])
  | _ => (m, [])

/-! ## Deadlines -/

variable (session : MatchingSession d.aagListLen)

def finalizeSounding :
    MatchingSession d.aagListLen × List (Out d.aagListLen) :=
  ({ session with state := .waitForAttenCharRsp }.setNextTimeout now d.ttMatchResponseMs,
    [.send session.evMac (.cmAttenCharInd (createCmAttenCharInd d config session))])

def handleTimeout :
    MatchingSession d.aagListLen × List (Out d.aagListLen) :=
  let session := session.ackTimeout
  match session.state with
  | .waitForStartAttenChar => ({ session with state := .failed }, [])
  | .sounding =>
    ({ session with state := .finalizeSounding }.setNextTimeout now finalizeSoundingDelayMs, [])
  | .finalizeSounding =>
    ({ (finalizeSounding d config now session).1 with numRetries := 0 },
      (finalizeSounding d config now session).2)
  | .waitForAttenCharRsp =>
    let session := { session with numRetries := session.numRetries + 1 }
    if session.numRetries ≤ d.cEvMatchRetry then finalizeSounding d config now session
    else ({ session with state := .failed }, [])
  | .waitForSlacMatch => ({ session with state := .failed }, [])
  | .receivedSlacMatch => (session, [])
  | .matchComplete => (session, [])
  | .failed => (session, [])

/-- How many deadlines a session can still miss. -/
def timeoutsLeft : Nat :=
  match session.state with
  | .sounding => d.cEvMatchRetry.toNat + 3
  | .finalizeSounding => d.cEvMatchRetry.toNat + 2
  | .waitForAttenCharRsp => (d.cEvMatchRetry - session.numRetries).toNat + 1
  | _ => 1

inductive LoopEnd where
  | complete
  | remaining (ms : Int)
  | inactive
deriving DecidableEq

/-- The `while` loop of the callback over one session; it is run at most
`timeoutsLeft` times, see `checkTimeouts`. -/
def timeoutLoop : Nat → MatchingSession d.aagListLen →
    MatchingSession d.aagListLen × List (Out d.aagListLen) × LoopEnd
  | 0, session => (session, [], .inactive)
  | fuel + 1, session =>
    if session.timeoutActive = false then (session, [], .inactive)
    else if session.state = .matchComplete then (session, [], .complete)
    else if 0 < millisecondsLeft now session.nextTimeout then
      (session, [], .remaining (millisecondsLeft now session.nextTimeout))
    else
      let r := handleTimeout d config now session
      let rest := timeoutLoop fuel r.1
      (rest.1, r.2 ++ rest.2.1, rest.2.2)

def checkTimeouts :
    MatchingSession d.aagListLen × List (Out d.aagListLen) × LoopEnd :=
  timeoutLoop d config now (timeoutsLeft d session + 1) session

/-- What the callback of the state returns; the empty result cannot be read. -/
inductive MatchingResult where
  | failed
  | matchComplete
  | value (ms : Int)
  | emptyValue
deriving DecidableEq

def nextCallBack (callBackMs : Option Int) : LoopEnd → Option Int
  | .remaining ms =>
    match callBackMs with
    | none => some ms
    | some old => if ms < old then some ms else some old
  | _ => callBackMs

/-- The `for` loop of the callback: `done` has been looked at already. -/
def checkSessions (done : List (MatchingSession d.aagListLen)) (callBackMs : Option Int) :
    List (MatchingSession d.aagListLen) →
      List (MatchingSession d.aagListLen) × List (Out d.aagListLen) × MatchingResult
  | [] => (done, [], match callBackMs with
      | some ms => .value ms
      | none => .emptyValue)
  | session :: rest =>
    let r := checkTimeouts d config now session
    if r.2.2 = .complete then (done ++ r.1 :: rest, r.2.1, .matchComplete)
    else if allSessionsFailed (done ++ r.1 :: rest) then (done ++ r.1 :: rest, r.2.1, .failed)
    else
      let next := checkSessions (done ++ [r.1]) (nextCallBack callBackMs r.2.2) rest
      (next.1, r.2.1 ++ next.2.1, next.2.2)

def callback : MatchingState d.aagListLen × List (Out d.aagListLen) × MatchingResult :=
  if m.seenSlacParmReq = false ∧ m.timeoutSlacParmReq ≤ now then (m, [], .failed)
  else
    let callBackMs := if m.seenSlacParmReq then none
      else some (millisecondsLeft now m.timeoutSlacParmReq)
    let r := checkSessions d config now [] callBackMs m.sessions
    ({ m with sessions := r.1 }, r.2.1, r.2.2)

end

end EverestCore.Slac.Evse
