import EverestCore.Slac.Messages

/-!
# The SLAC state machine of the EV

All states with their entry actions, event handlers and callbacks, and the
controller that feeds messages, commands and clock ticks into them. An event that
a state passes on is dropped.
-/

namespace EverestCore.Slac.Ev

open EverestCore.Slac

structure SessionParamaters where
  runId : RunId
  evseMac : Mac
deriving DecidableEq

structure InitSlacState where
  nextTimeout : Int := 0
  numOfTries : Int := 0
  runId : RunId
deriving DecidableEq

structure SoundingState where
  soundingTimeout : Int := 0
  nextTimeout : Int := 0
  countStartAttenCharSent : Int := 0
  countMnbcSoundSent : Int := 0
  sessionParameters : SessionParamaters
deriving DecidableEq

structure MatchRequestState where
  nextTimeout : Int := 0
  numOfTries : Int := 0
  sessionParameters : SessionParamaters
deriving DecidableEq

structure JoinNetworkState where
  timeout : Int := 0
  nmk : Nmk
deriving DecidableEq

def setKeyTimeoutMs : Int := 500

inductive FsmState where
  | reset
  | initSlac (state : InitSlacState)
  | sounding (state : SoundingState)
  | matchRequest (state : MatchRequestState)
  | joinNetwork (state : JoinNetworkState)
  | matched
  | failed
deriving DecidableEq

inductive Event (n : Nat) where
  | reset
  | triggerMatching
  | slacMessage (msg : HomeplugMessage n)
  | failed
deriving DecidableEq

inductive CallbackReturn (n : Nat) where
  | event (ev : Event n)
  | value (ms : Int)
  | nothing
deriving DecidableEq

inductive Out (n : Nat) where
  | send (mac : Mac) (payload : Payload n)
  | signalState (state : String)
deriving DecidableEq

/-- The context, the current state, and what was sent and signalled, oldest
first. -/
structure Machine (n : Nat) where
  plcMac : Mac := #v[0x00, 0xB0, 0x52, 0x00, 0x00, 0x01]
  fsm : FsmState := .reset
  log : List (Out n) := []
deriving DecidableEq

/-- What a step reads from outside: the clock, a random run id and random bytes for
a sound. -/
structure Env where
  now : Int := 0
  runId : RunId := Vector.replicate 8 0
  random : List UInt8 := []
deriving DecidableEq

variable (d : Defs)

namespace Machine

variable {d} (m : Machine d.aagListLen)

def emit (outs : List (Out d.aagListLen)) : Machine d.aagListLen :=
  { m with log := m.log ++ outs }

def send (mac : Mac) (payload : Payload d.aagListLen) :
    Machine d.aagListLen :=
  m.emit [.send mac payload]

def goTo (fsm : FsmState) : Machine d.aagListLen :=
  { m with fsm := fsm }

/-! ## Entering states -/

def enterReset : Machine d.aagListLen :=
  (m.emit [.signalState "UNMATCHED"]).goTo .reset

def enterInitSlac (env : Env) (m : Machine d.aagListLen) : Machine d.aagListLen :=
  m.goTo (.initSlac { runId := env.runId })

def enterSounding (env : Env) (sessionParameters : SessionParamaters)
    (m : Machine d.aagListLen) : Machine d.aagListLen :=
  m.goTo (.sounding
    { soundingTimeout := deadlineIn env.now d.ttEvAttenResultsMs
      sessionParameters := sessionParameters })

def enterMatchRequest (sessionParameters : SessionParamaters) (m : Machine d.aagListLen) :
    Machine d.aagListLen :=
  m.goTo (.matchRequest { sessionParameters := sessionParameters })

def enterJoinNetwork (env : Env) (nmk : Nmk) (m : Machine d.aagListLen) :
    Machine d.aagListLen :=
  (m.send m.plcMac (.cmSetKeyReq
    { keyType := d.cmSetKeyReqKeyTypeNmk
      myNonce := 0xAAAAAAAA
      yourNonce := 0x00000000
      pid := d.cmSetKeyReqPidHle
      prn := d.cmSetKeyReqPrnUnused
      pmn := d.cmSetKeyReqPmnUnused
      ccoCapability := d.cmSetKeyReqCcoCapNone
      nid := d.generateNidFromNmk nmk
      newEks := d.cmSetKeyReqPeksNmkKnownToSta
      newKey := nmk })).goTo
    (.joinNetwork { timeout := deadlineIn env.now setKeyTimeoutMs, nmk := nmk })

def enterMatched : Machine d.aagListLen :=
  (m.emit [.signalState "MATCHED"]).goTo .matched

def enterFailed : Machine d.aagListLen := m.goTo .failed

end Machine

variable {d}

/-! ## Event handlers -/

variable (env : Env) (m : Machine d.aagListLen)

def resetHandleEvent : Event d.aagListLen → Machine d.aagListLen
  | .triggerMatching => m.enterInitSlac env
  | _ => m

def checkForValidParmConf (s : InitSlacState) (payload : Payload d.aagListLen) : Bool :=
  match payload with
  | .cmSlacParmCnf cnf => cnf.runId == s.runId
  | _ => false

def initSlacHandleEvent (s : InitSlacState) (m : Machine d.aagListLen) :
    Event d.aagListLen → Machine d.aagListLen
  | .slacMessage msg =>
    if checkForValidParmConf s msg.payload then
      (m.emit [.signalState "MATCHING"]).enterSounding env
        { runId := s.runId, evseMac := msg.srcMac }
    else m
  | .failed => m.enterFailed
  | .reset => m.enterReset
  | _ => m

/-- The reply to the result of sounding, if it is expected. -/
def handleValidAttenCharInd (s : SoundingState)
    (payload : Payload d.aagListLen) : Option (Payload d.aagListLen) :=
  if s.countMnbcSoundSent < d.cEvMatchMnbc then none
  else
    match payload with
    | .cmAttenCharInd ind =>
      if s.sessionParameters.runId == ind.runId then
        some (.cmAttenCharRsp
          { applicationType := 0x0
            securityType := 0x0
            sourceAddress := m.plcMac
            runId := ind.runId
            result := 0x0 })
      else none
    | _ => none

/-- There is no branch for `FAILED`. -/
def soundingHandleEvent (s : SoundingState) (m : Machine d.aagListLen) :
    Event d.aagListLen → Machine d.aagListLen
  | .slacMessage msg =>
    match handleValidAttenCharInd m s msg.payload with
    | some response =>
      (m.send s.sessionParameters.evseMac response).enterMatchRequest s.sessionParameters
    | none => m
  | .reset => m.enterReset
  | _ => m

variable (s : MatchRequestState)

def checkForValidMatchReqConf (payload : Payload d.aagListLen) :
    Option Nmk :=
  if s.numOfTries = 0 then none
  else
    match payload with
    | .cmSlacMatchCnf cnf => if s.sessionParameters.runId == cnf.runId then some cnf.nmk else none
    | _ => none

variable (m : Machine d.aagListLen)

def matchRequestHandleEvent :
    Event d.aagListLen → Machine d.aagListLen
  | .slacMessage msg =>
    match checkForValidMatchReqConf s msg.payload with
    | some nmk => m.enterJoinNetwork env nmk
    | none => m
  | .failed => m.enterFailed
  | .reset => m.enterReset
  | _ => m

def joinNetworkHandleEvent : Event d.aagListLen →
    Machine d.aagListLen
  | .slacMessage msg =>
    match msg.payload with
    | .cmSetKeyCnf => m.enterMatched
    | _ => m
  | .failed => m.enterFailed
  | .reset => m.enterReset
  | _ => m

def endHandleEvent : Event d.aagListLen → Machine d.aagListLen
  | .reset => m.enterReset
  | _ => m

def handleEvent (ev : Event d.aagListLen) :
    Machine d.aagListLen :=
  match m.fsm with
  | .reset => resetHandleEvent env m ev
  | .initSlac s => initSlacHandleEvent env s m ev
  | .sounding s => soundingHandleEvent s m ev
  | .matchRequest s => matchRequestHandleEvent env s m ev
  | .joinNetwork _ => joinNetworkHandleEvent m ev
  | .matched => endHandleEvent m ev
  | .failed => endHandleEvent m ev

/-! ## Callbacks -/

def broadcastMac : Mac := #v[0xFF, 0xFF, 0xFF, 0xFF, 0xFF, 0xFF]

def sendParmReq (s : InitSlacState) (m : Machine d.aagListLen) :
    Machine d.aagListLen × CallbackReturn d.aagListLen :=
  ((m.send broadcastMac (.cmSlacParmReq
    { applicationType := 0x0, securityType := 0x0, runId := s.runId })).goTo
    (.initSlac { s with
      numOfTries := s.numOfTries + 1
      nextTimeout := deadlineIn env.now d.ttMatchResponseMs }), .value d.ttMatchResponseMs)

def initSlacCallback (s : InitSlacState) (m : Machine d.aagListLen) :
    Machine d.aagListLen × CallbackReturn d.aagListLen :=
  if s.numOfTries = 0 then sendParmReq env s m
  else if 0 < millisecondsLeft env.now s.nextTimeout then
    (m, .value (millisecondsLeft env.now s.nextTimeout))
  else if s.numOfTries < 100 then sendParmReq env s m
  else (m, .event .failed)

def sendMatchReq :
    Machine d.aagListLen × CallbackReturn d.aagListLen :=
  ((m.send s.sessionParameters.evseMac (.cmSlacMatchReq
    { applicationType := 0x0
      securityType := 0x0
      mvfLength := 0x3e
      pevId := List.replicate d.pevIdLen 0
      pevMac := m.plcMac
      evseId := List.replicate d.evseIdLen 0
      evseMac := s.sessionParameters.evseMac
      runId := s.sessionParameters.runId })).goTo
    (.matchRequest { s with
      numOfTries := s.numOfTries + 1
      nextTimeout := deadlineIn env.now d.ttMatchResponseMs }), .value d.ttMatchResponseMs)

def matchRequestCallback :
    Machine d.aagListLen × CallbackReturn d.aagListLen :=
  if s.numOfTries = 0 then sendMatchReq env s m
  else if 0 < millisecondsLeft env.now s.nextTimeout then
    (m, .value (millisecondsLeft env.now s.nextTimeout))
  else if s.numOfTries < d.cEvMatchRetry then sendMatchReq env s m
  else (m, .event .failed)

def joinNetworkCallback (s : JoinNetworkState) (m : Machine d.aagListLen) :
    Machine d.aagListLen × CallbackReturn d.aagListLen :=
  if 0 < millisecondsLeft env.now s.timeout then
    (m, .value (millisecondsLeft env.now s.timeout))
  else (m, .event .failed)

/-- Send the next message of sounding; the result says whether there are more. -/
def doSounding (s : SoundingState) (m : Machine d.aagListLen) :
    SoundingState × Machine d.aagListLen × Bool :=
  if s.countStartAttenCharSent < d.cEvStartAttenCharInds then
    ({ s with countStartAttenCharSent := s.countStartAttenCharSent + 1 },
      m.send s.sessionParameters.evseMac (.cmStartAttenCharInd
        { applicationType := 0x0
          securityType := 0x0
          numSounds := UInt8.ofInt d.cEvMatchMnbc
          timeout := UInt8.ofInt ((d.ttEvseMatchMnbcMs + 99).tdiv 100)
          respType := 0x01
          forwardingSta := m.plcMac
          runId := s.sessionParameters.runId }),
      s.countMnbcSoundSent < d.cEvMatchMnbc)
  else if s.countMnbcSoundSent < d.cEvMatchMnbc then
    ({ s with countMnbcSoundSent := s.countMnbcSoundSent + 1 },
      m.send s.sessionParameters.evseMac (.cmMnbcSoundInd
        { applicationType := 0x0
          securityType := 0x0
          remainingSoundCount := UInt8.ofInt (d.cEvMatchMnbc - (s.countMnbcSoundSent + 1))
          runId := s.sessionParameters.runId
          random := env.random }),
      s.countMnbcSoundSent + 1 < d.cEvMatchMnbc)
  else (s, m, s.countMnbcSoundSent < d.cEvMatchMnbc)

def nextStepDelayMs : Int := 20

def soundingCallback (s : SoundingState) (m : Machine d.aagListLen) :
    Machine d.aagListLen × CallbackReturn d.aagListLen :=
  let soundingTimeLeft := millisecondsLeft env.now s.soundingTimeout
  if soundingTimeLeft ≤ 0 then (m, .event .failed)
  else if s.countMnbcSoundSent = 10 then (m, .value soundingTimeLeft)
  else
    let s := if s.countStartAttenCharSent = 0 then { s with nextTimeout := env.now } else s
    let nextStepTimeLeft := millisecondsLeft env.now s.nextTimeout
    if 0 < nextStepTimeLeft then
      (m.goTo (.sounding s), .value (min nextStepTimeLeft soundingTimeLeft))
    else
      let r := doSounding env s m
      if r.2.2 then
        (r.2.1.goTo (.sounding { r.1 with nextTimeout := deadlineIn env.now nextStepDelayMs }),
          .value (min nextStepDelayMs soundingTimeLeft))
      else (r.2.1.goTo (.sounding r.1), .value soundingTimeLeft)

/-- The callback of the current state; `MatchedState` and `FailedState` have none. -/
def callback :
    Machine d.aagListLen × CallbackReturn d.aagListLen :=
  match m.fsm with
  | .reset => (m, .nothing)
  | .initSlac s => initSlacCallback env s m
  | .sounding s => soundingCallback env s m
  | .matchRequest s => matchRequestCallback env s m
  | .joinNetwork s => joinNetworkCallback env s m
  | .matched => (m, .nothing)
  | .failed => (m, .nothing)

def feed : Machine d.aagListLen :=
  let r := callback env m
  match r.2 with
  | .event ev => handleEvent env r.1 ev
  | _ => r.1

/-! ## The controller -/

inductive Label (n : Nat) where
  | message (env : Env) (msg : HomeplugMessage n)
  | reset (env : Env)
  | triggerMatching (env : Env)
  | feed (env : Env)
deriving DecidableEq

def step : Label d.aagListLen → Machine d.aagListLen
  | .message env msg => handleEvent env m (.slacMessage msg)
  | .reset env => handleEvent env m .reset
  | .triggerMatching env => handleEvent env m .triggerMatching
  | .feed env => feed env m

end EverestCore.Slac.Ev
