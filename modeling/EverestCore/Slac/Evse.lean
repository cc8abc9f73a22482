import EverestCore.Lib.Machine
import EverestCore.Slac.EvseMatching

/-!
# The SLAC state machine of the EVSE

All states with their entry actions, event handlers and callbacks, and the
controller that feeds messages, commands and clock ticks into them one at a time.
A new state is entered at once, after the old one has been left; an event that is
passed on is dropped.
-/

namespace EverestCore.Slac.Evse

open EverestCore.Slac

inductive InitSubState where
  | qualcommOpAttr
  | lumissilGetVersion
  | done
deriving DecidableEq

inductive ResetChipSubState where
  | delay
  | sendReset
  | done
deriving DecidableEq

structure WaitForLinkState where
  linkStatusReqSent : Bool := false
  startTime : Int := 0
  matchCnfMessage : Option CmSlacMatchCnf
deriving DecidableEq

inductive FsmState (n : Nat) where
  | init (subState : InitSubState)
  | reset (setupHasBeenSend : Bool)
  | resetChip (subState : ResetChipSubState)
  | idle
  | matching (state : MatchingState n)
  | waitForLink (state : WaitForLinkState)
  | matched (linkStatusReqSent : Bool)
  | failed
deriving DecidableEq

inductive Event (n : Nat) where
  | reset
  | enterBcd
  | leaveBcd
  | slacMessage (msg : HomeplugMessage n)
  | retryMatching
  | matchComplete
  | failed
  | success
deriving DecidableEq

/-- What a callback returns: an event for its own state, the time until the next
callback in milliseconds, or nothing. Reading an empty result is an error. -/
inductive CallbackReturn (n : Nat) where
  | event (ev : Event n)
  | value (ms : Int)
  | nothing
  | emptyValue
deriving DecidableEq

/-- The context, the current state, and what was sent and signalled, oldest
first. -/
structure Machine (n : Nat) where
  config : EvseSlacConfig := {}
  modemVendor : ModemVendor := .unknown
  fsm : FsmState n := .init .qualcommOpAttr
  log : List (Out n) := []
deriving DecidableEq

structure Env where
  now : Int := 0
  nmk : Nmk := Vector.replicate 16 0
deriving DecidableEq

variable (d : Defs)

namespace Machine

variable {d} (m : Machine d.aagListLen)

def emit (outs : List (Out d.aagListLen)) : Machine d.aagListLen :=
  { m with log := m.log ++ outs }

def send (mac : Mac) (payload : Payload d.aagListLen) :
    Machine d.aagListLen :=
  m.emit [.send mac payload]

def goTo (fsm : FsmState d.aagListLen) : Machine d.aagListLen :=
  { m with fsm := fsm }

/-- Only `MatchedState` has something to do when it is left. -/
def leave : Machine d.aagListLen :=
  match m.fsm with
  | .matched _ => m.emit [.signalDlinkReady false]
  | _ => m

/-! ## Entering states -/

def enterReset (env : Env) (m : Machine d.aagListLen) : Machine d.aagListLen :=
  { m.leave with config.sessionNmk := env.nmk }.goTo (.reset false)

def enterResetChip : Machine d.aagListLen :=
  m.leave.goTo (.resetChip .delay)

def enterIdle : Machine d.aagListLen :=
  (m.leave.emit [.signalState "UNMATCHED"]).goTo .idle

def enterMatching (env : Env) (m : Machine d.aagListLen) : Machine d.aagListLen :=
  (m.leave.emit [.signalState "MATCHING"]).goTo
    (.matching { timeoutSlacParmReq := deadlineIn env.now d.ttEvseSlacInitMs })

def enterWaitForLink (env : Env) (matchCnfMessage : Option CmSlacMatchCnf)
    (m : Machine d.aagListLen) : Machine d.aagListLen :=
  m.leave.goTo (.waitForLink { startTime := env.now, matchCnfMessage := matchCnfMessage })

def enterMatched : Machine d.aagListLen :=
  (m.leave.emit [.signalState "MATCHED", .signalDlinkReady true]).goTo (.matched false)

def enterFailed : Machine d.aagListLen :=
  (if m.config.acModeFivePercent then m.leave.emit [.signalErrorRoutineRequest]
    else m.leave).goTo .failed

end Machine

/-! ## Setting the key and finding out about the link -/

def createCmSetKeyReq (sessionNmk : Nmk) : CmSetKeyReq where
  keyType := d.cmSetKeyReqKeyTypeNmk
  myNonce := 0x00000000
  yourNonce := 0x00000000
  pid := d.cmSetKeyReqPidHle
  prn := d.cmSetKeyReqPrnUnused
  pmn := d.cmSetKeyReqPmnUnused
  ccoCapability := d.cmSetKeyReqCcoCapNone
  nid := d.generateNidFromNmk sessionNmk
  newEks := d.cmSetKeyReqPeksNmkKnownToSta
  newKey := sessionNmk

def checkLinkStatusCnf {n : Nat} (modemVendor : ModemVendor) (payload : Payload n) :
    Option Bool :=
  match modemVendor, payload with
  | .qualcomm, .qualcommLinkStatusCnf linkStatus => some (linkStatus == 0x01)
  | .lumissil, .lumissilNscmGetDLinkStatusCnf linkStatus => some (linkStatus == 0x01)
  | _, _ => none

/-- Only two vendors can be asked; for any other nothing is sent. -/
def sendLinkStatusReq {d : Defs} (m : Machine d.aagListLen) : Machine d.aagListLen × Bool :=
  match m.modemVendor with
  | .qualcomm => (m.send m.config.plcPeerMac .qualcommLinkStatusReq, true)
  | .lumissil => (m.send m.config.plcPeerMac .lumissilNscmGetDLinkStatusReq, true)
  | _ => (m, false)

/-! ## Event handlers -/

variable {d}

def initHandleSlacMessage (payload : Payload d.aagListLen) (m : Machine d.aagListLen) :
    Machine d.aagListLen :=
  match payload with
  | .qualcommOpAttrCnf => { m with modemVendor := .qualcomm }
  | .lumissilNscmGetVersionCnf => { m with modemVendor := .lumissil }
  | _ => m

variable (env : Env) (m : Machine d.aagListLen)

def initHandleEvent : Event d.aagListLen →
    Machine d.aagListLen
  | .slacMessage msg => initHandleSlacMessage msg.payload m
  | .success => m.enterReset env
  | _ => m

def resetHandleEvent : Event d.aagListLen →
    Machine d.aagListLen
  | .slacMessage msg =>
    match msg.payload with
    | .cmSetKeyCnf => if m.config.chipReset.enabled then m.enterResetChip else m.enterIdle
    | _ => m
  | .reset => m.enterReset env
  | _ => m

def resetChipHandleEvent : Event d.aagListLen →
    Machine d.aagListLen
  | .slacMessage msg =>
    match msg.payload with
    | .qualcommCmResetDeviceCnf => m.enterIdle
    | _ => m
  | .success => m.enterIdle
  | _ => m

def idleHandleEvent : Event d.aagListLen →
    Machine d.aagListLen
  | .enterBcd => m.enterMatching env
  | .reset => m.enterReset env
  | _ => m

def resetMatching (s : MatchingState d.aagListLen) : MatchingState d.aagListLen :=
  { s with
    sessions := []
    timeoutSlacParmReq := deadlineIn env.now d.ttEvseSlacInitMs
    seenSlacParmReq := false
    numRetries := 0 }

def matchingHandleEvent (s : MatchingState d.aagListLen)
    (m : Machine d.aagListLen) : Event d.aagListLen → Machine d.aagListLen
  | .slacMessage msg =>
    let r := handleSlacMessage d m.config env.now msg.srcMac s msg.payload
    (m.emit r.2).goTo (.matching r.1)
  | .reset => m.enterReset env
  | .matchComplete =>
    if m.config.linkStatus.doDetect then m.enterWaitForLink env s.matchCnfMessage
    else m.enterMatched
  | .retryMatching =>
    let s := { s with numRetries := s.numRetries + 1 }
    if s.numRetries = d.cEvMatchRetry then m.enterFailed
    else m.goTo (.matching
      { s with timeoutSlacParmReq := deadlineIn env.now d.ttEvseSlacInitMs })
  | .failed =>
    let s := { s with failedCount := s.failedCount + 1 }
    if m.config.resetInsteadOfFail = true ∧ s.failedCount < 2 then
      m.goTo (.matching (resetMatching env s))
    else m.enterFailed
  | _ => m

/-- A `CM_SLAC_MATCH.REQ` is answered with the confirmation sent before. -/
def waitForLinkHandleEvent (s : WaitForLinkState) (m : Machine d.aagListLen) :
    Event d.aagListLen → Machine d.aagListLen
  | .slacMessage msg =>
    if checkLinkStatusCnf m.modemVendor msg.payload = some true then m.enterMatched
    else
      match msg.payload, s.matchCnfMessage with
      | .cmSlacMatchReq _, some cnf => m.send msg.srcMac (.cmSlacMatchCnf cnf)
      | _, _ => m
  | .retryMatching => m.enterFailed
  | .reset => m.enterReset env
  | _ => m

def matchedHandleEvent : Event d.aagListLen →
    Machine d.aagListLen
  | .slacMessage msg =>
    if checkLinkStatusCnf m.modemVendor msg.payload = some false then
      m.emit [.signalErrorRoutineRequest]
    else m
  | .reset => m.enterReset env
  | _ => m

def failedHandleEvent : Event d.aagListLen →
    Machine d.aagListLen
  | .reset => m.enterReset env
  | _ => m

def handleEvent (ev : Event d.aagListLen) :
    Machine d.aagListLen :=
  match m.fsm with
  | .init _ => initHandleEvent env m ev
  | .reset _ => resetHandleEvent env m ev
  | .resetChip _ => resetChipHandleEvent m ev
  | .idle => idleHandleEvent env m ev
  | .matching s => matchingHandleEvent env s m ev
  | .waitForLink s => waitForLinkHandleEvent env s m ev
  | .matched _ => matchedHandleEvent env m ev
  | .failed => failedHandleEvent env m ev

/-! ## Callbacks -/

def initCallback (subState : InitSubState) (m : Machine d.aagListLen) :
    Machine d.aagListLen × CallbackReturn d.aagListLen :=
  match subState with
  | .qualcommOpAttr =>
    ((m.send m.config.plcPeerMac .qualcommOpAttrReq).goTo (.init .lumissilGetVersion),
      .value m.config.requestInfoDelayMs)
  | .lumissilGetVersion =>
    ((m.send m.config.plcPeerMac .lumissilNscmGetVersionReq).goTo (.init .done),
      .value m.config.requestInfoDelayMs)
  | .done => (m, .event .success)

def resetCallback (setupHasBeenSend : Bool) (m : Machine d.aagListLen) :
    Machine d.aagListLen × CallbackReturn d.aagListLen :=
  if setupHasBeenSend then (m, .nothing)
  else
    ((m.send m.config.plcPeerMac (.cmSetKeyReq (createCmSetKeyReq d m.config.sessionNmk))).goTo
      (.reset true), .value m.config.setKeyTimeoutMs)

def resetChipCallback (subState : ResetChipSubState) (m : Machine d.aagListLen) :
    Machine d.aagListLen × CallbackReturn d.aagListLen :=
  match subState with
  | .delay => (m.goTo (.resetChip .sendReset), .value m.config.chipReset.delayMs)
  | .sendReset =>
    match m.modemVendor with
    | .qualcomm =>
      ((m.send m.config.plcPeerMac .qualcommCmResetDeviceReq).goTo (.resetChip .done),
        .value m.config.chipReset.timeoutMs)
    | .lumissil =>
      ((m.send m.config.plcPeerMac .lumissilNscmResetDeviceReq).goTo (.resetChip .done),
        .event .success)
    | _ => (m, .nothing)
  | .done => (m, .nothing)

def matchingCallback (s : MatchingState d.aagListLen) (m : Machine d.aagListLen) :
    Machine d.aagListLen × CallbackReturn d.aagListLen :=
  let r := callback d m.config env.now s
  ((m.emit r.2.1).goTo (.matching r.1), match r.2.2 with
    | .failed => .event .failed
    | .matchComplete => .event .matchComplete
    | .value ms => .value ms
    | .emptyValue => .emptyValue)

def waitForLinkCallback (s : WaitForLinkState) (m : Machine d.aagListLen) :
    Machine d.aagListLen × CallbackReturn d.aagListLen :=
  if s.linkStatusReqSent = false then
    let r := sendLinkStatusReq m
    (r.1.goTo (.waitForLink { s with linkStatusReqSent := r.2 }),
      .value m.config.linkStatus.retryMs)
  else if deadlineIn s.startTime m.config.linkStatus.timeoutMs < env.now then
    (m, .event .retryMatching)
  else
    (m.goTo (.waitForLink { s with linkStatusReqSent := false }),
      .value m.config.linkStatus.retryMs)

def matchedCallback (linkStatusReqSent : Bool) (m : Machine d.aagListLen) :
    Machine d.aagListLen × CallbackReturn d.aagListLen :=
  if m.config.linkStatus.doDetect = false then (m, .nothing)
  else if linkStatusReqSent = false then
    ((sendLinkStatusReq m).1.goTo (.matched (sendLinkStatusReq m).2),
      .value m.config.linkStatus.pollInMatchedStateMs)
  else (m.goTo (.matched false), .value m.config.linkStatus.pollInMatchedStateMs)

/-- The callback of the current state; `IdleState` and `FailedState` have none. -/
def machineCallback :
    Machine d.aagListLen × CallbackReturn d.aagListLen :=
  match m.fsm with
  | .init subState => initCallback subState m
  | .reset setupHasBeenSend => resetCallback setupHasBeenSend m
  | .resetChip subState => resetChipCallback subState m
  | .idle => (m, .nothing)
  | .matching s => matchingCallback env s m
  | .waitForLink s => waitForLinkCallback env s m
  | .matched linkStatusReqSent => matchedCallback linkStatusReqSent m
  | .failed => (m, .nothing)

def feed : Machine d.aagListLen :=
  let r := machineCallback env m
  match r.2 with
  | .event ev => handleEvent env r.1 ev
  | _ => r.1

/-! ## The controller -/

inductive Command where
  | reset
  | enterBcd
  | leaveBcd
deriving DecidableEq

def Command.event {n : Nat} : Command → Event n
  | .reset => .reset
  | .enterBcd => .enterBcd
  | .leaveBcd => .leaveBcd

inductive Label (n : Nat) where
  | message (env : Env) (msg : HomeplugMessage n)
  | command (env : Env) (command : Command)
  | feed (env : Env)
deriving DecidableEq

def step : Label d.aagListLen → Machine d.aagListLen
  | .message env msg => handleEvent env m (.slacMessage msg)
  | .command env command => handleEvent env m command.event
  | .feed env => feed env m

end EverestCore.Slac.Evse
