import Mathlib

/-!
# The PDU correlation layer of the Modbus library

Calls send a request and wait for the PDU with the same context; polls receive PDUs
and hand them to the calls that listen, or to `on_pdu`. Calls and polls run in
threads of their own: a step is what one thread does under the lock, or between two
uses of shared data.

PDUs are numbered as they are received; the numbers, the owners of entries and the
list of deliveries only observe.
-/

namespace EverestCore.Modbus.Correlation

structure GenericPDU where
  functionCode : UInt8
  data : List UInt8 := []
deriving DecidableEq

/-! ## Contexts -/

structure Context where
  data : List UInt8
deriving DecidableEq

structure TCPContext where
  transactionId : UInt16 := 0
  protocolId : UInt16 := 0
  unitId : UInt8 := 0
deriving DecidableEq

def TCPContext.toContext (c : TCPContext) : Context where
  data := [(c.transactionId >>> 8).toUInt8, c.transactionId.toUInt8,
    (c.protocolId >>> 8).toUInt8, c.protocolId.toUInt8, c.unitId]

/-- The context of a request; the unit id is kept in 16 bits and sent in eight. -/
def newSendContext (sendingUnitId transactionId : UInt16) : Context :=
  TCPContext.toContext { transactionId := transactionId, unitId := sendingUnitId.toUInt8 }

/-! ## Calls -/

structure Received where
  number : Nat
  context : Context
  pdu : GenericPDU
deriving DecidableEq

inductive CallError where
  | timeout
  | contextIsGone
  | transport
deriving DecidableEq

/-- How far a call is. The transaction id is read and incremented without a lock, so
the two are steps of their own. -/
inductive Stage where
  | none
  | called
  | idRead (transactionId : UInt16)
  | contextTaken
  | listening
  | looping
  | waiting
  | returned (response : Option Received)
  | thrown (error : CallError)
deriving DecidableEq

structure Call where
  stage : Stage := .none
  expectsResponse : Bool := true
  request : GenericPDU := { functionCode := 0 }
  context : Context := ⟨[]⟩
  /-- How many PDUs had been received when the request was sent. -/
  sentAt : Nat := 0
  /-- A PDU has been put into the entry of the call. -/
  answered : Bool := false
deriving DecidableEq

/-- Before its entry is there, between that and its end, and after it. -/
inductive Phase where
  | early
  | pending
  | ended
deriving DecidableEq

def Stage.phase : Stage → Phase
  | .none | .called | .idRead _ | .contextTaken => .early
  | .listening | .looping | .waiting => .pending
  | .returned _ | .thrown _ => .ended

def Call.Ended (c : Call) : Prop := c.stage.phase = .ended

/-- The call has sent its request and has neither ended nor been answered. -/
def Call.StillWaiting (c : Call) : Prop :=
  (c.stage = .looping ∨ c.stage = .waiting) ∧ c.answered = false
deriving Decidable

/-- Function codes are compared without the error bit. -/
def sameFunction (a b : UInt8) : Bool := a &&& 0x7f == b &&& 0x7f

/-- A call a PDU is meant for: it waits since before the PDU was received, and has the
same context and function code. -/
def Call.Awaits (c : Call) (r : Received) : Prop :=
  c.StillWaiting ∧ c.sentAt ≤ r.number ∧ c.context = r.context ∧
    sameFunction c.request.functionCode r.pdu.functionCode = true
deriving Decidable

/-! ## Shared data -/

structure Entry where
  context : Context
  functionCode : UInt8
  pdu : Option Received := none
  owner : Nat
deriving DecidableEq

def Entry.listensFor (r : Received) (e : Entry) : Bool :=
  e.context == r.context && sameFunction e.functionCode r.pdu.functionCode

inductive Recipient where
  | call (i : Nat)
  | onPdu
deriving DecidableEq

/-- Who got a PDU, with the calls as they were at that moment. -/
structure Delivery where
  received : Received
  recipient : Recipient
  calls : Nat → Call

structure State where
  sendingUnitId : UInt16 := 0xFF
  currentTransactionId : UInt16 := 0
  listeningForResponse : List Entry := []
  calls : Nat → Call := fun _ => {}
  /-- Received by a poll that has not got the lock yet. -/
  inFlight : List Received := []
  sent : List (Context × GenericPDU) := []
  received : Nat := 0
  deliveries : List Delivery := []

def State.setCall (s : State) (i : Nat) (c : Call) : State :=
  { s with calls := Function.update s.calls i c }

/-- The search of a call for its entry: the last one with its context. -/
def lastIndex (context : Context) : List Entry → Option Nat
  | [] => none
  | e :: rest =>
    match lastIndex context rest with
    | some k => some (k + 1)
    | none => if e.context = context then some 0 else none

/-! ## Steps -/

inductive Label where
  | request (i : Nat) (expectsResponse : Bool) (request : GenericPDU)
  | readTransactionId (i : Nat)
  | writeTransactionId (i : Nat)
  | listen (i : Nat)
  | send (i : Nat)
  | sendFails (i : Nat)
  | startWaiting (i : Nat)
  | expire (i : Nat)
  | wake (i : Nat)
  | receive (context : Context) (pdu : GenericPDU)
  | correlate (k : Nat)
deriving DecidableEq

section

variable (s : State) (i : Nat)

def request (expectsResponse : Bool) (request : GenericPDU) : State :=
  match (s.calls i).stage with
  | .none => s.setCall i
      { stage := .called, expectsResponse := expectsResponse, request := request }
  | _ => s

def readTransactionId : State :=
  match (s.calls i).stage with
  | .called => s.setCall i { s.calls i with stage := .idRead s.currentTransactionId }
  | _ => s

def writeTransactionId : State :=
  match (s.calls i).stage with
  | .idRead transactionId =>
    { s.setCall i
        { s.calls i with
          stage := .contextTaken
          context := newSendContext s.sendingUnitId transactionId } with
      currentTransactionId := transactionId + 1 }
  | _ => s

/-- Only a call that expects a response listens. -/
def listen : State :=
  match (s.calls i).stage, (s.calls i).expectsResponse with
  | .contextTaken, true =>
    { s.setCall i { s.calls i with stage := .listening } with
      listeningForResponse := s.listeningForResponse ++
        [{ context := (s.calls i).context
           functionCode := (s.calls i).request.functionCode
           owner := i }] }
  | _, _ => s

def sendRequest (next : Stage) : State :=
  { s.setCall i { s.calls i with stage := next, sentAt := s.received } with
    sent := s.sent ++ [((s.calls i).context, (s.calls i).request)] }

def send : State :=
  match (s.calls i).stage, (s.calls i).expectsResponse with
  | .listening, _ => sendRequest s i .looping
  | .contextTaken, false => sendRequest s i (.returned none)
  | _, _ => s

def sendFails : State :=
  match (s.calls i).stage, (s.calls i).expectsResponse with
  | .listening, _ => s.setCall i { s.calls i with stage := .thrown .transport }
  | .contextTaken, false => s.setCall i { s.calls i with stage := .thrown .transport }
  | _, _ => s

def startWaiting : State :=
  match (s.calls i).stage with
  | .looping => s.setCall i { s.calls i with stage := .waiting }
  | _ => s

def expire : State :=
  match (s.calls i).stage with
  | .looping => s.setCall i { s.calls i with stage := .thrown .timeout }
  | _ => s

/-- A notification, the end of the waiting time or neither: the call has the lock
again and looks for its response. -/
def wake : State :=
  match (s.calls i).stage with
  | .waiting =>
    match lastIndex (s.calls i).context s.listeningForResponse with
    | none => s.setCall i { s.calls i with stage := .thrown .contextIsGone }
    | some index =>
      match (s.listeningForResponse[index]?).bind (·.pdu) with
      | some response =>
        { s.setCall i { s.calls i with stage := .returned (some response) } with
          listeningForResponse := s.listeningForResponse.eraseIdx index }
      | none => s.setCall i { s.calls i with stage := .looping }
  | _ => s

end

def receive (s : State) (context : Context) (pdu : GenericPDU) : State :=
  { s with
    inFlight := s.inFlight ++ [⟨s.received, context, pdu⟩]
    received := s.received + 1 }

/-- The first entry that listens for the PDU gets it. -/
def fillEntry (s : State) (r : Received) (index : Nat) : State :=
  match s.listeningForResponse[index]? with
  | some e =>
    { s.setCall e.owner { s.calls e.owner with answered := true } with
      listeningForResponse := s.listeningForResponse.set index { e with pdu := some r }
      deliveries := ⟨r, .call e.owner, s.calls⟩ :: s.deliveries }
  | none => s

variable (onPdu : Option (GenericPDU → Option GenericPDU))

/-- Nobody listens: `on_pdu` gets the PDU, and its response is sent. -/
def callOnPdu (s : State) (r : Received) :
    State :=
  { s with
    sent := s.sent ++ match onPdu with
      | some handler => ((handler r.pdu).map fun response => (r.context, response)).toList
      | none => []
    deliveries := ⟨r, .onPdu, s.calls⟩ :: s.deliveries }

def correlate (s : State) (k : Nat) : State :=
  match s.inFlight[k]? with
  | none => s
  | some r =>
    let s := { s with inFlight := s.inFlight.eraseIdx k }
    match s.listeningForResponse.findIdx? (Entry.listensFor r) with
    | some index => fillEntry s r index
    | none => callOnPdu onPdu s r

def step (s : State) : Label → State
  | .request i expectsResponse r => request s i expectsResponse r
  | .readTransactionId i => readTransactionId s i
  | .writeTransactionId i => writeTransactionId s i
  | .listen i => listen s i
  | .send i => send s i
  | .sendFails i => sendFails s i
  | .startWaiting i => startWaiting s i
  | .expire i => expire s i
  | .wake i => wake s i
  | .receive context pdu => receive s context pdu
  | .correlate k => correlate onPdu s k

def init (sendingUnitId transactionId : UInt16) : State :=
  { sendingUnitId := sendingUnitId, currentTransactionId := transactionId }

end EverestCore.Modbus.Correlation
