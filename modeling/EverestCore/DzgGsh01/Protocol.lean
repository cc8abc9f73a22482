import Mathlib.Data.List.Basic

/-!
# The DZG GSH01 driver: replies of the meter and what the driver does with them

The meter answers a command with a frame of parts, one for each command in the request.
Frames that arrive intact go to a queue; the driver takes them from its end and
interprets their parts.

A part is what its bytes say (command, status, data); data that only telemetry reads is left
out, and so is the address of the meter.
-/

namespace EverestCore.DzgGsh01

/-- The status byte of a part, and the driver's own results. -/
inductive CommandResult
  | ok
  | generalError
  | outOfRange
  | securityAccessDenied
  | rejected
  | formatInvalid
  | notAvailable
  | busy
  | publicKeyMissing
  | protocolError
  | timeout
  | communicationFailed
  | pending
  /-- A byte without a name. -/
  | unnamed (byte : Nat)
  deriving DecidableEq

def CommandResult.code : CommandResult → Nat
  | .ok => 0
  | .generalError => 1
  | .outOfRange => 2
  | .securityAccessDenied => 3
  | .rejected => 4
  | .formatInvalid => 6
  | .notAvailable => 7
  | .busy => 8
  | .publicKeyMissing => 9
  | .protocolError => 250
  | .timeout => 251
  | .communicationFailed => 254
  | .pending => 255
  | .unnamed byte => byte

/-- No text exists for an unnamed byte. -/
def commandResultToString : CommandResult → Option String
  | .ok => some "OK"
  | .generalError => some "General Error"
  | .outOfRange => some "Out of Range"
  | .securityAccessDenied => some "Security Access Denied"
  | .rejected => some "Rejected"
  | .formatInvalid => some "Format Invalid"
  | .notAvailable => some "Not Available"
  | .busy => some "Busy"
  | .publicKeyMissing => some "Public Key Missing"
  | .protocolError => some "Protocol Error"
  | .timeout => some "Timeout"
  | .communicationFailed => some "Communication Failed"
  | .pending => some "Pending"
  | .unnamed _ => none

inductive MessageStatus
  | none
  | sent
  | received
  deriving DecidableEq

inductive Body
  | startTransaction
  | stopTransaction
  | time (utcTimeS : Nat)
  /-- The status word; the driver reads its charging bit only. -/
  | statusWord (charging : Bool)
  | lastOcmf (text : String)
  | other
  deriving DecidableEq

structure Part where
  status : CommandResult
  body : Body
  deriving DecidableEq

abbrev Message := List Part

inductive Reply
  | empty
  | partialMessage
  /-- Frames, those with a correct checksum in the order they were received. -/
  | unpacked (messages : List Message) (slipOk : Bool)
  deriving DecidableEq

/-- What arrives within the time-out of an exchange. -/
inductive Reception
  | nothing
  | partialMessage
  /-- Frames, the answer of the meter among them or not, and whether all of them are intact. -/
  | frames (answer : Bool) (slipOk : Bool)
  deriving DecidableEq

/-- The reply, given the answers the meter has sent. -/
def Reception.reply (answers : List Message) : Reception → Reply
  | .nothing => .empty
  | .partialMessage => .partialMessage
  | .frames arrives slipOk => .unpacked (if arrives then answers else []) slipOk

structure Driver where
  communicationTimeout : Bool := false
  /-- Whether the communication fault is active in EVerest. -/
  errorActive : Bool := false
  startTransactionMsgStatus : MessageStatus := .none
  startTransactResult : CommandResult := .ok
  stopTransactionMsgStatus : MessageStatus := .none
  stopTransactResult : CommandResult := .ok
  getTransactionValuesMsgStatus : MessageStatus := .none
  needToStopTransaction : Bool := false
  utcTimeS : Nat := 0
  charging : Bool := false
  lastOcmfStr : String := ""
  /-- The queue of frames, the one to be taken next first. -/
  messageQueue : List Message := []
  deriving DecidableEq

variable (d : Driver)

def processPart (part : Part) : Driver :=
  if part.status ≠ .ok then d
  else match part.body with
    | .startTransaction =>
      { d with startTransactionMsgStatus := .received, startTransactResult := part.status }
    | .stopTransaction =>
      { d with stopTransactionMsgStatus := .received, stopTransactResult := part.status }
    | .time utcTimeS => { d with utcTimeS }
    | .statusWord charging => { d with charging }
    | .lastOcmf text =>
      { d with
        getTransactionValuesMsgStatus :=
          if d.getTransactionValuesMsgStatus = .sent then .received
          else d.getTransactionValuesMsgStatus
        lastOcmfStr := text }
    | .other => d

def processResponse (message : Message) : Driver × CommandResult :=
  (message.foldl processPart d,
    ((message.find? fun part => part.status != .ok).map Part.status).getD .ok)

/-- The frames of the queue, one after the other; the last error is reported. -/
def processQueue (d : Driver) (result : CommandResult) : List Message → Driver × CommandResult
  | [] => (d, result)
  | message :: rest =>
    let processed := processResponse d message
    processQueue processed.1 (if processed.2 ≠ .ok then processed.2 else result) rest

def handleResponse : Reply → Driver × CommandResult
  | .empty => (d, .timeout)
  | .partialMessage => (d, .communicationFailed)
  | .unpacked messages slipOk =>
    let queue := messages.reverse ++ d.messageQueue
    if slipOk then processQueue { d with messageQueue := [] } .ok queue
    else ({ d with messageQueue := queue }, .formatInvalid)

/-- A reception in the loop of `send_receive`; whether the loop goes on. -/
def receive (reply : Reply) : Driver × Bool :=
  let handled := handleResponse d reply
  let d' := handled.1
  if handled.2 = .timeout then
    (if d'.errorActive then d' else { d' with communicationTimeout := true, errorActive := true },
      true)
  else
    (if d'.errorActive then { d' with communicationTimeout := false, errorActive := false } else d',
      false)

/-! ## What the handling of a reply keeps -/

def Reply.messages : Reply → List Message
  | .unpacked messages _ => messages
  | _ => []

section

variable {P : Driver → Prop}

theorem processResponse_keeps {message : Message}
    (hpart : ∀ part ∈ message, ∀ d, P d → P (processPart d part)) {d : Driver} (hd : P d) :
    P (processResponse d message).1 := by
  show P (message.foldl processPart d)
  induction message generalizing d with
  | nil => exact hd
  | cons part rest ih =>
    exact ih (fun p hp => hpart p (List.mem_cons_of_mem _ hp)) (hpart part List.mem_cons_self d hd)

theorem processQueue_keeps {queue : List Message}
    (hpart : ∀ message ∈ queue, ∀ part ∈ message, ∀ d, P d → P (processPart d part)) {d : Driver}
    (result : CommandResult) (hd : P d) : P (processQueue d result queue).1 := by
  induction queue generalizing d result with
  | nil => exact hd
  | cons message rest ih =>
    exact ih (fun m hm => hpart m (List.mem_cons_of_mem _ hm)) _
      (processResponse_keeps (hpart message List.mem_cons_self) hd)

theorem receive_eq (reply : Reply) : ∃ timeout error,
    (receive d reply).1 =
      { (handleResponse d reply).1 with
        communicationTimeout := timeout, errorActive := error } := by
  simp only [receive]
  by_cases hresult : (handleResponse d reply).2 = .timeout
  · rw [if_pos hresult]
    by_cases herror : (handleResponse d reply).1.errorActive = true
    · exact ⟨_, _, if_pos herror⟩
    · exact ⟨_, _, if_neg herror⟩
  · rw [if_neg hresult]
    by_cases herror : (handleResponse d reply).1.errorActive = true
    · exact ⟨_, _, if_pos herror⟩
    · exact ⟨_, _, if_neg herror⟩

theorem receive_keeps {d : Driver} {reply : Reply} (hq : d.messageQueue = [])
    (hpart : ∀ message ∈ reply.messages, ∀ part ∈ message, ∀ d, P d → P (processPart d part))
    (hflags : ∀ d timeout error, P d →
      P { d with communicationTimeout := timeout, errorActive := error })
    (hqueue : ∀ d queue, P d → P { d with messageQueue := queue }) (hd : P d) :
    P (receive d reply).1 := by
  obtain ⟨timeout, error, heq⟩ := receive_eq d reply
  rw [heq]
  refine hflags _ _ _ ?_
  match reply with
  | .empty => exact hd
  | .partialMessage => exact hd
  | .unpacked messages false => exact hqueue _ _ hd
  | .unpacked messages true =>
    refine processQueue_keeps (fun message hmem => hpart message ?_) _ (hqueue _ _ hd)
    rw [hq, List.append_nil] at hmem
    exact List.mem_reverse.mp hmem

end

/-- A reply that leaves no frame behind in the queue. -/
def Reply.Intact : Reply → Prop
  | .unpacked (_ :: _) false => False
  | _ => True

instance : ∀ reply : Reply, Decidable reply.Intact
  | .unpacked (_ :: _) false => .isFalse id
  | .unpacked (_ :: _) true | .unpacked [] _ | .empty | .partialMessage => .isTrue trivial

/-- The answer of the meter is not received together with a broken frame. -/
def Reception.Intact (r : Reception) : Prop := r ≠ .frames true false
deriving Decidable

theorem Reception.reply_intact (answers : List Message) {r : Reception} (h : r.Intact) :
    (r.reply answers).Intact := by
  match r with
  | .nothing => trivial
  | .partialMessage => trivial
  | .frames false slipOk => cases slipOk <;> trivial
  | .frames true true => cases answers <;> trivial
  | .frames true false => exact absurd rfl h

theorem Reception.mem_reply {answers : List Message} {r : Reception} {message : Message}
    (h : message ∈ (r.reply answers).messages) : message ∈ answers := by
  match r with
  | .nothing => cases h
  | .partialMessage => cases h
  | .frames false _ => cases h
  | .frames true _ => exact h

@[simp] theorem processPart_messageQueue (part : Part) :
    (processPart d part).messageQueue = d.messageQueue := by
  unfold processPart
  by_cases hstatus : part.status ≠ .ok
  · rw [if_pos hstatus]
  · rw [if_neg hstatus]
    cases part.body <;> rfl

theorem receive_messageQueue {d : Driver} {reply : Reply} (hq : d.messageQueue = [])
    (hreply : reply.Intact) : (receive d reply).1.messageQueue = [] := by
  obtain ⟨timeout, error, heq⟩ := receive_eq d reply
  rw [heq]
  show (handleResponse d reply).1.messageQueue = []
  match reply, hreply with
  | .empty, _ => exact hq
  | .partialMessage, _ => exact hq
  | .unpacked [] false, _ => exact hq
  | .unpacked messages true, _ =>
    exact processQueue_keeps (P := fun d => d.messageQueue = [])
      (fun _ _ part _ d h => (processPart_messageQueue d part).trans h) _ rfl

/-! ## Transactions -/

inductive TransactionRequestStatus
  | ok
  | notSupported
  | unexpectedError
  deriving DecidableEq

structure SignedMeterValue where
  signedMeterData : String
  signingMethod : String
  encodingMethod : String
  deriving DecidableEq

structure TransactionStopResponse where
  status : TransactionRequestStatus
  signedMeterValue : Option SignedMeterValue := none
  deriving DecidableEq

def errorSubstring : String := "Error: command failed with code "

/-- The text that stands for a record that could not be read. -/
def errorText (result : CommandResult) : String :=
  errorSubstring ++ toString result.code ++ ". (" ++ (commandResultToString result).getD "" ++ ")"

def contains (text part : String) : Bool := text.toList.tails.any part.toList.isPrefixOf

def Driver.prepareStop : Driver :=
  { d with stopTransactResult := .pending, stopTransactionMsgStatus := .sent }

def Driver.checkStop : Driver :=
  if d.stopTransactionMsgStatus ≠ .received then { d with stopTransactResult := .timeout } else d

def Driver.prepareOcmf : Driver :=
  { d with getTransactionValuesMsgStatus := .sent }

def Driver.checkOcmf : String × Driver :=
  let d' := if d.getTransactionValuesMsgStatus ≠ .received then
    { d with stopTransactResult := .timeout } else d
  (if d'.stopTransactResult ≠ .ok then errorText d'.stopTransactResult else d'.lastOcmfStr, d')

/-- The answer to a stop, once the text of the record is there. -/
def stopResponse (ocmfResult : String) : TransactionStopResponse :=
  if contains ocmfResult errorSubstring then { status := .unexpectedError }
  else { status := .ok, signedMeterValue := some ⟨ocmfResult, "", "OCMF"⟩ }

end EverestCore.DzgGsh01
