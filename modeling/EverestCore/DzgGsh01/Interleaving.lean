import EverestCore.DzgGsh01.Protocol
import EverestCore.Lib.Machine
import Mathlib.Data.List.Infix

/-!
# Stopping a transaction while other threads talk to the GSH01

Three threads share the driver: the one that stops a transaction, the one that reads
telemetry and the one that reads device data. A serial exchange is atomic; what it has
received is handled later, in a step of its own, and the steps of the threads interleave.
-/

namespace EverestCore.DzgGsh01

open EverestCore.Lib List

/-! ## Answers -/

inductive Request
  | registers
  | statusWord
  | deviceData
  | stopTransaction
  | lastTransactionOcmf
  deriving DecidableEq

/-- What an answer to a request can be about. -/
def Request.asks : Request → Body → Bool
  | .registers, .time _ => true
  | .registers, .other => true
  | .statusWord, .statusWord _ => true
  | .deviceData, .time _ => true
  | .deviceData, .lastOcmf _ => true
  | .deviceData, .other => true
  | .stopTransaction, .stopTransaction => true
  | .lastTransactionOcmf, .lastOcmf _ => true
  | _, _ => false

/-- One serial exchange: whether the request arrives, what the meter answers, and what arrives
of it. -/
structure Transmission where
  reached : Bool
  answer : Message
  reception : Reception
  deriving DecidableEq

/-- The answers the meter sends: none, or one. -/
def Transmission.sends (t : Transmission) (request : Request) : List Message :=
  if t.reached then [t.answer.filter fun part => request.asks part.body] else []

def Transmission.reply (t : Transmission) (request : Request) : Reply :=
  t.reception.reply (t.sends request)

/-- The message acknowledges the stop. -/
def Message.Acks (message : Message) : Prop := ⟨.ok, .stopTransaction⟩ ∈ message
deriving Decidable

def Message.records (message : Message) : List String :=
  message.filterMap fun part => match part with
    | ⟨.ok, .lastOcmf text⟩ => some text
    | _ => none

/-- The record came after an acknowledgement. -/
def RecordAfterAck (text : String) : List Message → Prop
  | [] => False
  | message :: rest =>
    (message.Acks ∧ ∃ later ∈ rest, text ∈ later.records) ∨ RecordAfterAck text rest

instance RecordAfterAck.decidable (text : String) :
    ∀ sent, Decidable (RecordAfterAck text sent)
  | [] => .isFalse id
  | message :: rest =>
    have := RecordAfterAck.decidable text rest
    inferInstanceAs (Decidable ((message.Acks ∧ ∃ later ∈ rest, _) ∨ _))

/-! ## Threads -/

/-- Where a call of `handle_stop_transaction` is. -/
inductive Caller
  | idle
  | stopping
  | stopAnswered (reply : Reply)
  | stopHandled
  | fetching
  | fetchAnswered (reply : Reply)
  | fetchHandled
  deriving DecidableEq

/-- Whether the record is being fetched. -/
def Caller.fetches : Caller → Bool
  | .fetching => true
  | .fetchAnswered _ => true
  | .fetchHandled => true
  | _ => false

/-- A thread that sends requests in turn: the next one, or the present one with its reply. -/
structure Background where
  request : Request
  pending : Option Reply := none
  deriving DecidableEq

inductive Thread
  | telemetry
  | deviceData
  deriving DecidableEq

def Thread.next : Thread → Request → Request
  | .telemetry, _ => .registers
  | .deviceData, .statusWord => .deviceData
  | .deviceData, _ => .statusWord

def Thread.first : Thread → Request
  | .telemetry => .registers
  | .deviceData => .statusWord

structure Sys where
  driver : Driver
  caller : Caller := .idle
  background : Thread → Background := fun thread => ⟨thread.first, none⟩
  /-- The answers the meter has sent since the stop was called. -/
  sent : List Message := []

inductive Label
  | call
  | callerExchange (transmission : Transmission)
  | callerHandle
  | callerCheck
  | exchange (thread : Thread) (transmission : Transmission)
  | handle (thread : Thread)
  deriving DecidableEq

variable (s : Sys)

variable (thread : Thread)

def Sys.setBackground (b : Background) : Sys :=
  { s with background := fun t => if t = thread then b else s.background t }

/-- The call fails at once while the communication is timed out. -/
def call : Sys :=
  match s.caller with
  | .idle =>
    if s.driver.communicationTimeout then
      { s with driver := { s.driver with needToStopTransaction := true } }
    else { s with driver := s.driver.prepareStop, caller := .stopping, sent := [] }
  | _ => s

def callerExchange (t : Transmission) : Sys :=
  match s.caller with
  | .stopping =>
    { s with
      caller := .stopAnswered (t.reply .stopTransaction)
      sent := s.sent ++ t.sends .stopTransaction }
  | .fetching =>
    { s with
      caller := .fetchAnswered (t.reply .lastTransactionOcmf)
      sent := s.sent ++ t.sends .lastTransactionOcmf }
  | _ => s

def callerHandle : Sys :=
  match s.caller with
  | .stopAnswered reply =>
    { s with
      driver := (receive s.driver reply).1
      caller := if (receive s.driver reply).2 then .stopping else .stopHandled }
  | .fetchAnswered reply =>
    { s with
      driver := (receive s.driver reply).1
      caller := if (receive s.driver reply).2 then .fetching else .fetchHandled }
  | _ => s

def Driver.stopped (d : Driver) (response : TransactionStopResponse) : Driver :=
  if response.status = .ok then { d with needToStopTransaction := false } else d

/-- What the caller does with a handled reply: it goes on to the record, or returns. -/
def callerCheck : Sys :=
  match s.caller with
  | .stopHandled =>
    if s.driver.checkStop.stopTransactResult ≠ .ok then
      { s with driver := s.driver.checkStop, caller := .idle }
    else { s with driver := s.driver.checkStop.prepareOcmf, caller := .fetching }
  | .fetchHandled =>
    { s with
      driver := s.driver.checkOcmf.2.stopped (stopResponse s.driver.checkOcmf.1)
      caller := .idle }
  | _ => s

def exchange (t : Transmission) : Sys :=
  match (s.background thread).pending with
  | none =>
    let request := (s.background thread).request
    { s.setBackground thread ⟨request, some (t.reply request)⟩ with
      sent := s.sent ++ t.sends request }
  | some _ => s

def handle : Sys :=
  match (s.background thread).pending with
  | none => s
  | some reply =>
    let request := (s.background thread).request
    let received := receive s.driver reply
    { s.setBackground thread ⟨if received.2 then request else thread.next request, none⟩ with
      driver := received.1 }

def sysStep : Label → Sys
  | .call => call s
  | .callerExchange t => callerExchange s t
  | .callerHandle => callerHandle s
  | .callerCheck => callerCheck s
  | .exchange thread t => exchange s thread t
  | .handle thread => handle s thread

/-! ## Properties of a step -/

/-- A call that returns success has a record that was sent after its stop was acknowledged. -/
def FreshReturn : Label → Prop
  | .callerCheck =>
    s.caller = .fetchHandled → (stopResponse s.driver.checkOcmf.1).status = .ok →
      ∃ value ∈ (stopResponse s.driver.checkOcmf.1).signedMeterValue,
        RecordAfterAck value.signedMeterData s.sent
  | _ => True

/-- No answer arrives together with broken frames, and while the record is being fetched the
other threads handle only records that are as new. -/
def Timely : Label → Prop
  | .callerExchange t => t.reception.Intact
  | .exchange _ t => t.reception.Intact
  | .handle thread =>
    s.caller.fetches = true →
      ∀ reply ∈ (s.background thread).pending, ∀ message ∈ reply.messages,
        ∀ text ∈ message.records, RecordAfterAck text s.sent
  | _ => True

/-! ## Records and acknowledgements -/

def AckedIn (sent : List Message) : Prop := ∃ message ∈ sent, message.Acks

variable {sent : List Message}

theorem AckedIn.append (h : AckedIn sent) (more : List Message) : AckedIn (sent ++ more) := by
  obtain ⟨message, hmem, hack⟩ := h
  exact ⟨message, mem_append_left _ hmem, hack⟩

variable {text : String}

theorem RecordAfterAck.append (h : RecordAfterAck text sent) (more : List Message) :
    RecordAfterAck text (sent ++ more) := by
  induction sent with
  | nil => exact h.elim
  | cons message rest ih =>
    rcases h with ⟨hack, later, hmem, hrecord⟩ | h
    · exact .inl ⟨hack, later, mem_append_left _ hmem, hrecord⟩
    · exact .inr (ih h)

variable {message : Message}

theorem AckedIn.recordAfterAck {sent more : List Message} (h : AckedIn sent) (hmem : message ∈ more)
    (hrecord : text ∈ message.records) :
    RecordAfterAck text (sent ++ more) := by
  induction sent with
  | nil =>
    obtain ⟨_, hnil, _⟩ := h
    cases hnil
  | cons first rest ih =>
    obtain ⟨acking, hacking, hack⟩ := h
    rcases mem_cons.mp hacking with rfl | hrest
    · exact .inl ⟨hack, message, mem_append_right _ hmem, hrecord⟩
    · exact .inr (ih ⟨acking, hrest, hack⟩)

/-- While the stop is being sent: what the driver takes for an acknowledgement is one. -/
def Stops (d : Driver) (sent : List Message) : Prop :=
  d.stopTransactionMsgStatus = .received → AckedIn sent

/-- While the record is being fetched: the stop is acknowledged, and what the driver takes for
the record came later. -/
structure Fetches (d : Driver) (sent : List Message) : Prop where
  acked : AckedIn sent
  record : d.getTransactionValuesMsgStatus = .received → RecordAfterAck d.lastOcmfStr sent

variable {d : Driver}

theorem processPart_stops {part : Part} (h : Stops d sent)
    (hack : part = ⟨.ok, .stopTransaction⟩ → AckedIn sent) : Stops (processPart d part) sent := by
  obtain ⟨status, body⟩ := part
  unfold processPart
  by_cases hstatus : status = .ok
  · subst hstatus
    cases body with
    | stopTransaction => exact fun _ => hack rfl
    | startTransaction | time _ | statusWord _ | lastOcmf _ | other => exact h
  · rw [if_pos hstatus]
    exact h

theorem processPart_fetches {part : Part} (h : Fetches d sent)
    (hrecord : ∀ text, part = ⟨.ok, .lastOcmf text⟩ → RecordAfterAck text sent) :
    Fetches (processPart d part) sent := by
  obtain ⟨status, body⟩ := part
  unfold processPart
  by_cases hstatus : status = .ok
  · subst hstatus
    cases body with
    | lastOcmf text => exact ⟨h.acked, fun _ => hrecord text rfl⟩
    | startTransaction | stopTransaction | time _ | statusWord _ => exact ⟨h.acked, h.record⟩
    | other => exact h
  · rw [if_pos hstatus]
    exact h

section

variable {d : Driver} {sent : List Message} {reply : Reply} (hq : d.messageQueue = [])

include hq

theorem receive_stops (hack : ∀ message ∈ reply.messages, message.Acks → AckedIn sent)
    (h : Stops d sent) : Stops (receive d reply).1 sent :=
  receive_keeps (P := fun d => Stops d sent) hq
    (fun message hmem _ hpart _ hd => processPart_stops hd fun heq =>
      hack message hmem (show _ ∈ (message : List Part) from heq ▸ hpart))
    (fun _ _ _ h => h) (fun _ _ h => h) h

theorem receive_fetches
    (hrecord : ∀ message ∈ reply.messages, ∀ text ∈ message.records, RecordAfterAck text sent)
    (h : Fetches d sent) : Fetches (receive d reply).1 sent :=
  receive_keeps (P := fun d => Fetches d sent) hq
    (fun message hmem _ hpart _ hd => processPart_fetches hd fun text heq =>
      hrecord message hmem text (mem_filterMap.mpr ⟨_, (heq ▸ hpart), rfl⟩))
    (fun _ _ _ h => ⟨h.acked, h.record⟩) (fun _ _ h => ⟨h.acked, h.record⟩) h

end

/-! ## The invariant -/

/-- What holds at each point of a call. -/
def CallerInv : Caller → Driver → List Message → Prop
  | .idle, _, _ => True
  | .stopping, d, sent => Stops d sent
  | .stopAnswered reply, d, sent =>
    Stops d sent ∧ reply.Intact ∧ ∀ message ∈ reply.messages, message ∈ sent
  | .stopHandled, d, sent => Stops d sent
  | .fetching, d, sent => Fetches d sent
  | .fetchAnswered reply, d, sent =>
    Fetches d sent ∧ reply.Intact ∧
      ∀ message ∈ reply.messages, ∀ text ∈ message.records, RecordAfterAck text sent
  | .fetchHandled, d, sent => Fetches d sent

/-- The other threads have nothing to do with stops. -/
structure BackgroundInv (b : Background) : Prop where
  request : b.request ≠ .stopTransaction
  intact : ∀ reply ∈ b.pending, reply.Intact
  noAck : ∀ reply ∈ b.pending, ∀ message ∈ reply.messages, ¬ message.Acks

theorem backgroundInv_idle {request : Request} (h : request ≠ .stopTransaction) :
    BackgroundInv ⟨request, none⟩ where
  request := h
  intact := nofun
  noAck := nofun

/-- What is known of the driver at each point of the call. -/
structure SysInv : Prop where
  queue : s.driver.messageQueue = []
  background : ∀ thread, BackgroundInv (s.background thread)
  caller : CallerInv s.caller s.driver s.sent

variable {s : Sys}

theorem background_setBackground (h : ∀ thread, BackgroundInv (s.background thread))
    {b : Background} (hb : BackgroundInv b) (thread other : Thread) :
    BackgroundInv ((s.setBackground thread b).background other) := by
  unfold Sys.setBackground
  by_cases heq : other = thread
  · simpa only [if_pos heq] using hb
  · simpa only [if_neg heq] using h other

theorem Stops.append (h : Stops d sent) (more : List Message) :
    Stops d (sent ++ more) := fun hreceived => (h hreceived).append more

theorem Fetches.append (h : Fetches d sent) (more : List Message) : Fetches d (sent ++ more) :=
  ⟨h.acked.append more, fun hreceived => (h.record hreceived).append more⟩

theorem CallerInv.append {c : Caller} (h : CallerInv c d sent) (more : List Message) :
    CallerInv c d (sent ++ more) := by
  cases c with
  | idle => trivial
  | stopping => exact Stops.append h more
  | stopAnswered reply => exact ⟨h.1.append more, h.2.1, fun m hm => mem_append_left _ (h.2.2 m hm)⟩
  | stopHandled => exact Stops.append h more
  | fetching => exact Fetches.append h more
  | fetchAnswered reply =>
    exact ⟨h.1.append more, h.2.1, fun m hm text ht => (h.2.2 m hm text ht).append more⟩
  | fetchHandled => exact Fetches.append h more

theorem CallerInv.receive {c : Caller} {reply : Reply} (hq : d.messageQueue = [])
    (hack : ∀ message ∈ reply.messages, ¬ message.Acks) (hrecord : c.fetches = true →
      ∀ message ∈ reply.messages, ∀ text ∈ message.records, RecordAfterAck text sent)
    (h : CallerInv c d sent) : CallerInv c (receive d reply).1 sent := by
  have hstops : Stops d sent → Stops (DzgGsh01.receive d reply).1 sent :=
    receive_stops hq fun message hmem hacks => absurd hacks (hack message hmem)
  cases c with
  | idle => trivial
  | stopping => exact hstops h
  | stopAnswered _ => exact ⟨hstops h.1, h.2⟩
  | stopHandled => exact hstops h
  | fetching | fetchHandled => exact receive_fetches hq (hrecord rfl) h
  | fetchAnswered _ => exact ⟨receive_fetches hq (hrecord rfl) h.1, h.2⟩

variable {t : Transmission}

theorem not_acks_of_sends {request : Request} (hne : request ≠ .stopTransaction)
    (h : message ∈ t.sends request) : ¬ message.Acks := by
  unfold Transmission.sends at h
  split at h
  · cases mem_singleton.mp h
    intro hack
    have hasks := (mem_filter.mp hack).2
    cases request with
    | stopTransaction => exact hne rfl
    | registers | statusWord | deviceData | lastTransactionOcmf => cases hasks
  · cases h

theorem sysInv_call (h : SysInv s) : SysInv (call s) := by
  unfold call
  split
  · split
    · exact ⟨h.queue, h.background, ‹s.caller = .idle› ▸ trivial⟩
    · exact ⟨h.queue, h.background, nofun⟩
  · exact h

theorem sysInv_callerExchange (h : SysInv s) (ht : t.reception.Intact) :
    SysInv (callerExchange s t) := by
  have hcaller := h.caller
  unfold callerExchange
  split
  · rename_i hpc
    rw [hpc] at hcaller
    refine ⟨h.queue, h.background, Stops.append hcaller _,
      Reception.reply_intact _ ht, fun m hm => ?_⟩
    exact mem_append_right _ (Reception.mem_reply hm)
  · rename_i hpc
    rw [hpc] at hcaller
    refine ⟨h.queue, h.background, Fetches.append hcaller _,
      Reception.reply_intact _ ht, fun m hm text htext => ?_⟩
    exact hcaller.acked.recordAfterAck (Reception.mem_reply hm) htext
  · exact h

theorem sysInv_callerHandle (h : SysInv s) : SysInv (callerHandle s) := by
  have hcaller := h.caller
  unfold callerHandle
  split
  · rename_i reply hpc
    rw [hpc] at hcaller
    obtain ⟨hstops, hintact, hsent⟩ := hcaller
    have hnext : Stops (receive s.driver reply).1 s.sent :=
      receive_stops h.queue (fun m hm hack => ⟨m, hsent m hm, hack⟩) hstops
    refine ⟨receive_messageQueue h.queue hintact, h.background, ?_⟩
    split <;> exact hnext
  · rename_i reply hpc
    rw [hpc] at hcaller
    obtain ⟨hfetches, hintact, hrecord⟩ := hcaller
    have hnext : Fetches (receive s.driver reply).1 s.sent :=
      receive_fetches h.queue hrecord hfetches
    refine ⟨receive_messageQueue h.queue hintact, h.background, ?_⟩
    split <;> exact hnext
  · exact h

theorem checkStop_ok (h : d.checkStop.stopTransactResult = .ok) :
    d.stopTransactionMsgStatus = .received := by
  by_contra hne
  rw [Driver.checkStop, if_pos hne] at h
  cases h

@[simp] theorem checkOcmf_messageQueue (d : Driver) :
    d.checkOcmf.2.messageQueue = d.messageQueue := by
  dsimp only [Driver.checkOcmf]
  split <;> rfl

theorem sysInv_callerCheck (h : SysInv s) : SysInv (callerCheck s) := by
  have hcaller := h.caller
  have hqueue : s.driver.checkStop.messageQueue = [] := by
    unfold Driver.checkStop
    split <;> exact h.queue
  unfold callerCheck
  split
  · rename_i hpc
    rw [hpc] at hcaller
    split
    · exact ⟨hqueue, h.background, trivial⟩
    · rename_i hok
      have hreceived := checkStop_ok (not_not.mp hok)
      exact ⟨hqueue, h.background, hcaller hreceived, nofun⟩
  · refine ⟨?_, h.background, trivial⟩
    show (Driver.stopped _ _).messageQueue = []
    unfold Driver.stopped
    split <;> exact (checkOcmf_messageQueue _).trans h.queue
  · exact h

theorem sysInv_exchange {thread : Thread} (h : SysInv s) (ht : t.reception.Intact) :
    SysInv (exchange s thread t) := by
  unfold exchange
  split
  · refine ⟨h.queue, background_setBackground h.background ?_ thread, h.caller.append _⟩
    have hrequest := (h.background thread).request
    refine ⟨hrequest, ?_, ?_⟩
    · rintro _ ⟨⟩
      exact Reception.reply_intact _ ht
    · rintro _ ⟨⟩ message hmem
      exact not_acks_of_sends hrequest (Reception.mem_reply hmem)
  · exact h

theorem sysInv_handle {thread : Thread} (h : SysInv s) (htimely : Timely s (.handle thread)) :
    SysInv (handle s thread) := by
  have hbackground := h.background thread
  unfold handle
  split
  · exact h
  · rename_i reply hpending
    refine ⟨receive_messageQueue h.queue (hbackground.intact reply hpending),
      background_setBackground h.background ?_ thread,
      h.caller.receive h.queue (hbackground.noAck reply hpending)
        fun hfetches => htimely hfetches reply hpending⟩
    refine backgroundInv_idle ?_
    split
    · exact hbackground.request
    · cases thread with
      | telemetry => exact Request.noConfusion
      | deviceData => cases (s.background .deviceData).request <;> exact Request.noConfusion

/-- One step of any thread. -/
theorem sysInv_step (s : Sys) (label : Label) (h : SysInv s) (htimely : Timely s label) :
    SysInv (sysStep s label) := by
  cases label with
  | call => exact sysInv_call h
  | callerExchange t => exact sysInv_callerExchange h htimely
  | callerHandle => exact sysInv_callerHandle h
  | callerCheck => exact sysInv_callerCheck h
  | exchange thread t => exact sysInv_exchange h htimely
  | handle thread => exact sysInv_handle h htimely

/-! ## The record that is returned -/

theorem contains_append (a b : String) : contains (a ++ b) a = true := by
  refine any_eq_true.mpr ⟨(a ++ b).toList, (mem_tails _ _).mpr suffix_rfl, ?_⟩
  rw [String.toList_append]
  exact isPrefixOf_iff_prefix.mpr (prefix_append _ _)

theorem stopResponse_errorText (result : CommandResult) :
    (stopResponse (errorText result)).status = .unexpectedError := by
  have hcontains : contains (errorText result) errorSubstring = true := by
    rw [errorText, String.append_assoc, String.append_assoc, String.append_assoc]
    exact contains_append _ _
  rw [stopResponse, if_pos hcontains]

theorem checkOcmf_ok (h : (stopResponse d.checkOcmf.1).status = .ok) :
    d.getTransactionValuesMsgStatus = .received ∧ d.checkOcmf.1 = d.lastOcmfStr := by
  have hnotError : ∀ result, d.checkOcmf.1 ≠ errorText result := by
    intro result heq
    rw [heq, stopResponse_errorText] at h
    cases h
  by_cases hreceived : d.getTransactionValuesMsgStatus = .received
  · refine ⟨hreceived, ?_⟩
    by_cases hresult : d.stopTransactResult = .ok
    · simp [Driver.checkOcmf, hreceived, hresult]
    · exact absurd (by simp [Driver.checkOcmf, hreceived, hresult]) (hnotError d.stopTransactResult)
  · exact absurd (by simp [Driver.checkOcmf, hreceived]) (hnotError .timeout)

theorem stopResponse_ok (h : (stopResponse text).status = .ok) :
    (stopResponse text).signedMeterValue = some ⟨text, "", "OCMF"⟩ := by
  unfold stopResponse at h ⊢
  split at h
  · cases h
  · rw [if_neg ‹_›]

theorem freshReturn_of_sysInv (s : Sys) (label : Label) (h : SysInv s) : FreshReturn s label := by
  cases label with
  | callerCheck =>
    intro hpc hok
    have hcaller := h.caller
    rw [hpc] at hcaller
    obtain ⟨hreceived, htext⟩ := checkOcmf_ok hok
    refine ⟨_, stopResponse_ok hok, ?_⟩
    rw [htext]
    exact Fetches.record hcaller hreceived
  | call | callerExchange _ | callerHandle | exchange _ _ | handle _ => trivial

/-- If no other thread handles an old record while the new one is being fetched, the record
that is returned was sent after the stop was acknowledged. -/
theorem returned_record_is_fresh (d : Driver) (hq : d.messageQueue = []) (labels : List Label)
    (h : Along sysStep Timely { driver := d } labels) :
    Along sysStep FreshReturn { driver := d } labels := by
  refine along_of_along sysInv_step (fun s label hinv _ => freshReturn_of_sysInv s label hinv) ?_ h
  refine ⟨hq, fun thread => backgroundInv_idle ?_, trivial⟩
  cases thread <;> exact Request.noConfusion

instance (s : Sys) : ∀ label, Decidable (FreshReturn s label)
  | .callerCheck => inferInstanceAs (Decidable (_ → _ → ∃ value ∈ _, _))
  | .call | .callerExchange _ | .callerHandle | .exchange _ _ | .handle _ => .isTrue trivial

instance (s : Sys) : ∀ label, Decidable (Timely s label)
  | .callerExchange t | .exchange _ t => inferInstanceAs (Decidable t.reception.Intact)
  | .handle _ =>
    inferInstanceAs (Decidable (_ → ∀ reply ∈ _, ∀ message ∈ _, ∀ text ∈ _, _))
  | .call | .callerHandle | .callerCheck => .isTrue trivial

def exchanged (body : Body) : Transmission := ⟨true, [⟨.ok, body⟩], .frames true true⟩

/-- The device data of an earlier transaction have been received when the stop is called. -/
def deviceDataPending : List Label :=
  [.exchange .deviceData (exchanged (.statusWord true)), .handle .deviceData,
    .exchange .deviceData (exchanged (.lastOcmf "A"))]

/-- They are handled before the record is fetched. -/
theorem older_record_handled_first :
    Along sysStep FreshReturn { driver := {} }
      (deviceDataPending ++ [.call, .callerExchange (exchanged .stopTransaction), .callerHandle,
        .handle .deviceData, .callerCheck, .callerExchange (exchanged (.lastOcmf "B")),
        .callerHandle, .callerCheck]) :=
  returned_record_is_fresh {} rfl _ (by decide)

/-- They are handled after the record, and returned in its place. -/
theorem older_record_is_returned :
    ¬ Along sysStep FreshReturn { driver := {} }
      (deviceDataPending ++ [.call, .callerExchange (exchanged .stopTransaction), .callerHandle,
        .callerCheck, .callerExchange (exchanged (.lastOcmf "B")), .callerHandle,
        .handle .deviceData, .callerCheck]) := by
  decide

end EverestCore.DzgGsh01
