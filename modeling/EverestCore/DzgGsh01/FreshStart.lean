import EverestCore.DzgGsh01.Transactions
import EverestCore.Lib.Machine
import Mathlib.Tactic.ByContra

/-!
# Whether a started transaction is a new one

The meter does not refuse a START while a transaction is running, so the driver has to end
the old one first.
-/

namespace EverestCore.DzgGsh01

open EverestCore.Lib Exchanges Option

/-! ## Properties of a call -/

/-- A start that reports success has begun a transaction. -/
def Fresh (maxClockDiffS : Nat) (w : World) : Call → Prop
  | .startTransaction now x =>
    ∀ r ∈ handleStartTransaction maxClockDiffS now x w, r.1 = .ok →
      w.meter.begun < r.2.meter.begun
  | _ => True

instance (maxClockDiffS : Nat) (w : World) : ∀ call, Decidable (Fresh maxClockDiffS w call)
  | .startTransaction _ _ => inferInstanceAs (Decidable (∀ r ∈ _, _ → _))
  | .ready _ _ _ | .stopTransaction _ | .telemetry _ => .isTrue trivial

/-- A STOP takes effect in the first attempt, or in one after attempts without any reply. -/
def stopEnds : List Attempt → Bool
  | [] => false
  | a :: rest =>
    (a.reached && (a.choice.status = .ok || a.choice.takesEffect)) ||
      (a.reception == .nothing && stopEnds rest)

/-- No answer of the meter is received together with a broken frame. -/
def Call.Intact : Call → Prop
  | .ready _ _ x => ∀ a ∈ x.all, a.reception.Intact
  | .startTransaction _ x => ∀ a ∈ x.all, a.reception.Intact
  | .stopTransaction x => ∀ a ∈ x.all, a.reception.Intact
  | .telemetry reply => reply.Intact

/-- No broken frame leaves an answer behind; and when a start is called no transaction is running,
or the flag is set and the STOP of the clean-up ends it. -/
structure Clean (w : World) (call : Call) : Prop where
  intact : call.Intact
  idle : ∀ now x, call = .startTransaction now x → w.meter.running = false ∨
    (w.driver.needToStopTransaction = true ∧ stopEnds x.stop = true)

/-! ## Exchanges -/

def World.attempted (w : World) (command : Command) (a : Attempt) : World :=
  ⟨(receive w.driver (transmit w.meter command a).2).1, (transmit w.meter command a).1⟩

variable {attempts : List Attempt} {w w' : World} {command : Command}

/-- What every attempt keeps, an exchange keeps. -/
theorem sendReceive_keeps {P : World → Prop}
    (hstep : ∀ a ∈ attempts, ∀ w, P w → P (w.attempted command a))
    (h : sendReceive command attempts w = some w') (hw : P w) : P w' := by
  induction attempts generalizing w with
  | nil => cases h
  | cons a rest ih =>
    have hnext : P (w.attempted command a) := hstep a List.mem_cons_self w hw
    rw [sendReceive] at h
    split at h
    · exact ih (fun b hb => hstep b (List.mem_cons_of_mem _ hb)) h hnext
    · cases h
      exact hnext

theorem sendReceive_messageQueue (hintact : ∀ a ∈ attempts, a.reception.Intact)
    (h : sendReceive command attempts w = some w') (hw : w.driver.messageQueue = []) :
    w'.driver.messageQueue = [] :=
  sendReceive_keeps (P := fun w => w.driver.messageQueue = [])
    (fun a ha _ hw => receive_messageQueue hw (Reception.reply_intact _ (hintact a ha))) h hw

theorem processPart_needToStopTransaction (d : Driver) (part : Part) :
    (processPart d part).needToStopTransaction = d.needToStopTransaction := by
  unfold processPart
  by_cases hstatus : part.status ≠ .ok
  · rw [if_pos hstatus]
  · rw [if_neg hstatus]
    cases part.body <;> rfl

/-- The replies do not change the flag. -/
theorem sendReceive_needToStopTransaction (hintact : ∀ a ∈ attempts, a.reception.Intact)
    (h : sendReceive command attempts w = some w') (hw : w.driver.messageQueue = []) :
    w'.driver.needToStopTransaction = w.driver.needToStopTransaction := by
  refine (sendReceive_keeps (P := fun v => v.driver.messageQueue = [] ∧
    v.driver.needToStopTransaction = w.driver.needToStopTransaction) ?_ h ⟨hw, rfl⟩).2
  intro a ha v hv
  refine ⟨receive_messageQueue hv.1 (Reception.reply_intact _ (hintact a ha)), ?_⟩
  exact receive_keeps
    (P := fun d => d.needToStopTransaction = w.driver.needToStopTransaction) hv.1
    (fun _ _ part _ d hd => (processPart_needToStopTransaction d part).trans hd)
    (fun _ _ _ h => h) (fun _ _ h => h) hv.2

theorem transmit_meter (m : Meter) (command : Command) (a : Attempt) :
    (transmit m command a).1 = m ∨
      (command = .startTransaction ∧ m.running = false ∧ (transmit m command a).1 = m.begin) ∨
      (command = .stopTransaction ∧ (transmit m command a).1 = { m with running := false }) := by
  obtain ⟨reached, choice, reception⟩ := a
  cases reached with
  | false => exact .inl rfl
  | true =>
    show (m.serve choice command).1 = m ∨ (_ ∧ _ ∧ (m.serve choice command).1 = m.begin) ∨
      (_ ∧ (m.serve choice command).1 = { m with running := false })
    cases command with
    | startTransaction =>
      rw [Meter.serve]
      by_cases hrunning : m.running = true
      · exact .inl (by rw [if_pos hrunning])
      · rw [if_neg hrunning]
        by_cases hbegins : (decide (choice.status = .ok) || choice.takesEffect) = true
        · exact .inr (.inl ⟨rfl, by simpa using hrunning, if_pos hbegins⟩)
        · exact .inl (if_neg hbegins)
    | stopTransaction =>
      rw [Meter.serve]
      by_cases hends : (decide (choice.status = .ok) || choice.takesEffect) = true
      · exact .inr (.inr ⟨rfl, if_pos hends⟩)
      · exact .inl (if_neg hends)
    | getTime => exact .inl rfl
    | setTime => exact .inl rfl
    | getStatusWord => exact .inl rfl
    | getLastTransactionOcmf => exact .inl rfl

/-- Without a START, the meter can only end its transaction. -/
theorem sendReceive_meter {P : Meter → Prop} (hends : ∀ m, P m → P { m with running := false })
    (hne : command ≠ .startTransaction) (h : sendReceive command attempts w = some w')
    (hw : P w.meter) : P w'.meter := by
  refine sendReceive_keeps (P := fun v => P v.meter) ?_ h hw
  intro a _ v hv
  show P (transmit v.meter command a).1
  rcases transmit_meter v.meter command a with heq | ⟨hstart, -⟩ | ⟨-, heq⟩
  · rw [heq]
    exact hv
  · exact absurd hstart hne
  · rw [heq]
    exact hends v.meter hv

theorem sendReceive_idle (hne : command ≠ .startTransaction)
    (h : sendReceive command attempts w = some w') (hw : w.meter.running = false) :
    w'.meter.running = false :=
  sendReceive_meter (P := fun m => m.running = false) (fun _ _ => rfl) hne h hw

theorem sendReceive_stop (hends : stopEnds attempts = true)
    (h : sendReceive .stopTransaction attempts w = some w') : w'.meter.running = false := by
  induction attempts generalizing w with
  | nil => cases h
  | cons a rest ih =>
    obtain ⟨reached, choice, reception⟩ := a
    rw [sendReceive] at h
    rw [stopEnds, Bool.or_eq_true] at hends
    rcases hends with hends | hends
    · -- this attempt ends the transaction, whatever comes back
      obtain ⟨rfl, heffect⟩ := Bool.and_eq_true_iff.mp hends
      have hidle : (transmit w.meter .stopTransaction ⟨true, choice, reception⟩).1.running =
          false := by
        show (if _ then _ else _ : Meter).running = false
        rw [if_pos heffect]
      split at h
      · exact sendReceive_idle (by decide) h hidle
      · cases h
        exact hidle
    · obtain ⟨hnothing, hrest⟩ := Bool.and_eq_true_iff.mp hends
      obtain rfl := eq_of_beq hnothing
      exact ih hrest h

theorem sendReceive_start (h : sendReceive .startTransaction attempts w = some w') :
    w'.meter = w.meter ∨ (w.meter.running = false ∧ w'.meter = w.meter.begin) := by
  refine sendReceive_keeps
    (P := fun v => v.meter = w.meter ∨ (w.meter.running = false ∧ v.meter = w.meter.begin))
    ?_ h (.inl rfl)
  intro a _ v hv
  rcases transmit_meter v.meter .startTransaction a with heq | ⟨-, hidle, heq⟩ | ⟨hstop, -⟩
  · rw [show (v.attempted .startTransaction a).meter = v.meter from heq]
    exact hv
  · rcases hv with hv | ⟨-, hv⟩
    · exact .inr ⟨hv ▸ hidle, heq.trans (congrArg Meter.begin hv)⟩
    · -- a transaction begun by this START is running
      rw [hv] at hidle
      cases hidle
  · cases hstop

/-! ## Acknowledgements -/

/-- A frame without the acknowledgement of a START. -/
def Message.NoAck (message : Message) : Prop :=
  ∀ part ∈ message, part.body = .startTransaction → part.status ≠ .ok

theorem processPart_noAck (d : Driver) {part : Part}
    (h : part.body = .startTransaction → part.status ≠ .ok) :
    (processPart d part).startTransactionMsgStatus = d.startTransactionMsgStatus := by
  unfold processPart
  by_cases hstatus : part.status ≠ .ok
  · rw [if_pos hstatus]
  · rw [if_neg hstatus]
    match hbody : part.body with
    | .startTransaction => exact absurd (h hbody) hstatus
    | .stopTransaction | .time _ | .statusWord _ | .lastOcmf _ | .other => rfl

theorem transmit_noAck {m : Meter} {a : Attempt}
    (hidle : (transmit m .startTransaction a).1.running = false) {message : Message}
    (h : message ∈ (transmit m .startTransaction a).2.messages) : message.NoAck := by
  obtain ⟨reached, choice, reception⟩ := a
  have hanswer := Reception.mem_reply h
  cases reached with
  | false => cases hanswer
  | true =>
    intro part hpart _ hok
    cases List.mem_singleton.mp hanswer
    have hserved : (m.serve choice .startTransaction).1.running = false := hidle
    rw [Meter.serve] at hserved hpart
    by_cases hrunning : m.running = true
    · rw [if_pos hrunning] at hserved
      exact absurd hrunning (Bool.eq_false_iff.mp hserved)
    · rw [if_neg hrunning] at hserved hpart
      cases List.mem_singleton.mp hpart
      rw [show choice.status = .ok from hok] at hserved
      cases hserved

/-- The driver has seen an acknowledgement only of a transaction that is running. -/
structure Acked (w : World) : Prop where
  queue : w.driver.messageQueue = []
  running : w.driver.startTransactionMsgStatus = .received → w.meter.running = true

theorem acked_attempted {w : World} (hw : Acked w) {a : Attempt} (ha : a.reception.Intact) :
    Acked (w.attempted .startTransaction a) := by
  refine ⟨receive_messageQueue hw.queue (Reception.reply_intact _ ha), fun hreceived => ?_⟩
  by_contra hidle
  rw [Bool.not_eq_true] at hidle
  have hsame : (w.attempted .startTransaction a).driver.startTransactionMsgStatus =
      w.driver.startTransactionMsgStatus :=
    receive_keeps (P := fun d => d.startTransactionMsgStatus = w.driver.startTransactionMsgStatus)
      hw.queue (fun message hmem part hpart d hd =>
        (processPart_noAck d (transmit_noAck hidle hmem part hpart)).trans hd)
      (fun _ _ _ h => h) (fun _ _ h => h) rfl
  have hrunning := hw.running (hsame.symm.trans hreceived)
  rcases transmit_meter w.meter .startTransaction a with heq | ⟨-, -, heq⟩ | ⟨hstop, -⟩
  · rw [show (w.attempted .startTransaction a).meter = w.meter from heq, hrunning] at hidle
    cases hidle
  · rw [show (w.attempted .startTransaction a).meter = w.meter.begin from heq] at hidle
    cases hidle
  · cases hstop

/-- A START that is sent while no transaction is running, and is acknowledged, has begun one. -/
theorem sendStart_ok {x : Exchanges} (hintact : ∀ a ∈ x.start, a.reception.Intact)
    (hq : w.driver.messageQueue = []) (hidle : w.meter.running = false)
    (h : sendStart x w = some (.ok, w')) : w.meter.begun < w'.meter.begun := by
  unfold sendStart at h
  obtain ⟨v, hsend, h⟩ := bind_eq_some_iff.mp h
  dsimp only at h
  split at h
  · cases h
  · rename_i hok
    cases h
    have hacked : Acked v := sendReceive_keeps (P := Acked) (fun a ha u hu =>
      acked_attempted hu (hintact a ha)) hsend ⟨hq, nofun⟩
    have hreceived : v.driver.startTransactionMsgStatus = .received := by
      by_contra hne
      refine hok ?_
      show (if _ then _ else _ : Driver).startTransactResult ≠ .ok
      rw [if_pos hne]
      exact CommandResult.noConfusion
    have hrunning := hacked.running hreceived
    show w.meter.begun < v.meter.begun
    rcases sendReceive_start hsend with heq | ⟨-, heq⟩
    · -- the transaction that is running would have been running before
      rw [heq, show (w.mapDriver _).meter.running = false from hidle] at hrunning
      cases hrunning
    · rw [heq]
      exact Nat.lt_succ_self _

/-! ## Calls -/

/-- What holds between the world before a call, or a part of it, and the world after it, as long
as no START is sent. -/
structure Calm (w w' : World) : Prop where
  begun : w'.meter.begun = w.meter.begun
  idle : w.meter.running = false → w'.meter.running = false
  queue : w.driver.messageQueue = [] → w'.driver.messageQueue = []

theorem Calm.trans {w w' w'' : World} (h : Calm w w') (h' : Calm w' w'') : Calm w w'' :=
  ⟨h'.begun.trans h.begun, fun hw => h'.idle (h.idle hw), fun hq => h'.queue (h.queue hq)⟩

theorem calm_mapDriver (w : World) {f : Driver → Driver}
    (hf : ∀ d, (f d).messageQueue = d.messageQueue) : Calm w (w.mapDriver f) :=
  ⟨rfl, id, fun hq => (hf w.driver).trans hq⟩

section

variable {x : Exchanges} (hintact : ∀ a ∈ x.all, a.reception.Intact) {w w' : World}

include hintact

theorem calm_sendReceive {command : Command} {attempts : List Attempt}
    (h : sendReceive command attempts w = some w') (hne : command ≠ .startTransaction)
    (hall : ∀ a ∈ attempts, a ∈ x.all) : Calm w w' :=
  ⟨sendReceive_meter (P := fun m => m.begun = w.meter.begun) (fun _ hm => hm) hne h rfl,
    sendReceive_idle hne h, sendReceive_messageQueue (fun a ha => hintact a (hall a ha)) h⟩

theorem calm_timeSync {maxClockDiffS now : Nat}
    (h : timeSync maxClockDiffS now x w = some w') : Calm w w' := by
  unfold timeSync at h
  obtain ⟨v, hget, h⟩ := bind_eq_some_iff.mp h
  have hv : Calm w v := calm_sendReceive hintact hget (by decide) (by simp +contextual [all])
  split at h
  · exact hv.trans (calm_sendReceive hintact h (by decide) (by simp +contextual [all]))
  · cases h
    exact hv

/-- The STOP is answered first; what follows is calm. -/
theorem doStopTransaction_cases {response : TransactionStopResponse}
    (h : doStopTransaction x w = some (response, w')) :
    ∃ v, sendReceive .stopTransaction x.stop (w.mapDriver Driver.prepareStop) = some v ∧
      Calm v w' := by
  unfold doStopTransaction at h
  obtain ⟨v, hstop, h⟩ := bind_eq_some_iff.mp h
  refine ⟨v, hstop, ?_⟩
  have hv := calm_mapDriver v (f := Driver.checkStop) fun d => by
    unfold Driver.checkStop
    split <;> rfl
  dsimp only at h
  split at h
  · cases h
    exact hv
  · obtain ⟨⟨ocmf, u⟩, hocmf, h⟩ := bind_eq_some_iff.mp h
    cases h
    obtain ⟨t, hget, hocmf⟩ := bind_eq_some_iff.mp hocmf
    cases hocmf
    have hsent := calm_mapDriver (v.mapDriver Driver.checkStop) (f := Driver.prepareOcmf)
      fun _ => rfl
    have hanswered := calm_sendReceive hintact hget (by decide) (by simp +contextual [all])
    have hchecked := calm_mapDriver t (f := fun d => d.checkOcmf.2) fun d => by
      dsimp only [Driver.checkOcmf]
      split <;> rfl
    exact ((hv.trans hsent).trans hanswered).trans hchecked

theorem calm_doStopTransaction {response : TransactionStopResponse}
    (h : doStopTransaction x w = some (response, w')) : Calm w w' := by
  obtain ⟨v, hstop, hcalm⟩ := doStopTransaction_cases hintact h
  have hsent := calm_mapDriver w (f := Driver.prepareStop) fun _ => rfl
  have hanswered := calm_sendReceive hintact hstop (by decide) (by simp +contextual [all])
  exact (hsent.trans hanswered).trans hcalm

theorem needToStopTransaction_timeSync {maxClockDiffS now : Nat} (hq : w.driver.messageQueue = [])
    (h : timeSync maxClockDiffS now x w = some w') :
    w'.driver.needToStopTransaction = w.driver.needToStopTransaction := by
  unfold timeSync at h
  obtain ⟨v, hget, h⟩ := bind_eq_some_iff.mp h
  have hgot : ∀ a ∈ x.getTime, a.reception.Intact := fun a ha => hintact a (by simp [all, ha])
  have hflag := sendReceive_needToStopTransaction hgot hget hq
  split at h
  · have hset : ∀ a ∈ x.setTime, a.reception.Intact := fun a ha => hintact a (by simp [all, ha])
    exact (sendReceive_needToStopTransaction hset h (sendReceive_messageQueue hgot hget hq)).trans
      hflag
  · cases h
    exact hflag

theorem idle_doStopTransaction {response : TransactionStopResponse}
    (hends : stopEnds x.stop = true) (h : doStopTransaction x w = some (response, w')) :
    w'.meter.running = false := by
  obtain ⟨v, hstop, hcalm⟩ := doStopTransaction_cases hintact h
  exact hcalm.idle (sendReceive_stop hends hstop)

omit hintact in
theorem calm_stopped (w : World) (response : TransactionStopResponse) :
    Calm w (w.stopped response) := by
  unfold World.stopped
  split
  · exact calm_mapDriver w fun _ => rfl
  · exact ⟨rfl, id, id⟩

theorem calm_cleanupDanglingTransaction (h : cleanupDanglingTransaction x w = some w') :
    Calm w w' := by
  unfold cleanupDanglingTransaction at h
  split at h
  · obtain ⟨⟨response, v⟩, hstop, h⟩ := bind_eq_some_iff.mp h
    cases h
    exact (calm_doStopTransaction hintact hstop).trans (calm_stopped v response)
  · cases h
    exact ⟨rfl, id, id⟩

theorem calm_prepareStart {maxClockDiffS now : Nat}
    (h : prepareStart maxClockDiffS now x w = some w') : Calm w w' := by
  obtain ⟨v, hsync, hcleanup⟩ := bind_eq_some_iff.mp h
  exact (calm_timeSync hintact hsync).trans (calm_cleanupDanglingTransaction hintact hcleanup)

end

/-- Before START is sent, no transaction is left running. -/
theorem idle_prepareStart {maxClockDiffS now : Nat} {x : Exchanges}
    (hintact : ∀ a ∈ x.all, a.reception.Intact) {w w' : World} (hq : w.driver.messageQueue = [])
    (hidle : w.meter.running = false ∨
      (w.driver.needToStopTransaction = true ∧ stopEnds x.stop = true))
    (h : prepareStart maxClockDiffS now x w = some w') : w'.meter.running = false := by
  rcases hidle with hidle | ⟨hflag, hends⟩
  · exact (calm_prepareStart hintact h).idle hidle
  · obtain ⟨v, hsync, hcleanup⟩ := bind_eq_some_iff.mp h
    unfold cleanupDanglingTransaction at hcleanup
    rw [needToStopTransaction_timeSync hintact hq hsync, if_pos hflag] at hcleanup
    obtain ⟨⟨response, u⟩, hstop, hcleanup⟩ := bind_eq_some_iff.mp hcleanup
    cases hcleanup
    exact (calm_stopped u response).idle (idle_doStopTransaction hintact hends hstop)

/-- A clean start begins a transaction. -/
theorem fresh_of_clean (maxClockDiffS : Nat) {w : World} (hq : w.driver.messageQueue = [])
    {call : Call} (hclean : Clean w call) : Fresh maxClockDiffS w call := by
  cases call with
  | ready _ _ _ | stopTransaction _ | telemetry _ => trivial
  | startTransaction now x =>
    rintro ⟨status, w'⟩ hr rfl
    unfold handleStartTransaction at hr
    split at hr
    · cases hr
    · obtain ⟨w₁, hprepared, hstart⟩ := bind_eq_some_iff.mp hr
      have hcalm := calm_prepareStart hclean.intact hprepared
      have hidle := idle_prepareStart hclean.intact hq (hclean.idle now x rfl) hprepared
      have hbegun := sendStart_ok (fun a ha => hclean.intact a (by simp [all, ha]))
        (hcalm.queue hq) hidle hstart
      rwa [hcalm.begun] at hbegun

/-- Intact frames leave nothing in the queue. -/
theorem queue_step (maxClockDiffS : Nat) {w : World} (hq : w.driver.messageQueue = [])
    {call : Call} (hintact : call.Intact) :
    (step maxClockDiffS w call).driver.messageQueue = [] := by
  cases call with
  | telemetry reply => exact receive_messageQueue hq hintact
  | stopTransaction x =>
    rw [step]
    match h : handleStopTransaction x w with
    | none => exact hq
    | some (response, w') =>
      unfold handleStopTransaction at h
      split at h
      · cases h
        exact hq
      · obtain ⟨⟨response, v⟩, hstop, h⟩ := bind_eq_some_iff.mp h
        cases h
        exact ((calm_doStopTransaction hintact hstop).trans (calm_stopped v _)).queue hq
  | startTransaction now x =>
    rw [step]
    match h : handleStartTransaction maxClockDiffS now x w with
    | none => exact hq
    | some (status, w') =>
      unfold handleStartTransaction at h
      split at h
      · cases h
        exact hq
      · obtain ⟨w₁, hprepared, hstart⟩ := bind_eq_some_iff.mp h
        unfold sendStart at hstart
        obtain ⟨v, hsend, hstart⟩ := bind_eq_some_iff.mp hstart
        have hv : (v.mapDriver Driver.checkStart).driver.messageQueue = [] := by
          show (if _ then _ else _ : Driver).messageQueue = []
          split <;> exact sendReceive_messageQueue (fun a ha => hintact a (by simp [all, ha]))
            hsend ((calm_prepareStart hintact hprepared).queue hq)
        dsimp only at hstart
        split at hstart <;> cases hstart <;> exact hv
  | ready now connectFailed x =>
    rw [step]
    match h : ready maxClockDiffS now connectFailed x w.meter with
    | none => exact hq
    | some w' =>
      obtain ⟨v, hstatus, hsync⟩ := bind_eq_some_iff.mp h
      have hanswered := calm_sendReceive hintact hstatus (by decide) (by simp +contextual [all])
      exact (calm_timeSync hintact hsync).queue (hanswered.queue rfl)

/-- **A started transaction is a new one**, as long as no frame is left behind by a broken one and
no start finds a transaction that its clean-up does not end. -/
theorem started_transaction_is_fresh (maxClockDiffS : Nat) (m : Meter) (calls : List Call)
    (hclean : Along (step maxClockDiffS) Clean ⟨{}, m⟩ calls) :
    Along (step maxClockDiffS) (Fresh maxClockDiffS) ⟨{}, m⟩ calls :=
  along_of_along (I := fun w => w.driver.messageQueue = [])
    (fun _ _ hq hclean => queue_step maxClockDiffS hq hclean.intact)
    (fun _ _ hq hclean => fresh_of_clean maxClockDiffS hq hclean) rfl hclean

def answered (status : CommandResult) : List Attempt := [⟨true, { status }, .frames true true⟩]

def allAnswered (stopStatus : CommandResult) : Exchanges where
  statusWord := answered .ok
  getTime := answered .ok
  setTime := answered .ok
  stop := answered stopStatus
  ocmf := answered .ok
  start := answered .ok

/-- A module that is started while a transaction is running ends it before it begins a new one. -/
theorem dangling_transaction_is_ended :
    Along (step 30) (Fresh 30) ⟨{}, ⟨true, 0⟩⟩
      [.ready 0 false (allAnswered .ok), .startTransaction 0 (allAnswered .ok),
        .stopTransaction (allAnswered .ok), .startTransaction 0 (allAnswered .ok)] := by
  have hintact : ∀ a ∈ (allAnswered .ok).all, a.reception.Intact := by decide
  refine started_transaction_is_fresh 30 ⟨true, 0⟩ _
    ⟨⟨hintact, nofun⟩, ⟨hintact, ?_⟩, ⟨hintact, nofun⟩, ⟨hintact, ?_⟩, trivial⟩
  · rintro now x ⟨⟩
    exact .inr (by decide)
  · rintro now x ⟨⟩
    exact .inl (by decide)

/-- The clean-up fails, and the old transaction goes on under the new one's name. -/
theorem failed_cleanup_continues_transaction :
    ¬ Along (step 30) (Fresh 30) ⟨{}, ⟨false, 0⟩⟩
      [.ready 0 false (allAnswered .ok), .startTransaction 0 (allAnswered .ok),
        .stopTransaction (allAnswered .busy), .startTransaction 0 (allAnswered .busy)] := by
  decide

end EverestCore.DzgGsh01
