import Mathlib.Data.List.Nodup
import EverestCore.Lib.Machine
import EverestCore.Ocpp.SessionEvents

/-!
# OCPP transactions are well bracketed

For which start and stop points do the calls of `on_transaction_started` and
`on_transaction_finished` alternate, whatever an EVSE manager emits?

A transaction that has been started is stopped by the first later event that finds a stop
point fulfilled. The end of a session disconnects the EV, so each point that looks at the
connection, the energy transfer or the parking bay is fulfilled then. The points
`Authorized` and `DataSigned` need not be: the transaction stays open, and the next
SessionStarted replaces its data.
-/

namespace EverestCore.Ocpp

open EverestCore.Lib TxStartStopConditions EverestCore.Ocpp.Evse SessionEvent List

/-! ## The order of events -/

inductive Phase
  | idle | session | transaction
  deriving DecidableEq

/-- SessionStarted, pairs of TransactionStarted and TransactionFinished, SessionFinished;
charging and (de)authorization events at any time of a session, the others at any time. -/
def Phase.next : Phase → EventKind → Option Phase
  | .idle, .sessionStarted _ _ _ => some .session
  | .session, .sessionFinished => some .idle
  | .session, .transactionStarted _ _ => some .transaction
  | .transaction, .transactionFinished _ _ => some .session
  | .session, .chargingStarted | .session, .chargingResumed | .session, .chargingPausedEV
  | .session, .chargingPausedEVSE | .session, .authorized | .session, .deauthorized =>
    some .session
  | .transaction, .chargingStarted | .transaction, .chargingResumed
  | .transaction, .chargingPausedEV | .transaction, .chargingPausedEVSE
  | .transaction, .authorized | .transaction, .deauthorized => some .transaction
  | phase, .disabled | phase, .enabled | phase, .reservationStart | phase, .reservationEnd
  | phase, .ignored => some phase
  | _, _ => none

/-- An EVSE manager emits these events. -/
def Emitted : Phase → List SessionEvent → Prop
  | _, [] => True
  | phase, event :: rest => ∃ next, phase.next event.kind = some next ∧ Emitted next rest

def SessionEvent.starts (event : SessionEvent) : Option Nat :=
  match event.kind with
  | .sessionStarted _ _ _ => some event.uuid
  | _ => none

/-- The events of one EVSE: in order, and every session with an id of its own. -/
structure FromEvseManager (events : List SessionEvent) : Prop where
  order : Emitted .idle events
  ids : (events.filterMap starts).Nodup

/-! ## The property -/

/-- Read one call: is a transaction open after it? `none` once the calls do not alternate. -/
def bracket : Option Bool → Call → Option Bool
  | some false, .onTransactionStarted _ => some true
  | some true, .onTransactionFinished _ => some false
  | _, .onTransactionStarted _ | _, .onTransactionFinished _ => none
  | isOpen, _ => isOpen

/-- Starts and finishes alternate, beginning with a start. -/
def WellBracketed (calls : List Call) : Prop := calls.foldl bracket (some false) ≠ none

def Call.startedId : Call → Option Nat
  | .onTransactionStarted data => some data.sessionId
  | _ => none

variable (points : TxPoints)

/-- Starts and finishes alternate, and no session id is started twice. -/
def Bracketed (events : List SessionEvent) : Prop :=
  WellBracketed (run (processSessionEvent points) {} events).calls ∧
    ((run (processSessionEvent points) {} events).calls.filterMap Call.startedId).Nodup

/-- No event of a session fulfils these start points. -/
def NeverStarts : Prop :=
  ∀ p ∈ points.start, p = .parkingBayOccupancy ∨ p = .dataSigned

/-- The end of a session fulfils a stop point. -/
def StopsAtSessionEnd : Prop :=
  ∃ p ∈ points.stop, p ≠ .authorized ∧ p ≠ .dataSigned

/-! ## The invariant -/

def Evse.isOpen (s : Evse) : Bool := s.handler.data.any (·.started)

variable {s : Evse}

theorem Evse.isOpen_iff :
    s.isOpen = true ↔ ∃ data, s.handler.data = some data ∧ data.started = true := by
  unfold isOpen
  cases s.handler.data with
  | none => exact ⟨nofun, fun ⟨_, h, _⟩ => by cases h⟩
  | some data => exact ⟨fun h => ⟨data, rfl, h⟩, fun ⟨_, h, hstarted⟩ => by cases h; exact hstarted⟩

/-- The ids in use: of started transactions and of the present session. -/
def Evse.knownIds (s : Evse) : List Nat :=
  s.calls.filterMap Call.startedId ++ (s.handler.data.map (·.sessionId)).toList

/-- The calls so far alternate, and ids are new. -/
structure Inv (s : Evse) : Prop where
  brackets : s.calls.foldl bracket (some false) = some s.isOpen
  ids : (s.calls.filterMap Call.startedId).Nodup
  fresh : ∀ data, s.handler.data = some data → data.started = false →
    data.sessionId ∉ s.calls.filterMap Call.startedId
  /-- a start point that is fulfilled has started the transaction -/
  settled : ∀ data, s.handler.data = some data → data.started = false →
    points.start.any s.handler.conditions.isStartConditionFullfilled = false
  noParkingBay : s.handler.conditions.isParkingBayOccupied = false
  noSignedData : s.handler.conditions.isSignedDataReceived = false
  never : NeverStarts points → s.isOpen = false

theorem inv_init : Inv points {} where
  brackets := rfl
  ids := nodup_nil
  fresh _ h := by cases h
  settled _ h := by cases h
  noParkingBay := rfl
  noSignedData := rfl
  never _ := rfl

def Call.neutral : Call → Bool
  | .onTransactionStarted _ | .onTransactionFinished _ => false
  | _ => true

theorem bracket_neutral (call : Call) (h : call.neutral = true) (isOpen : Option Bool) :
    bracket isOpen call = isOpen := by
  cases call with
  | onTransactionStarted | onTransactionFinished => cases h
  | _ =>
    cases isOpen with
    | none => rfl
    | some isOpen => cases isOpen <;> rfl

variable {call : Call}

theorem foldl_bracket_call (s : Evse) (h : call.neutral = true) :
    (s.call call).calls.foldl bracket (some false) = s.calls.foldl bracket (some false) := by
  unfold Evse.call
  rw [foldl_append]
  exact bracket_neutral call h _

theorem startedIds_call (s : Evse) (h : call.neutral = true) :
    (s.call call).calls.filterMap Call.startedId = s.calls.filterMap Call.startedId := by
  unfold Evse.call
  rw [filterMap_append]
  cases call with
  | onTransactionStarted | onTransactionFinished => cases h
  | _ => exact append_nil _

variable {points : TxPoints}

theorem inv_call (hinv : Inv points s) (h : call.neutral = true) : Inv points (s.call call) where
  brackets := (foldl_bracket_call s h).trans hinv.brackets
  ids := (startedIds_call s h).symm ▸ hinv.ids
  fresh data hdata hstarted := (startedIds_call s h).symm ▸ hinv.fresh data hdata hstarted
  settled := hinv.settled
  noParkingBay := hinv.noParkingBay
  noSignedData := hinv.noSignedData
  never := hinv.never

variable {f : TransactionData → TransactionData}

theorem inv_update (hinv : Inv points s) (hstarted : ∀ data, (f data).started = data.started)
    (hid : ∀ data, (f data).sessionId = data.sessionId) : Inv points (s.update f) := by
  have hopen : (s.update f).isOpen = s.isOpen := by
    unfold update isOpen
    cases s.handler.data with
    | none => rfl
    | some data => exact hstarted data
  have hdata : ∀ data, (s.update f).handler.data = some data → data.started = false →
      ∃ before, s.handler.data = some before ∧ before.started = false ∧
        before.sessionId = data.sessionId := by
    intro data hdata hfalse
    obtain ⟨before, hbefore, rfl⟩ := Option.map_eq_some_iff.mp hdata
    exact ⟨before, hbefore, (hstarted before).symm.trans hfalse, (hid before).symm⟩
  refine ⟨hinv.brackets.trans (congrArg some hopen.symm), hinv.ids, ?_, ?_, hinv.noParkingBay,
    hinv.noSignedData, ?_⟩
  · intro data h hfalse
    obtain ⟨before, hbefore, hnot, hsame⟩ := hdata data h hfalse
    exact hsame ▸ hinv.fresh before hbefore hnot
  · intro data h hfalse
    obtain ⟨before, hbefore, hnot, -⟩ := hdata data h hfalse
    exact hinv.settled before hbefore hnot
  · intro hnever
    exact hopen.trans (hinv.never hnever)

/-! ## Submitted events -/

theorem submit_cases (points : TxPoints) (s : Evse) (event : TxEvent) :
    let conditions := s.handler.conditions.submitEvent event
    (∃ data, s.handler.data = some data ∧ data.started = false ∧
      points.start.any conditions.isStartConditionFullfilled = true ∧
      s.submit points event =
        { handler := { conditions, data := some { data with started := true } }
          calls := s.calls ++ [.onTransactionStarted { data with started := true }] }) ∨
    (∃ data, s.handler.data = some data ∧ data.started = true ∧
      s.submit points event =
        { handler := { conditions, data := none }
          calls := s.calls ++ [.onTransactionFinished data] }) ∨
    ((∀ data, s.handler.data = some data → data.started = false →
        points.start.any conditions.isStartConditionFullfilled = false) ∧
      (∀ data, s.handler.data = some data → data.started = true →
        points.stop.any conditions.isStopConditionFullfilled = false) ∧
      s.submit points event =
        { handler := { conditions, data := s.handler.data }, calls := s.calls }) := by
  obtain ⟨⟨conditions, data⟩, calls⟩ := s
  unfold submit TransactionHandler.submitEvent
  dsimp only
  split
  · rename_i hstart
    cases data with
    | none => cases hstart
    | some data =>
      obtain ⟨hnot, hany⟩ := Bool.and_eq_true_iff.mp hstart
      exact .inl ⟨data, rfl, (Bool.not_eq_true' _).mp hnot, hany, rfl⟩
  · rename_i hstart
    split
    · rename_i hstop
      cases data with
      | none => cases hstop
      | some data => exact .inr (.inl ⟨data, rfl, (Bool.and_eq_true_iff.mp hstop).1, rfl⟩)
    · rename_i hstop
      refine .inr (.inr ⟨?_, ?_, rfl⟩)
      · rintro data rfl hstarted
        by_contra hany
        apply hstart
        show (!data.started && _) = true
        rw [hstarted, (Bool.not_eq_false _).mp hany]
        rfl
      · rintro data rfl hstarted
        by_contra hany
        apply hstop
        show (data.started && _) = true
        rw [hstarted, (Bool.not_eq_false _).mp hany]
        rfl

/-- The events the module submits: none is about the parking bay or signed data. -/
def TxEvent.submitted : TxEvent → Bool
  | .parkingBayOccupied | .parkingBayUnoccupied | .signedStartDataReceived => false
  | _ => true

variable {event : TxEvent} {c : TxStartStopConditions}

theorem submitEvent_keeps (c : TxStartStopConditions) (h : event.submitted = true) :
    (c.submitEvent event).isParkingBayOccupied = c.isParkingBayOccupied ∧
      (c.submitEvent event).isSignedDataReceived = c.isSignedDataReceived := by
  cases event <;> first
    | exact ⟨rfl, rfl⟩
    | cases h

/-- A submitted event keeps the invariant. Data that have not started a transaction need not
be settled before. -/
theorem inv_submit_of (hevent : event.submitted = true)
    (hbrackets : s.calls.foldl bracket (some false) = some s.isOpen)
    (hids : (s.calls.filterMap Call.startedId).Nodup)
    (hfresh : ∀ data, s.handler.data = some data → data.started = false →
      data.sessionId ∉ s.calls.filterMap Call.startedId)
    (hbay : s.handler.conditions.isParkingBayOccupied = false)
    (hsigned : s.handler.conditions.isSignedDataReceived = false)
    (hnever : NeverStarts points → s.isOpen = false) : Inv points (s.submit points event) := by
  obtain ⟨hbay', hsigned'⟩ := submitEvent_keeps s.handler.conditions hevent
  have hbay'' := hbay'.trans hbay
  have hsigned'' := hsigned'.trans hsigned
  rcases submit_cases points s event with
    ⟨data, hdata, hstarted, hstart, hsubmit⟩ | ⟨data, hdata, hstarted, hsubmit⟩ |
      ⟨hnostart, -, hsubmit⟩
  · -- the transaction starts: none was open, and its session is a fresh one
    have hclosed : s.isOpen = false := by rw [isOpen, hdata]; exact hstarted
    rw [hsubmit]
    refine ⟨?_, ?_, ?_, ?_, hbay'', hsigned'', ?_⟩
    · rw [foldl_append, hbrackets, hclosed]
      rfl
    · rw [filterMap_append, nodup_append]
      refine ⟨hids, nodup_singleton _, ?_⟩
      intro id hid id' hid'
      rw [mem_singleton.mp hid']
      rintro rfl
      exact hfresh data hdata hstarted hid
    · rintro _ ⟨⟩ hfalse
      cases hfalse
    · rintro _ ⟨⟩ hfalse
      cases hfalse
    · intro h
      obtain ⟨p, hp, hfulfilled⟩ := any_eq_true.mp hstart
      rcases h p hp with rfl | rfl
      · cases hbay''.symm.trans hfulfilled
      · cases hsigned''.symm.trans hfulfilled
  · -- the transaction stops
    have hopen : s.isOpen = true := by rw [isOpen, hdata]; exact hstarted
    rw [hsubmit]
    refine ⟨?_, ?_, ?_, ?_, hbay'', hsigned'', fun _ => rfl⟩
    · rw [foldl_append, hbrackets, hopen]
      rfl
    · rw [filterMap_append]
      exact (append_nil _).symm ▸ hids
    · intro _ h
      cases h
    · intro _ h
      cases h
  · rw [hsubmit]
    exact ⟨hbrackets, hids, hfresh, hnostart, hbay'', hsigned'', hnever⟩

theorem inv_submit (hinv : Inv points s) (hevent : event.submitted = true) :
    Inv points (s.submit points event) :=
  inv_submit_of hevent hinv.brackets hinv.ids hinv.fresh hinv.noParkingBay hinv.noSignedData
    hinv.never

/-! ## Session events -/

theorem getTxEvent_submitted (reason : Reason) : (getTxEvent reason).submitted = true := by
  cases reason <;> rfl

section

variable {points : TxPoints} {Q : Evse → Prop}

/-- Updates of what a message reports leave the session and its start alone. -/
def Reports (f : TransactionData → TransactionData) : Prop :=
  ∀ data, (f data).started = data.started ∧ (f data).sessionId = data.sessionId

variable {event : SessionEvent}

theorem event_rule (hcall : ∀ s call, call.neutral = true → Q s → Q (s.call call))
    (hupdate : ∀ s f, Reports f → Q s → Q (s.update f))
    (hsubmit : ∀ s event, event.submitted = true → Q s → Q (s.submit points event)) {s : Evse}
    (hs : event.starts = none → Q s)
    (hstart : ∀ (data : TransactionData) (tx : TxEvent), data.started = false →
      event.starts = some data.sessionId → tx.submitted = true →
      Q (submit { s with handler := { s.handler with data := some data } } points tx)) :
    Q (processSessionEvent points s event) := by
  have hdispatch : ∀ connectorId, Q (dispatch points s event connectorId) := by
    intro connectorId
    obtain ⟨uuid, connector, kind⟩ := event
    cases kind with
    | sessionStarted reason idTag reservationId =>
      unfold dispatch processSessionStarted
      cases reason with
      | evConnected => exact hcall _ _ rfl (hstart _ _ rfl rfl rfl)
      | authorized =>
        cases idTag with
        | none => exact hstart _ _ rfl rfl rfl
        | some tag => exact hstart _ _ rfl rfl rfl
    | transactionStarted idTag reservationId =>
      unfold dispatch processTransactionStarted
      dsimp only
      split
      · apply hsubmit _ _ rfl
        apply hsubmit _ _ rfl
        exact hcall _ _ rfl (hs rfl)
      · split
        · apply hsubmit _ _ rfl
          apply hcall _ _ rfl
          exact hupdate _ _ (fun _ => ⟨rfl, rfl⟩) (hs rfl)
        · apply hsubmit _ _ rfl
          exact hupdate _ _ (fun _ => ⟨rfl, rfl⟩) (hs rfl)
    | transactionFinished reason idTag =>
      have htx : ((reason.map (getTxEvent ∘ toOcppReason)).getD .none).submitted = true := by
        cases reason with
        | none => rfl
        | some reason => exact getTxEvent_submitted (toOcppReason reason)
      unfold dispatch processTransactionFinished
      dsimp only
      split
      · apply hcall _ _ rfl
        apply hsubmit _ _ htx
        exact hupdate _ _ (fun _ => ⟨rfl, rfl⟩) (hs rfl)
      · apply hsubmit _ _ rfl
        apply hsubmit _ _ htx
        exact hupdate _ _ (fun _ => ⟨rfl, rfl⟩) (hs rfl)
    | sessionFinished | chargingStarted | chargingPausedEV | chargingPausedEVSE =>
      apply hcall _ _ rfl
      apply hsubmit _ _ rfl
      exact hupdate _ _ (fun _ => ⟨rfl, rfl⟩) (hs rfl)
    | chargingResumed =>
      apply hcall _ _ rfl
      exact hupdate _ _ (fun _ => ⟨rfl, rfl⟩) (hs rfl)
    | deauthorized =>
      apply hsubmit _ _ rfl
      exact hupdate _ _ (fun _ => ⟨rfl, rfl⟩) (hs rfl)
    | disabled | enabled | reservationStart | reservationEnd => exact hcall _ _ rfl (hs rfl)
    | authorized | ignored => exact hs rfl
  unfold processSessionEvent
  split
  · exact hcall _ _ rfl (hdispatch _)
  · exact hdispatch _

end

/-- Every event keeps this. -/
theorem inv_event (hinv : Inv points s) (event : SessionEvent)
    (hstarts : ∀ id, event.starts = some id →
      s.isOpen = false ∧ id ∉ s.calls.filterMap Call.startedId) :
    Inv points (processSessionEvent points s event) := by
  refine event_rule ?_ ?_ ?_ (fun _ => hinv) ?_
  · intro s call hneutral h
    exact inv_call h hneutral
  · intro s f hf h
    exact inv_update h (fun data => (hf data).1) fun data => (hf data).2
  · intro s tx htx h
    exact inv_submit h htx
  · -- whatever the new data report, their transaction is not started yet
    intro data tx hnot hsession htx
    obtain ⟨hclosed, hid⟩ := hstarts _ hsession
    refine inv_submit_of htx ?_ hinv.ids ?_ hinv.noParkingBay hinv.noSignedData fun _ => hnot
    · rw [hinv.brackets, hclosed]
      exact congrArg some hnot.symm
    · rintro _ ⟨⟩ _
      exact hid

/-! ## Session ids -/

theorem knownIds_call (s : Evse) (h : call.neutral = true) :
    (s.call call).knownIds = s.knownIds := by
  unfold knownIds
  rw [startedIds_call s h]
  rfl

theorem knownIds_update (s : Evse) (hid : ∀ data, (f data).sessionId = data.sessionId) :
    (s.update f).knownIds = s.knownIds := by
  unfold knownIds update
  cases s.handler.data with
  | none => rfl
  | some data => exact congrArg (_ ++ [·]) (hid data)

theorem knownIds_submit (points : TxPoints) (s : Evse) (event : TxEvent) :
    (s.submit points event).knownIds ⊆ s.knownIds := by
  intro id hid
  unfold knownIds at hid ⊢
  rcases submit_cases points s event with
    ⟨data, hdata, -, -, hsubmit⟩ | ⟨data, hdata, -, hsubmit⟩ | ⟨-, -, hsubmit⟩
  · -- the id of the present session becomes that of a started transaction
    rw [hsubmit, filterMap_append] at hid
    rw [hdata]
    simpa [Call.startedId] using hid
  · rw [hsubmit, filterMap_append] at hid
    simp only [filterMap_cons, Call.startedId, filterMap_nil, append_nil,
      Option.map_none, Option.toList_none] at hid
    exact mem_append_left _ hid
  · rw [hsubmit] at hid
    exact hid

theorem knownIds_event (points : TxPoints) (s : Evse) (event : SessionEvent) :
    (processSessionEvent points s event).knownIds ⊆ s.knownIds ++ event.starts.toList := by
  refine event_rule (Q := fun t => t.knownIds ⊆ s.knownIds ++ event.starts.toList) ?_ ?_ ?_
    (fun _ => subset_append_left _ _) ?_
  · intro t call hneutral h
    rw [knownIds_call t hneutral]
    exact h
  · intro t f hf h
    rw [knownIds_update t fun data => (hf data).2]
    exact h
  · intro t tx _ h id hid
    exact h (knownIds_submit points t tx hid)
  · intro data tx _ hid _ known hmem
    rcases mem_append.mp (knownIds_submit points _ tx hmem) with hstarted | hnew
    · exact mem_append_left _ (mem_append_left _ hstarted)
    · rw [hid]
      exact mem_append_right _ hnew

/-! ## The end of a session -/

theorem disconnected_start {p : TxStartStopPoint}
    (h : (c.submitEvent .evDisconnected).isStartConditionFullfilled p = true) :
    c.isStartConditionFullfilled p = true := by
  cases p with
  | parkingBayOccupancy | authorized | dataSigned => exact h
  | evConnected | energyTransfer => cases h
  | powerPathClosed =>
    have hconnected := (Bool.and_eq_true_iff.mp h).2
    cases hconnected

theorem disconnected_stop {p : TxStartStopPoint} (hbay : c.isParkingBayOccupied = false)
    (hauthorized : p ≠ .authorized) (hsigned : p ≠ .dataSigned) :
    (c.submitEvent .evDisconnected).isStopConditionFullfilled p = true := by
  unfold isStopConditionFullfilled
  split
  · rfl
  · cases p with
    | parkingBayOccupancy =>
      show (!c.isParkingBayOccupied) = true
      rw [hbay]
      rfl
    | evConnected | energyTransfer => rfl
    | powerPathClosed =>
      show (!c.isAuthorized || true) = true
      rw [Bool.or_true]
    | authorized => exact absurd rfl hauthorized
    | dataSigned => exact absurd rfl hsigned

theorem closed_disconnected (hinv : Inv points s) (hstops : StopsAtSessionEnd points) :
    (s.submit points .evDisconnected).isOpen = false := by
  obtain ⟨p, hp, hauthorized, hsigned⟩ := hstops
  rcases submit_cases points s .evDisconnected with
    ⟨data, hdata, hstarted, hstart, -⟩ | ⟨data, -, -, hsubmit⟩ | ⟨-, hnostop, hsubmit⟩
  · -- a start point would have been fulfilled before
    obtain ⟨q, hq, hfulfilled⟩ := any_eq_true.mp hstart
    have hbefore : points.start.any s.handler.conditions.isStartConditionFullfilled = true :=
      any_eq_true.mpr ⟨q, hq, disconnected_start hfulfilled⟩
    cases hbefore.symm.trans (hinv.settled data hdata hstarted)
  · rw [hsubmit]
    rfl
  · rw [hsubmit]
    show s.isOpen = false
    by_contra hopen
    obtain ⟨data, hdata, hstarted⟩ := isOpen_iff.mp ((Bool.not_eq_false _).mp hopen)
    have hstop : points.stop.any (s.handler.conditions.submitEvent
        .evDisconnected).isStopConditionFullfilled = true :=
      any_eq_true.mpr ⟨p, hp, disconnected_stop hinv.noParkingBay hauthorized hsigned⟩
    cases hstop.symm.trans (hnostop data hdata hstarted)

theorem isOpen_call (s : Evse) (call : Call) : (s.call call).isOpen = s.isOpen := rfl

theorem closed_of_idle (hpoints : NeverStarts points ∨ StopsAtSessionEnd points)
    (hinv : Inv points s) {phase : Phase} (hphase : phase = .idle → s.isOpen = false)
    {event : SessionEvent} (hnext : phase.next event.kind = some .idle) :
    (processSessionEvent points s event).isOpen = false := by
  unfold processSessionEvent dispatch getAuthorizedIdToken
  cases hkind : event.kind with
  | sessionFinished =>
    rw [hkind] at hnext
    unfold processSessionFinished
    rw [isOpen_call]
    have hupdated : Inv points (s.update ({ · with
        chargingState := .idle
        stopReason := .evDisconnected
        triggerReason := .evCommunicationLost })) := by
      apply inv_update hinv <;> exact fun _ => rfl
    rcases hpoints with hnever | hstops
    · exact (inv_submit hupdated rfl).never hnever
    · exact closed_disconnected hupdated hstops
  | disabled | enabled | reservationStart | reservationEnd | ignored =>
    rw [hkind] at hnext
    cases phase with
    | idle => exact hphase rfl
    | session | transaction => cases hnext
  | _ =>
    rw [hkind] at hnext
    cases phase <;> cases hnext

theorem idle_of_starts {phase next : Phase} {event : SessionEvent} {id : Nat}
    (hnext : phase.next event.kind = some next) (hstarts : event.starts = some id) :
    phase = .idle := by
  unfold starts at hstarts
  cases hkind : event.kind with
  | sessionStarted reason idTag reservationId =>
    rw [hkind] at hnext
    cases phase with
    | idle => rfl
    | session | transaction => cases hnext
  | _ =>
    rw [hkind] at hstarts
    cases hstarts

/-! ## Runs -/

theorem inv_run (hpoints : NeverStarts points ∨ StopsAtSessionEnd points)
    (events : List SessionEvent) {phase : Phase} (hinv : Inv points s)
    (hphase : phase = .idle → s.isOpen = false) (horder : Emitted phase events)
    (hids : (events.filterMap starts).Nodup)
    (hfresh : ∀ id ∈ events.filterMap starts, id ∉ s.knownIds) :
    Inv points (run (processSessionEvent points) s events) := by
  induction events generalizing phase s with
  | nil => exact hinv
  | cons event rest ih =>
    obtain ⟨next, hnext, horder'⟩ := horder
    have hstarts : ∀ id, event.starts = some id →
        s.isOpen = false ∧ id ∉ s.calls.filterMap Call.startedId := by
      intro id hid
      refine ⟨hphase (idle_of_starts hnext hid), fun hmem => ?_⟩
      refine hfresh id ?_ (mem_append_left _ hmem)
      rw [filterMap_cons_some hid]
      exact mem_cons_self
    refine ih (inv_event hinv event hstarts) ?_ horder' ?_ ?_
    · rintro rfl
      exact closed_of_idle hpoints hinv hphase hnext
    · rw [filterMap_cons] at hids
      split at hids
      · exact hids
      · exact (nodup_cons.mp hids).2
    · -- the ids to come are neither the old ones nor that of this event
      intro id hid hknown
      rcases mem_append.mp (knownIds_event points s event hknown) with hold | hnew
      · refine hfresh id ?_ hold
        rw [filterMap_cons]
        split
        · exact hid
        · exact mem_cons_of_mem _ hid
      · have hself : event.starts = some id := Option.mem_toList.mp hnew
        rw [filterMap_cons_some hself] at hids
        exact (nodup_cons.mp hids).1 hid

/-! ## Points that leave a transaction open -/

theorem never_stops (hpoints : ¬ StopsAtSessionEnd points) (hauthorized : c.isAuthorized = true)
    (hreset : c.isImmediateReset = false) :
    points.stop.any c.isStopConditionFullfilled = false := by
  rw [any_eq_false]
  intro p hp
  unfold isStopConditionFullfilled
  rw [hreset]
  by_cases hp' : p = .authorized
  · rw [hp', hauthorized]
    exact Bool.false_ne_true
  · by_cases hsigned : p = .dataSigned
    · rw [hsigned]
      exact Bool.false_ne_true
    · exact absurd ⟨p, hp, hp', hsigned⟩ hpoints

theorem fulfilled_of_charging (hpoints : ¬ NeverStarts points) (hauthorized : c.isAuthorized = true)
    (hconnected : c.isEvConnected = true) (hcharging : c.isEnergyTransfered = true) :
    points.start.any c.isStartConditionFullfilled = true := by
  unfold NeverStarts at hpoints
  push Not at hpoints
  obtain ⟨p, hp, hbay, hsigned⟩ := hpoints
  refine any_eq_true.mpr ⟨p, hp, ?_⟩
  unfold isStartConditionFullfilled
  cases p with
  | parkingBayOccupancy => exact absurd rfl hbay
  | dataSigned => exact absurd rfl hsigned
  | evConnected => exact hconnected
  | authorized => exact hauthorized
  | energyTransfer => exact hcharging
  | powerPathClosed => exact Bool.and_eq_true_iff.mpr ⟨hauthorized, hconnected⟩

def plainSession (id : Nat) : List SessionEvent :=
  [{ uuid := id, kind := .sessionStarted .evConnected none none },
   { uuid := id, kind := .chargingStarted },
   { uuid := id, kind := .sessionFinished }]

def opened : Option Bool → Option Bool
  | some false => some true
  | _ => none

theorem bracket_started (isOpen : Option Bool) (data : TransactionData) :
    bracket isOpen (.onTransactionStarted data) = opened isOpen := by
  cases isOpen with
  | none => rfl
  | some isOpen => cases isOpen <;> rfl

theorem plainSession_starts (hstarts : ¬ NeverStarts points) (hstops : ¬ StopsAtSessionEnd points)
    (hs : s.handler.conditions = { isAuthorized := true }) (id : Nat) :
    (run (processSessionEvent points) s (plainSession id)).handler.conditions =
        { isAuthorized := true } ∧
      (run (processSessionEvent points) s (plainSession id)).calls.foldl bracket (some false) =
        opened (s.calls.foldl bracket (some false)) := by
  obtain ⟨⟨conditions, before⟩, calls⟩ := s
  cases hs
  have hcharging := never_stops hstops
    (c := { isAuthorized := true, isEvConnected := true, isEnergyTransfered := true }) rfl rfl
  have hunplugged := never_stops hstops (c := { isAuthorized := true }) rfl rfl
  have hstart := fulfilled_of_charging hstarts
    (c := { isAuthorized := true, isEvConnected := true, isEnergyTransfered := true }) rfl rfl rfl
  -- the transaction starts when the EV is plugged in, or when it charges
  cases hplugged : points.start.any (isStartConditionFullfilled
      { isAuthorized := true, isEvConnected := true }) <;>
    simp [plainSession, run, processSessionEvent, dispatch, getAuthorizedIdToken,
      processSessionStarted, sessionData, processChargingStarted, processSessionFinished,
      submit, TransactionHandler.submitEvent, TransactionHandler.shouldTransactionStart,
      TransactionHandler.shouldTransactionStop, submitEvent,
      processTxEventEffect, call, update, bracket_started, bracket_neutral
      (.onSessionStarted 1) rfl, bracket_neutral (.onSessionFinished 1) rfl, bracket_neutral
      (.onChargingStateChanged .charging none) rfl, hplugged, hstart, hcharging, hunplugged]

/-- A session that is started by an authorization and ends without a transaction leaves the
EVSE authorized. -/
def authorizedOnly (id : Nat) : List SessionEvent :=
  [{ uuid := id, kind := .sessionStarted .authorized none none },
   { uuid := id, kind := .sessionFinished }]

theorem submit_conditions (points : TxPoints) (s : Evse) (event : TxEvent) :
    (s.submit points event).handler.conditions = s.handler.conditions.submitEvent event := by
  rcases submit_cases points s event with ⟨_, _, _, _, h⟩ | ⟨_, _, _, h⟩ | ⟨_, _, h⟩ <;> rw [h]

theorem authorizedOnly_conditions (points : TxPoints) (id : Nat) :
    (run (processSessionEvent points) {} (authorizedOnly id)).handler.conditions =
      { isAuthorized := true } := by
  show (submit _ points .evDisconnected).handler.conditions = _
  rw [submit_conditions]
  show (submit _ points .authorized).handler.conditions.submitEvent .evDisconnected = _
  rw [submit_conditions]
  rfl

def leftOpen : List SessionEvent := authorizedOnly 0 ++ plainSession 1 ++ plainSession 2

theorem leftOpen_emitted : FromEvseManager leftOpen where
  order := by
    refine ⟨.session, rfl, .idle, rfl, ?_⟩
    refine ⟨.session, rfl, .session, rfl, .idle, rfl, ?_⟩
    exact ⟨.session, rfl, .session, rfl, .idle, rfl, trivial⟩
  ids := by decide

theorem leftOpen_not_bracketed (hstarts : ¬ NeverStarts points)
    (hstops : ¬ StopsAtSessionEnd points) : ¬ Bracketed points leftOpen := by
  intro h
  apply h.1
  unfold leftOpen
  rw [run_append, run_append]
  obtain ⟨hconditions, -⟩ :=
    plainSession_starts hstarts hstops (authorizedOnly_conditions points 0) 1
  rw [(plainSession_starts hstarts hstops hconditions 2).2,
    (plainSession_starts hstarts hstops (authorizedOnly_conditions points 0) 1).2]
  -- whatever was open before, two more starts are one too many
  cases (run (processSessionEvent points) {} (authorizedOnly 0)).calls.foldl bracket
      (some false) with
  | none => rfl
  | some isOpen => cases isOpen <;> rfl

/-! ## Main result -/

/-- The calls are well bracketed for every sequence of events exactly if no event fulfils a
start point, or the end of a session fulfils a stop point. -/
theorem transactions_well_bracketed_iff (points : TxPoints) :
    (∀ events, FromEvseManager events → Bracketed points events) ↔
      NeverStarts points ∨ StopsAtSessionEnd points := by
  constructor
  · intro h
    by_contra hpoints
    obtain ⟨hstarts, hstops⟩ := not_or.mp hpoints
    exact leftOpen_not_bracketed hstarts hstops (h leftOpen leftOpen_emitted)
  · intro hpoints events hevents
    have hinv := inv_run hpoints events (inv_init points) (fun _ => rfl) hevents.order
      hevents.ids (fun _ _ => not_mem_nil)
    refine ⟨?_, hinv.ids⟩
    unfold WellBracketed
    rw [hinv.brackets]
    exact Option.some_ne_none _

/-- Transactions start with the connection of the EV and stop with signed data. -/
def dataSignedStop : TxPoints where
  start := [.evConnected]
  stop := [.dataSigned]
  start_ne_nil := by decide
  stop_ne_nil := by decide

/-- The EV is plugged in, charges within a transaction and is unplugged; then it is plugged
in again. -/
def pluggedInTwice : List SessionEvent :=
  [{ uuid := 1, kind := .sessionStarted .evConnected none none },
   { uuid := 1, kind := .transactionStarted { idToken := 7 } none },
   { uuid := 1, kind := .chargingStarted },
   { uuid := 1, kind := .transactionFinished (some .local) none },
   { uuid := 1, kind := .sessionFinished },
   { uuid := 2, kind := .sessionStarted .evConnected none none }]

/-- The second session starts its transaction while the first one is still open. -/
theorem open_transaction_is_replaced :
    FromEvseManager pluggedInTwice ∧ ¬ Bracketed dataSignedStop pluggedInTwice ∧
      ((run (processSessionEvent dataSignedStop) {} pluggedInTwice).calls.filter
        (fun call => !call.neutral)).map Call.startedId = [some 1, some 2] := by
  refine ⟨⟨?_, by decide⟩, ?_, by decide⟩
  · exact ⟨.session, rfl, .transaction, rfl, .transaction, rfl, .session, rfl, .idle, rfl,
      .session, rfl, trivial⟩
  · intro h
    exact h.1 (by decide)

end EverestCore.Ocpp
