import EverestCore.Auth.Tokens

/-!
# The states of connectors

The state of a connector stands for three facts: it has been disabled, it has a fault, a
transaction is running. Only six of the eight combinations have a state, and an event that
has no arc is dropped. A connector that is disabled during a session is therefore available
after it, and so is one whose transaction was started while it was disabled or faulted.

**Main result**: `connector_offered_only_if_usable`.
-/

namespace EverestCore.Auth

open EverestCore.Lib

/-! ## Events of one connector -/

/-- Of the events that switch something on or off, the last one has switched it on. -/
def lastIs (on off : ConnectorEvent) (events : List ConnectorEvent) : Bool :=
  (events.filter fun event => event = on || event = off).getLast? = some on

def isDisabledBy : List ConnectorEvent → Bool := lastIs .disable .enable

def isFaultedBy : List ConnectorEvent → Bool := lastIs .faulted .errorCleared

/-- A transaction has been started, and no session has finished since. -/
def isStartedBy : List ConnectorEvent → Bool := lastIs .transactionStarted .sessionFinished

theorem lastIs_append {on off : ConnectorEvent} (hne : off ≠ on) (events : List ConnectorEvent)
    (event : ConnectorEvent) :
    lastIs on off (events ++ [event]) =
      if event = on then true else if event = off then false else lastIs on off events := by
  unfold lastIs
  rw [List.filter_append, List.filter_singleton]
  by_cases hon : event = on
  · simp [hon]
  · by_cases hoff : event = off
    · simp [hoff, hne]
    · simp [hon, hoff]

namespace ConnectorState

variable (state : ConnectorState)

def isDisabled : Bool :=
  state = .unavailable || state = .unavailableFaulted

def isFaulted : Bool :=
  state = .faulted || state = .unavailableFaulted || state = .faultedOccupied

def isOccupied : Bool :=
  state = .occupied || state = .faultedOccupied

/-- No session is running when the connector is disabled, and it is neither disabled nor
faulted when a transaction is started. -/
def Accepts (event : ConnectorEvent) : Prop :=
  (event = .disable → state.isOccupied = false) ∧
    (event = .transactionStarted →
      state = .available ∨ state = .occupied ∨ state = .faultedOccupied)
deriving Decidable

/-- The connector does not become disabled and faulted at once. -/
def KeepsOneReason (event : ConnectorEvent) : Prop :=
  (event = .disable → state ≠ .faulted) ∧ (event = .faulted → state ≠ .unavailable)
deriving Decidable

/-- The state shows all three facts. -/
structure Mirrors (events : List ConnectorEvent) : Prop where
  disabled : state.isDisabled = isDisabledBy events
  faulted : state.isFaulted = isFaultedBy events
  occupied : state.isOccupied = isStartedBy events

/-- An event with an arc keeps the state and the facts together. -/
theorem Mirrors.handleEvent {state : ConnectorState} {events : List ConnectorEvent}
    (h : state.Mirrors events) {event : ConnectorEvent} (haccepts : state.Accepts event) :
    (state.handleEvent event).Mirrors (events ++ [event]) := by
  obtain ⟨hdisabled, hfaulted, hoccupied⟩ := h
  have hflags : (state.handleEvent event).isDisabled =
        (if event = .disable then true else if event = .enable then false else state.isDisabled) ∧
      (state.handleEvent event).isFaulted =
        (if event = .faulted then true else if event = .errorCleared then false
          else state.isFaulted) ∧
      (state.handleEvent event).isOccupied =
        (if event = .transactionStarted then true else if event = .sessionFinished then false
          else state.isOccupied) := by
    revert haccepts
    cases state <;> cases event <;> decide
  constructor
  · rw [hflags.1, hdisabled]
    exact (lastIs_append (by decide) events event).symm
  · rw [hflags.2.1, hfaulted]
    exact (lastIs_append (by decide) events event).symm
  · rw [hflags.2.2, hoccupied]
    exact (lastIs_append (by decide) events event).symm

theorem handleEvent_ne_unavailableFaulted {state : ConnectorState} {event : ConnectorEvent}
    (hstate : state ≠ .unavailableFaulted) (hkeeps : state.KeepsOneReason event) :
    state.handleEvent event ≠ .unavailableFaulted := by
  revert hstate hkeeps
  cases state <;> cases event <;> decide

end ConnectorState

/-! ## The connectors of an EVSE -/

variable (evse : EvseContext)

def EvseContext.submitEvent (connectorId : Nat) (event : ConnectorEvent) :
    EvseContext :=
  match evse.connectors.find? fun connector => connector.id = connectorId with
  | none => evse
  | some connector =>
    { evse with
      connectors :=
        setConnectorState connectorId (connector.state.handleEvent event) evse.connectors }

def EvseContext.connectorState? (connectorId : Nat) :
    Option ConnectorState :=
  (evse.connectors.find? fun connector => connector.id = connectorId).map Connector.state

theorem find?_setConnectorState_of_ne {connectorId other : Nat} (hne : other ≠ connectorId)
    (state : ConnectorState) (connectors : List Connector) :
    (setConnectorState connectorId state connectors).find? (fun connector => connector.id = other) =
      connectors.find? fun connector => connector.id = other := by
  induction connectors with
  | nil => rfl
  | cons head rest ih =>
    rw [setConnectorState]
    by_cases hid : head.id = connectorId
    · have hother : head.id ≠ other := fun heq => hne (heq.symm.trans hid)
      rw [if_pos hid, List.find?_cons_of_neg (by simpa using hother),
        List.find?_cons_of_neg (by simpa using hother)]
    · rw [if_neg hid, List.find?_cons, List.find?_cons, ih]

theorem connectorState?_submitEvent (connectorId other : Nat) (event : ConnectorEvent) :
    (evse.submitEvent connectorId event).connectorState? other =
      if other = connectorId then
        (evse.connectorState? connectorId).map fun state => state.handleEvent event
      else evse.connectorState? other := by
  unfold EvseContext.submitEvent EvseContext.connectorState?
  cases hfind : evse.connectors.find? fun connector => decide (connector.id = connectorId) with
  | none =>
    split_ifs with heq
    · rw [heq, hfind]
      rfl
    · rfl
  | some connector =>
    split_ifs with heq
    · rw [heq, find?_setConnectorState hfind]
      rfl
    · rw [find?_setConnectorState_of_ne heq]

theorem mem_connectors_submitEvent {evse : EvseContext} {connectorId : Nat}
    {event : ConnectorEvent} {connector : Connector}
    (hmem : connector ∈ (evse.submitEvent connectorId event).connectors) :
    connector ∈ evse.connectors ∨
      ∃ state, evse.connectorState? connectorId = some state ∧
        connector.state = state.handleEvent event := by
  unfold EvseContext.submitEvent at hmem
  cases hfind : evse.connectors.find? fun connector => decide (connector.id = connectorId) with
  | none =>
    rw [hfind] at hmem
    exact .inl hmem
  | some old =>
    obtain ⟨before, after, hold, hset⟩ :=
      setConnectorState_of_find hfind (old.state.handleEvent event)
    rw [hfind] at hmem
    dsimp only at hmem
    rw [hset, List.mem_append, List.mem_cons] at hmem
    rw [hold, List.mem_append, List.mem_cons]
    rcases hmem with hbefore | rfl | hafter
    · exact .inl (.inl hbefore)
    · exact .inr ⟨old.state, by rw [EvseContext.connectorState?, hfind]; rfl, rfl⟩
    · exact .inl (.inr (.inr hafter))

/-! ## Histories -/

/-- An EVSE and the events of its connectors so far. -/
structure ConnectorHistory where
  evse : EvseContext
  events : List (Nat × ConnectorEvent) := []

namespace ConnectorHistory

variable (s : ConnectorHistory)

def step (event : Nat × ConnectorEvent) : ConnectorHistory where
  evse := s.evse.submitEvent event.1 event.2
  events := s.events ++ [event]

def eventsOf (connectorId : Nat) : List ConnectorEvent :=
  (s.events.filter fun event => event.1 = connectorId).map Prod.snd

/-- An available connector is enabled, without fault and not in use. -/
def UsableIfAvailable : Prop :=
  ∀ connectorId, s.evse.connectorState? connectorId = some .available →
    isDisabledBy (s.eventsOf connectorId) = false ∧
      isFaultedBy (s.eventsOf connectorId) = false ∧
      isStartedBy (s.eventsOf connectorId) = false

/-- An available EVSE has an available connector. -/
def OfferedIfAvailable : Prop :=
  ∀ (handler : AuthHandler) (evseId : Nat),
    handler.reservationHandler.evses[evseId]? = some s.evse →
      handler.isAvailable evseId = true →
        ∃ connector ∈ s.evse.connectors, connector.state = .available

def Accepts (event : Nat × ConnectorEvent) : Prop :=
  ∀ state ∈ s.evse.connectorState? event.1, state.Accepts event.2
deriving Decidable

def KeepsOneReason (event : Nat × ConnectorEvent) : Prop :=
  ∀ state ∈ s.evse.connectorState? event.1, state.KeepsOneReason event.2
deriving Decidable

/-- The states of all connectors say what their events say. -/
def Mirrored : Prop :=
  ∀ connectorId state, s.evse.connectorState? connectorId = some state →
    state.Mirrors (s.eventsOf connectorId)

/-- No connector is disabled and faulted. -/
def OneReason : Prop :=
  ∀ connector ∈ s.evse.connectors, connector.state ≠ .unavailableFaulted

variable {s : ConnectorHistory} {event : Nat × ConnectorEvent}

theorem eventsOf_step (event : Nat × ConnectorEvent) (connectorId : Nat) :
    (s.step event).eventsOf connectorId =
      if connectorId = event.1 then s.eventsOf connectorId ++ [event.2]
      else s.eventsOf connectorId := by
  unfold eventsOf step
  rw [List.filter_append, List.filter_singleton, List.map_append]
  by_cases heq : connectorId = event.1
  · simp [heq]
  · simp [heq, Ne.symm heq]

/-- Events with an arc keep every state right. -/
theorem Mirrored.step (h : s.Mirrored) (haccepts : s.Accepts event) : (s.step event).Mirrored := by
  intro connectorId state hstate
  rw [eventsOf_step]
  rw [ConnectorHistory.step, connectorState?_submitEvent] at hstate
  split_ifs at hstate ⊢ with heq
  · obtain ⟨old, hold, rfl⟩ := Option.map_eq_some_iff.mp hstate
    rw [heq]
    exact (h event.1 old hold).handleEvent (haccepts old hold)
  · exact h connectorId state hstate

theorem Mirrored.usableIfAvailable (h : s.Mirrored) : s.UsableIfAvailable := by
  intro connectorId hstate
  have hmirrors := h connectorId .available hstate
  exact ⟨hmirrors.disabled.symm, hmirrors.faulted.symm, hmirrors.occupied.symm⟩

/-- No connector becomes disabled and faulted at once. -/
theorem OneReason.step (h : s.OneReason) (hkeeps : s.KeepsOneReason event) :
    (s.step event).OneReason := by
  intro connector hmem
  rcases mem_connectors_submitEvent hmem with hold | ⟨state, hstate, heq⟩
  · exact h connector hold
  · obtain ⟨old, hfind, rfl⟩ := Option.map_eq_some_iff.mp hstate
    rw [heq]
    exact ConnectorState.handleEvent_ne_unavailableFaulted (h old (List.mem_of_find?_eq_some hfind))
      (hkeeps old.state hstate)

theorem OneReason.offeredIfAvailable (h : s.OneReason) : s.OfferedIfAvailable := by
  intro handler evseId hevse hoffered
  unfold AuthHandler.isAvailable at hoffered
  rw [hevse] at hoffered
  split_ifs at hoffered with htimeout hidentifier
  dsimp only at hoffered
  split_ifs at hoffered with hoccupied
  obtain ⟨connector, hmem, hcounts⟩ := List.any_eq_true.mp hoffered
  refine ⟨connector, hmem, ?_⟩
  have hfree : connector.state ≠ .occupied ∧ connector.state ≠ .faultedOccupied := by
    simpa using fun heq => hoccupied (List.any_eq_true.mpr ⟨connector, hmem, heq⟩)
  have hone := h connector hmem
  revert hcounts hfree hone
  cases connector.state <;> decide

/-- **A connector is offered only when it is usable**, as long as no connector drops an event,
and, for the EVSE as a whole, as long as no connector is disabled and faulted at once. -/
theorem connector_offered_only_if_usable (evse : EvseContext)
    (havailable : ∀ connector ∈ evse.connectors, connector.state = .available)
    (events : List (Nat × ConnectorEvent)) :
    (Along step Accepts { evse } events → Always step UsableIfAvailable { evse } events) ∧
      (Along step KeepsOneReason { evse } events →
        Always step OfferedIfAvailable { evse } events) := by
  have hmirrored : Mirrored { evse } := by
    intro connectorId state hstate
    obtain ⟨connector, hfind, rfl⟩ := Option.map_eq_some_iff.mp hstate
    rw [havailable connector (List.mem_of_find?_eq_some hfind)]
    exact ⟨rfl, rfl, rfl⟩
  have hone : OneReason { evse } := by
    intro connector hmem
    rw [havailable connector hmem]
    decide
  exact ⟨always_of_along (fun s event => Mirrored.step) (fun s => Mirrored.usableIfAvailable)
      hmirrored,
    always_of_along (fun s event => OneReason.step) (fun s => OneReason.offeredIfAvailable) hone⟩

end ConnectorHistory

open ConnectorHistory

/-- On an EVSE with two connectors a session on the first is over, and the second has been
disabled and enabled. -/
theorem two_connectors_offered_only_if_usable :
    Always step UsableIfAvailable { evse := { connectors := [{ id := 1 }, { id := 2 }] } }
        [(1, .transactionStarted), (2, .disable), (1, .sessionFinished), (2, .enable)] ∧
      Always step OfferedIfAvailable { evse := { connectors := [{ id := 1 }, { id := 2 }] } }
        [(1, .transactionStarted), (2, .disable), (1, .sessionFinished), (2, .enable)] :=
  ⟨(connector_offered_only_if_usable _ (by decide) _).1 (by decide),
    (connector_offered_only_if_usable _ (by decide) _).2 (by decide)⟩

/-- A connector that is disabled during a session is available when the session is over. A
connector that is disabled and has a fault makes the EVSE available. -/
theorem disabled_connector_offered :
    (∃ s, s = run step { evse := { connectors := [{ id := 1 }] } }
          [(1, .transactionStarted), (1, .disable), (1, .sessionFinished)] ∧
        s.evse.connectorState? 1 = some .available ∧ isDisabledBy (s.eventsOf 1) = true) ∧
      ∃ (s : ConnectorHistory) (handler : AuthHandler),
        s = run step { evse := { connectors := [{ id := 1 }] } } [(1, .disable), (1, .faulted)] ∧
        handler.reservationHandler.evses[1]? = some s.evse ∧ handler.isAvailable 1 = true ∧
        s.evse.connectors.map Connector.state = [.unavailableFaulted] :=
  ⟨⟨_, rfl, by decide, by decide⟩,
    ⟨_, { selectionAlgorithm := .findFirst,
          reservationHandler :=
            { evses := ({} : Evses).insert 1
                { connectors := [{ id := 1, state := .unavailableFaulted }] } } },
      rfl, by decide +kernel, by decide +kernel, by decide⟩⟩

end EverestCore.Auth
