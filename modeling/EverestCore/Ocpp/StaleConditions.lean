import EverestCore.Ocpp.Bracketed

/-!
# Conditions of an earlier transaction

No event clears `is_signed_data_received` and `is_immediate_reset`: signed data start a
transaction, and a reset stops one, that they were not submitted for.
-/

namespace EverestCore.Ocpp

open EverestCore.Lib TxStartStopConditions

/-! ## Histories -/

inductive TxStep
  | submitEvent (event : TxEvent)
  | addTransactionData (data : TransactionData)

/-- An EVSE with the events submitted to it: all of them, those since a transaction was stopped
and those since one was started. -/
structure TxHistory where
  evse : Evse := {}
  events : List TxEvent := []
  sinceStop : List TxEvent := []
  sinceStart : List TxEvent := []

variable (points : TxPoints)

variable (h : TxHistory)

def TxHistory.step : TxStep → TxHistory
  | .submitEvent event =>
    let effect := (h.evse.handler.submitEvent points event).2
    { evse := h.evse.submit points event
      events := h.events ++ [event]
      sinceStop := if effect = .stopTransaction then [] else h.sinceStop ++ [event]
      sinceStart := if effect = .startTransaction then [] else h.sinceStart ++ [event] }
  | .addTransactionData data =>
    { h with evse.handler.data := some { data with started := false } }

def TxStartStopConditions.startsBySignedData (c : TxStartStopConditions) (points : TxPoints) :
    Prop :=
  ∀ p ∈ points.start, c.isStartConditionFullfilled p = true → p = .dataSigned
deriving Decidable

/-- No stop point's own condition holds. -/
def TxStartStopConditions.stopsByReset (c : TxStartStopConditions) (points : TxPoints) : Prop :=
  ∀ p ∈ points.stop, { c with isImmediateReset := false }.isStopConditionFullfilled p = false
deriving Decidable

/-- Signed data that alone start a transaction came after the last one was stopped, and a reset
that alone stops it came after it was started. -/
def OwnConditions : TxStep → Prop
  | .submitEvent event =>
    let c := h.evse.handler.conditions.submitEvent event
    let effect := (h.evse.handler.submitEvent points event).2
    (effect = .startTransaction → c.startsBySignedData points →
      .signedStartDataReceived ∈ h.sinceStop ++ [event]) ∧
    (effect = .stopTransaction → c.stopsByReset points →
      .immediateReset ∈ h.sinceStart ++ [event])
  | .addTransactionData _ => True

/-- Where the next effect depends on signed data or a reset that was submitted before, it has
been submitted again for this transaction. -/
def Resubmitted : TxStep → Prop
  | .submitEvent event =>
    let c := h.evse.handler.conditions.submitEvent event
    (h.evse.handler.data.any (!·.started) = true → .dataSigned ∈ points.start →
      c.startsBySignedData points → .signedStartDataReceived ∈ h.events →
      .signedStartDataReceived ∈ h.sinceStop ++ [event]) ∧
    (h.evse.handler.data.any (·.started) = true → c.stopsByReset points →
      .immediateReset ∈ h.events → .immediateReset ∈ h.sinceStart ++ [event])
  | .addTransactionData _ => True

/-! ## Flags and effects -/

variable {points : TxPoints} {h : TxHistory}

structure TxHistory.Kept (h : TxHistory) : Prop where
  signed : h.evse.handler.conditions.isSignedDataReceived = true ↔
    .signedStartDataReceived ∈ h.events
  reset : h.evse.handler.conditions.isImmediateReset = true ↔ .immediateReset ∈ h.events

theorem submitEvent_flags (c : TxStartStopConditions) (event : TxEvent) :
    ((c.submitEvent event).isSignedDataReceived = true ↔
      c.isSignedDataReceived = true ∨ event = .signedStartDataReceived) ∧
    ((c.submitEvent event).isImmediateReset = true ↔
      c.isImmediateReset = true ∨ event = .immediateReset) := by
  cases event <;> simp [submitEvent]

theorem TxHistory.Kept.step (hkept : h.Kept) (s : TxStep) : (h.step points s).Kept := by
  cases s with
  | submitEvent event =>
    obtain ⟨hsigned, hreset⟩ := submitEvent_flags h.evse.handler.conditions event
    constructor
    · simp [TxHistory.step, submit_conditions, hsigned, hkept.signed, eq_comm]
    · simp [TxHistory.step, submit_conditions, hreset, hkept.reset, eq_comm]
  | addTransactionData data => exact ⟨hkept.signed, hkept.reset⟩

theorem effect_iff (points : TxPoints) (t : TransactionHandler) (event : TxEvent) :
    let c := t.conditions.submitEvent event
    ((t.submitEvent points event).2 = .startTransaction ↔
      t.data.any (!·.started) = true ∧ ∃ p ∈ points.start, c.isStartConditionFullfilled p = true) ∧
    ((t.submitEvent points event).2 = .stopTransaction ↔
      t.data.any (·.started) = true ∧ ∃ p ∈ points.stop, c.isStopConditionFullfilled p = true) := by
  obtain ⟨conditions, data⟩ := t
  unfold TransactionHandler.submitEvent TransactionHandler.shouldTransactionStart
    TransactionHandler.shouldTransactionStop
  cases data with
  | none => simp
  | some data => cases hstarted : data.started <;> simp [hstarted, apply_ite Prod.snd, ite_eq_iff]

/-- **No condition of an earlier transaction** has an effect exactly if what it stands for is
submitted again wherever the effect depends on it. -/
theorem own_conditions_iff (points : TxPoints) (steps : List TxStep) :
    Along (TxHistory.step points) (OwnConditions points) {} steps ↔
      Along (TxHistory.step points) (Resubmitted points) {} steps := by
  refine along_congr (I := TxHistory.Kept) (fun _ s hkept => hkept.step s) ?_ steps
    ⟨by simp, by simp⟩
  intro h s hkept
  cases s with
  | addTransactionData data => exact Iff.rfl
  | submitEvent event =>
    obtain ⟨hstart, hstop⟩ := effect_iff points h.evse.handler event
    obtain ⟨hsigned, hreset⟩ := submitEvent_flags h.evse.handler.conditions event
    rw [hkept.signed] at hsigned
    rw [hkept.reset] at hreset
    refine and_congr ?_ ?_
    · rw [hstart]
      constructor
      · intro hown hwaiting hpoint honly hbefore
        exact hown ⟨hwaiting, _, hpoint, hsigned.mpr (.inl hbefore)⟩ honly
      · rintro hagain ⟨hwaiting, p, hpoint, hfulfilled⟩ honly
        obtain rfl := honly p hpoint hfulfilled
        rcases hsigned.mp hfulfilled with hbefore | rfl
        · exact hagain hwaiting hpoint honly hbefore
        · simp
    · rw [hstop]
      constructor
      · intro hown hstarted hnone hbefore
        obtain ⟨p, hp⟩ := List.exists_mem_of_ne_nil _ points.stop_ne_nil
        refine hown ⟨hstarted, p, hp, ?_⟩ hnone
        simp [isStopConditionFullfilled, hreset.mpr (.inl hbefore)]
      · rintro hagain ⟨hstarted, p, hpoint, hfulfilled⟩ hnone
        have hflag : (h.evse.handler.conditions.submitEvent event).isImmediateReset = true := by
          by_contra hflag
          have hown := hnone p hpoint
          simp_all [isStopConditionFullfilled]
        rcases hreset.mp hflag with hbefore | rfl
        · exact hagain hstarted hnone hbefore
        · simp

def leftBySignedData : List TxStep :=
  let data : TransactionData :=
    { connectorId := 1, sessionId := 1, triggerReason := .cablePluggedIn, chargingState := .idle }
  [.submitEvent .evConnected, .addTransactionData data, .submitEvent .signedStartDataReceived,
    .submitEvent .evDisconnected, .addTransactionData { data with sessionId := 2 },
    .submitEvent .evConnected]

/-- Signed data of the first transaction start the second one. -/
theorem signed_data_start_next_transaction :
    ¬ Along (TxHistory.step ⟨[.dataSigned], [.evConnected], by simp, by simp⟩)
      (OwnConditions ⟨[.dataSigned], [.evConnected], by simp, by simp⟩) {} leftBySignedData := by
  rintro ⟨-, -, -, -, -, ⟨hstart, -⟩, -⟩
  exact absurd (hstart (by decide) (by decide)) (by decide)

end EverestCore.Ocpp
