import EverestCore.Charging.PassEffects

/-!
# What the operations do to the view

The operations that do more than set one field, each with the view afterwards.
What is not here changes the view by a single assignment, or not at all.
-/

namespace EverestCore.Charging

open EverestCore.Evse (ErrorHandlingEvents handleEvent)

namespace Session

/-- `authorize(true)` starts a session if there is none, `authorize(false)` ends
the running one. -/
def authorize (id : String) (a pnc : Bool) (x : Session) : Session :=
  if a then
    { (if x.sessionActive then x else x.startSession id) with
      authorized := true
      authorizedPnc := pnc }
  else { (if x.sessionActive then x.stopSession else x) with authorized := false }

/-- A session after `cancel_transaction`. -/
def cancel (contactorOpen : Bool) (x : Session) : Session :=
  let x := { x with authorized := false, authorizedPnc := false }
  if contactorOpen then x.stopTransaction else x

/-- A session after the cleanup on startup. -/
def cleanup (x : Session) : Session :=
  if x.storeActive = true ∧ x.storedSession ≠ "" then
    { x with storedSession := "", phase := x.phase.finishTransaction }
  else x

end Session

/-- A switch of phases is delayed while charging, and passed on at once otherwise. -/
def View.switchPhases (v : View) : View :=
  match v.currentState with
  | .charging =>
    { v with currentState := .switchPhases, switchingPhasesReturnState := .prepareCharging }
  | .waitingForEnergy =>
    { v with currentState := .switchPhases, switchingPhasesReturnState := .waitingForEnergy }
  | _ => v

namespace Charger

variable (s : Charger) (env : Env)

theorem view_setMaxCurrent (c : ℚ) (validUntil : Int) :
    (s.setMaxCurrent env c validUntil).1.view = s.view := by
  unfold setMaxCurrent
  split <;> rfl

theorem view_enableDisableInitialStatePublish :
    s.enableDisableInitialStatePublish.view = s.view := by
  unfold enableDisableInitialStatePublish
  simp only
  split <;> rfl

theorem view_enableDisable (connectorId : Int) (source : EnableDisableSource) :
    ∃ state, (s.enableDisable connectorId source).1.view = { s.view with currentState := state } ∧
      state ∈ [s.view.currentState, .idle, .disabled] := by
  have hset : ∀ t : Charger, t.view = s.view →
      ∃ state, (if t.shared.currentState = .disabled ∧ t.shared.connectorEnabled = true then
          t.setState .idle else t).view = { s.view with currentState := state } ∧
        state ∈ [s.view.currentState, .idle] := by
    intro t ht
    rw [← ht]
    split
    · exact ⟨.idle, rfl, by simp⟩
    · exact ⟨t.view.currentState, rfl, by simp⟩
  unfold enableDisable
  obtain ⟨state, hview, hmem⟩ := hset { s with
    enableDisableSourceTable :=
      enableDisableSourceTableUpdate source s.enableDisableSourceTable
    activeEnableDisableSource := (parseEnableDisableSourceTable
      (enableDisableSourceTableUpdate source s.enableDisableSourceTable)).1
    shared.connectorEnabled := if connectorId ≠ 0 then (parseEnableDisableSourceTable
      (enableDisableSourceTableUpdate source s.enableDisableSourceTable)).2
      else s.shared.connectorEnabled } rfl
  rw [view_emit _ rfl]
  have hweaken : state ∈ [s.view.currentState, .idle, .disabled] := by
    simp only [List.mem_cons, List.not_mem_nil, or_false] at hmem ⊢
    rcases hmem with h | h
    · exact .inl h
    · exact .inr (.inl h)
  split
  · split
    · exact ⟨state, by rw [view_simpleEvent _ (by decide)]; exact hview, hweaken⟩
    · refine ⟨.disabled, ?_, by simp⟩
      rw [view_simpleEvent _ (by decide), view_setState, hview]
  · exact ⟨state, hview, hweaken⟩

theorem view_authorize (a : Bool) (token : ProvidedIdToken) (tariffMessages : List String) :
    (s.authorize env a token tariffMessages).view =
      { s.view with
        session := s.view.session.authorize env.sessionId.1 a
          (decide (token.authorizationType = .plugAndCharge)) } := by
  have hactive : s.view.session.sessionActive = s.shared.sessionActive := rfl
  unfold authorize Session.authorize
  simp only [hactive]
  split
  · split <;> rfl
  · split <;> rfl

theorem view_switchThreePhasesWhileCharging (n : Bool) :
    (s.switchThreePhasesWhileCharging n).1.view =
      if s.view.hlcChargingActive then s.view else s.view.switchPhases := by
  have hhlc : s.view.hlcChargingActive = s.shared.hlcChargingActive := rfl
  unfold switchThreePhasesWhileCharging View.switchPhases
  rw [hhlc]
  split
  · rfl
  · nth_rewrite 1 [show s.view.currentState = s.shared.currentState from rfl]
    generalize s.shared.currentState = state
    cases state <;> rfl

theorem view_pauseCharging :
    s.pauseCharging.1.view = s.view ∨
      (s.view.currentState = .charging ∧
        s.pauseCharging.1.view = { s.view with currentState := .chargingPausedEVSE }) := by
  unfold pauseCharging
  split
  · rename_i h
    refine .inr ⟨h, ?_⟩
    split <;> rfl
  · exact .inl rfl

theorem view_resumeCharging :
    s.resumeCharging.1.view =
      if s.view.session.transactionActive = true ∧
          s.view.currentState = .chargingPausedEVSE then
        { s.view with currentState :=
            if s.view.hlcChargingActive then .prepareCharging else .waitingForEnergy }
      else s.view := by
  have hhlc : s.view.hlcChargingActive = s.shared.hlcChargingActive := rfl
  unfold resumeCharging
  rw [apply_ite Prod.fst, apply_ite view, hhlc]
  refine if_congr Iff.rfl ?_ rfl
  split
  · simp only
    split <;> rfl
  · rfl

/-- Charging resumes with the power. -/
def resumesOnPower (env : Env) (s : Charger) : Bool :=
  decide (s.shared.currentState = .waitingForEnergy) && s.shared.transactionActive &&
    (s.powerAvailable env.now).2

theorem view_resumeChargingPowerAvailable :
    (s.resumeChargingPowerAvailable env).1.view =
      if s.resumesOnPower env then { s.view with currentState := .prepareCharging }
      else s.view := by
  have hiff : s.resumesOnPower env = true ↔ (s.shared.transactionActive = true ∧
      s.shared.currentState = .waitingForEnergy) ∧ (s.powerAvailable env.now).2 = true := by
    simp [resumesOnPower, and_comm]
  unfold resumeChargingPowerAvailable
  by_cases hwait : s.shared.transactionActive = true ∧ s.shared.currentState = .waitingForEnergy
  · rw [if_pos hwait]
    by_cases hpower : (s.powerAvailable env.now).2 = true
    · rw [if_pos hpower, if_pos (hiff.mpr ⟨hwait, hpower⟩), view_setState, view_powerAvailable]
    · rw [if_neg hpower, if_neg fun h => hpower (hiff.mp h).2, view_powerAvailable]
  · rw [if_neg hwait, if_neg fun h => hwait (hiff.mp h).1]

theorem view_interruptCharging (reason : StopTransactionReason) :
    (s.interruptCharging reason).view =
        { s.view with currentState :=
            if s.view.hlcChargingActive then .stoppingCharging else .chargingPausedEVSE } ∧
      (s.interruptCharging reason).shared.contactorOpen = s.shared.contactorOpen := by
  have hhlc : s.view.hlcChargingActive = s.shared.hlcChargingActive := rfl
  unfold interruptCharging
  rw [hhlc]
  split
  · split <;> exact ⟨rfl, rfl⟩
  · exact ⟨rfl, rfl⟩

theorem view_cancelTransaction (request : StopTransactionRequest) :
    (s.cancelTransaction env request).1.view =
      if s.view.session.transactionActive then
        { s.view with
          session := s.view.session.cancel s.shared.contactorOpen
          currentState :=
            if s.view.hlcChargingActive then .stoppingCharging else .chargingPausedEVSE }
      else s.view := by
  obtain ⟨hview, hopen⟩ := view_interruptCharging s request.reason
  have hactive : s.view.session.transactionActive = s.shared.transactionActive := rfl
  unfold cancelTransaction
  rw [hactive]
  split
  · have hmarked : ({ s.interruptCharging request.reason with
        shared.authorized := false
        shared.authorizedPnc := false
        shared.lastStopTransactionReason := some request.reason
        shared.stopTransactionIdToken := request.idTag } : Charger).view =
        { s.view with
          session.authorized := false
          session.authorizedPnc := false
          currentState :=
            if s.view.hlcChargingActive then .stoppingCharging else .chargingPausedEVSE } :=
      congrArg (fun v : View => { v with
        session.authorized := false, session.authorizedPnc := false }) hview
    unfold Session.cancel
    simp only
    rw [hopen]
    split
    · refine (view_stopTransaction _ env).trans ?_
      exact congrArg (fun v : View => { v with session := v.session.stopTransaction }) hmarked
    · exact hmarked
  · rfl

theorem view_requestErrorSequence :
    s.requestErrorSequence.view =
      if s.view.currentState = .waitingForAuthentication ∨
          s.view.currentState = .prepareCharging then
        { s.view with
          currentState := .tStepEF
          tStepEFReturnState := s.view.currentState }
      else s.view := by
  unfold requestErrorSequence
  rw [apply_ite view]
  rfl

theorem view_notifyCurrentdemandStarted :
    s.notifyCurrentdemandStarted.view = s.view ∨
      (s.view.currentState = .prepareCharging ∧
        s.notifyCurrentdemandStarted.view = { s.view with currentState := .charging }) := by
  unfold notifyCurrentdemandStarted
  split
  · rename_i h
    exact .inr ⟨h, rfl⟩
  · exact .inl rfl

theorem view_dlinkError :
    s.dlinkError.view = { s.view with hlcAllowCloseContactor := false } ∨
      s.dlinkError.view =
        { s.view with
          hlcAllowCloseContactor := false
          currentState := .tStepX1
          tStepX1ReturnState := .tStepEF
          tStepEFReturnState := .waitingForAuthentication } := by
  unfold dlinkError
  simp only
  split
  · exact .inr rfl
  · exact .inl rfl

theorem view_cleanupTransactionsOnStartup :
    (s.cleanupTransactionsOnStartup env).view =
      { s.view with session := s.view.session.cleanup } := by
  have hmeters : ∀ (answers : List TransactionRequestStatus) (t : Charger),
      (answers.foldl (fun t _ => t.emit (.meterStopTransaction "")) t).view = t.view := by
    intro answers
    induction answers with
    | nil => intro t; rfl
    | cons _ rest ih => intro t; exact ih (t.emit (.meterStopTransaction ""))
  unfold cleanupTransactionsOnStartup Session.cleanup
  have hactive : s.view.session.storeActive = s.storeActive := rfl
  have hstored : s.view.session.storedSession = s.storedSession := rfl
  rw [hmeters, hactive, hstored]
  cases h : s.storeActive with
  | false => simp
  | true =>
    simp only [if_true, true_and]
    split
    · rw [view_transactionFinished, view_stopMeters, view_storeSession]
      unfold Session.storeSession
      rw [hactive, h]
      rfl
    · rfl

end Charger

/-! ## What an operation leaves alone -/

def Op.aboutSession : Op → Bool
  | .authorize _ _ _ => true
  | .deauthorize => true
  | .cancelTransaction _ => true
  | .cleanupTransactionsOnStartup => true
  | _ => false

/-- What an operation leaves alone, depending on which it is. -/
structure CallFrame (op : Op) (v w : View) : Prop where
  powerWhileFatal : w.powerWhileFatal = v.powerWhileFatal
  session : op.aboutSession = false → w.session = v.session

namespace Charger

variable (s : Charger) (env : Env)

open View in
/-- Every operation keeps to this. -/
theorem callFrame_call (op : Op) : CallFrame op s.view (s.call env op).1.view := by
  have hmoves : ∀ {w : View}, s.view.Moves w → CallFrame op s.view w := by
    intro w h
    refine ⟨?_, fun _ => ?_⟩
    · rw [h]
    · rw [h]
  have hsame : CallFrame op s.view s.view := hmoves (.refl _)
  cases op with
  | setMaxCurrent | enableDisableInitialStatePublish | stopChargingOnFatalError =>
    simp only [call, view_setMaxCurrent, view_enableDisableInitialStatePublish,
      view_stopChargingOnFatalErrorInternal]
    exact hsame
  | enableDisable connectorId source =>
    obtain ⟨state, hview, hmem⟩ := view_enableDisable s connectorId source
    rw [call, hview]
    simp only [List.mem_cons, List.not_mem_nil, or_false] at hmem
    rcases hmem with rfl | rfl | rfl
    · exact hsame
    · exact hmoves moves_state
    · exact hmoves moves_state
  | authorize a token tariffMessages =>
    rw [call, view_authorize]
    exact ⟨rfl, nofun⟩
  | deauthorize =>
    rw [call, view_deauthorizeInternal]
    exact ⟨rfl, nofun⟩
  | cleanupTransactionsOnStartup =>
    rw [call, view_cleanupTransactionsOnStartup]
    exact ⟨rfl, nofun⟩
  | cancelTransaction request =>
    rw [call, view_cancelTransaction]
    split
    · exact ⟨rfl, nofun⟩
    · exact hsame
  | switchThreePhasesWhileCharging n =>
    rw [call, view_switchThreePhasesWhileCharging]
    split
    · exact hsame
    · unfold switchPhases
      split <;> exact ⟨rfl, fun _ => rfl⟩
  | pauseCharging =>
    rcases view_pauseCharging s with hview | ⟨_, hview⟩
    · rw [call, hview]
      exact hsame
    · rw [call, hview]
      exact hmoves moves_state
  | pauseChargingWaitForPower => exact hmoves (view_pauseChargingWaitForPowerInternal s)
  | resumeCharging =>
    rw [call, view_resumeCharging]
    split
    · exact hmoves moves_state
    · exact hsame
  | resumeChargingPowerAvailable =>
    rw [call, view_resumeChargingPowerAvailable]
    split
    · exact hmoves moves_state
    · exact hsame
  | requestErrorSequence =>
    rw [call, view_requestErrorSequence]
    split
    · exact hmoves moves_tStepEF
    · exact hsame
  | notifyCurrentdemandStarted =>
    rcases view_notifyCurrentdemandStarted s with hview | ⟨_, hview⟩
    · rw [call, hview]
      exact hsame
    · rw [call, hview]
      exact hmoves moves_state
  | dlinkError =>
    rcases view_dlinkError s with hview | hview
    · rw [call, hview]
      exact ⟨rfl, fun _ => rfl⟩
    · rw [call, hview]
      exact ⟨rfl, fun _ => rfl⟩
  | _ => exact ⟨rfl, fun _ => rfl⟩

end Charger

end EverestCore.Charging
