import EverestCore.Charging.View

/-!
# What a pass does to the view

One inversion lemma per state of the state machine and per kind of CP event: the
view afterwards in terms of the view before. Proofs about runs of the charger
case on these and never unfold the machine.
-/

namespace EverestCore.Charging

open EverestCore.Iec (CpEvent Reason)
open EverestCore.Evse (ShutdownType)

/-! ## Sessions and transactions -/

namespace Session

def startSession (id : String) (x : Session) : Session :=
  { x with
    authorized := false
    sessionActive := true
    sessionUuid := id
    phase := x.phase.startSession }

variable (x : Session)

def stopSession : Session :=
  { x with
    authorized := false
    sessionActive := false
    sessionUuid := ""
    phase := x.phase.finishSession }

def storeSession (id : String) (x : Session) : Session :=
  if x.storeActive then { x with storedSession := id } else x

/-- A meter refused: only the flag is set. -/
def beginTransaction : Session := { x with transactionActive := true }

/-- `TransactionStarted` comes last, after the store. -/
def startTransaction (x : Session) : Session :=
  let x := x.beginTransaction.storeSession x.sessionUuid
  { x with phase := x.phase.startTransaction }

def stopTransaction : Session :=
  let x := storeSession "" { x with transactionActive := false }
  { x with phase := x.phase.finishTransaction }

/-- Only a session without a charging process is stopped. -/
def deauthorize (state : EvseState) (x : Session) : Session :=
  if x.sessionActive = true ∧ x.authorized = true ∧
      (state = .disabled ∨ state = .idle ∨ state = .waitingForAuthentication) then
    x.stopSession
  else x

/-- What an authorized session does next: plug and charge starts a transaction in
any case, EIM only if none is active. -/
def proceed (refused : Bool) (x : Session) : Session :=
  if x.authorized = true ∧ (x.authorizedPnc = true ∨ x.transactionActive = false) then
    if refused then x.beginTransaction else x.startTransaction
  else x

/-- The end of a charging process: an open transaction first, then the session. -/
def finish : Session :=
  let x := if x.transactionActive then x.stopTransaction else x
  if x.sessionActive then x.stopSession else x

end Session

/-- Some billing meter refuses to start, and the configuration takes that
seriously. -/
def Env.metersRefuse (env : Env) (failOnPowermeterErrors : Bool) : Bool :=
  failOnPowermeterErrors && env.meterStart.contains .unexpectedError

namespace Charger

variable (s : Charger) (env : Env)

@[simp] theorem view_stopSession :
    s.stopSession.view = { s.view with session := s.view.session.stopSession } := rfl

@[simp] theorem view_storeSession (id : String) :
    (s.storeSession id).view =
      { s.view with session := s.view.session.storeSession id } := by
  have hactive : s.view.session.storeActive = s.storeActive := rfl
  unfold storeSession Session.storeSession
  rw [hactive]
  split <;> rfl

theorem view_transactionFinished (reason : StopTransactionReason) (token : Option ProvidedIdToken) :
    (s.emit (.transactionFinished reason token)).view =
      { s.view with session.phase := s.view.session.phase.finishTransaction } := rfl

theorem view_stopTransaction :
    (s.stopTransaction env).view =
      { s.view with session := s.view.session.stopTransaction } := by
  unfold stopTransaction
  rw [view_transactionFinished, view_simpleEvent _ (by decide), view_storeSession, view_stopMeters]
  rfl

theorem startMeters_snd (answers : List TransactionRequestStatus) :
    (s.startMeters answers).2 =
      !(s.view.failOnPowermeterErrors && answers.contains .unexpectedError) := by
  induction answers generalizing s with
  | nil => simp [startMeters]
  | cons status rest ih =>
    unfold startMeters
    simp only
    split
    · -- the failure that ends the loop
      rename_i h
      rw [h.1, show s.view.failOnPowermeterErrors = true from h.2]
      simp
    · rename_i h
      rw [ih, view_emit _ rfl]
      cases hfail : s.view.failOnPowermeterErrors with
      | false => rfl
      | true =>
        have hstatus : status ≠ .unexpectedError := fun heq => h ⟨heq, hfail⟩
        simp [hstatus.symm]

theorem startTransaction_snd :
    (s.startTransaction env).2 = !env.metersRefuse s.view.failOnPowermeterErrors := by
  have hsnd : (s.startTransaction env).2 = (s.beginTransaction.startMeters env.meterStart).2 := by
    unfold startTransaction
    simp only
    split
    · rename_i h
      exact h.symm
    · rename_i h
      exact ((Bool.not_eq_true _).mp h).symm
  rw [hsnd]
  exact startMeters_snd s.beginTransaction env.meterStart

theorem view_startTransaction :
    (s.startTransaction env).1.view =
      { s.view with
        session := if env.metersRefuse s.view.failOnPowermeterErrors
          then s.view.session.beginTransaction else s.view.session.startTransaction } := by
  have hsnd := startTransaction_snd s env
  have hstart : ∀ (t : Charger) token,
      (t.emit (.transactionStarted token)).view =
        { t.view with session.phase := t.view.session.phase.startTransaction } :=
    fun _ _ => rfl
  have hmeters := view_startMeters s.beginTransaction env.meterStart
  revert hsnd
  unfold startTransaction
  simp only
  split
  · intro hsnd
    rw [if_neg (by simpa using hsnd.symm), hstart, view_storeSession,
      show (s.beginTransaction.startMeters env.meterStart).1.shared.sessionUuid =
        (s.beginTransaction.startMeters env.meterStart).1.view.session.sessionUuid from rfl,
      hmeters]
    rfl
  · intro hsnd
    rw [if_pos (by simpa using hsnd.symm), hmeters]
    rfl

theorem view_deauthorizeInternal :
    s.deauthorizeInternal.1.view =
      { s.view with session := s.view.session.deauthorize s.view.currentState } := by
  have hkeep h : s.view.session.deauthorize s.view.currentState = s.view.session := if_neg h
  unfold deauthorizeInternal
  by_cases hsession : s.shared.sessionActive = true
  · rw [if_pos hsession]
    simp only
    split
    · rename_i hstate
      by_cases hauth : (s.simpleEvent .deauthorized).shared.authorized = true
      · have hstop : s.view.session.deauthorize s.view.currentState = s.view.session.stopSession :=
          if_pos ⟨hsession, hauth, hstate⟩
        rw [if_pos hauth, hstop]
        rfl
      · rw [if_neg hauth, hkeep fun h => hauth h.2.1]
        split <;> rfl
    · rename_i hstate
      rw [hkeep fun h => hstate h.2.2]
      rfl
  · rw [if_neg hsession, hkeep fun h => hsession h.1]

/-! ## A pass -/

/-- The charger as a pass finds it. -/
def entered (env : Env) (s : Charger) : Charger :=
  let init := s.initializeState
  let s := s.beginPass.countSocTimer
  (if init then s.enterState env else s).cleanUpSwitchPhases

theorem view_entered : (s.entered env).view = s.view := by
  have hclean : ∀ t : Charger, t.view = s.view → t.cleanUpSwitchPhases.view = s.view := by
    intro t hview
    unfold cleanUpSwitchPhases
    split <;> exact hview
  unfold entered countSocTimer
  simp only
  split <;> split <;> exact hclean _ rfl

theorem socTimerExpired_beginPass : s.beginPass.socTimerExpired = s.socTimerExpired := by
  have hflag : s.beginPass.shared.acWithSocTimeout = s.shared.acWithSocTimeout := rfl
  unfold socTimerExpired countSocTimer
  rw [hflag]
  split <;> rfl

theorem view_pass_of_expired (h : s.socTimerExpired = true) : (s.pass env).1.view = s.view := by
  unfold pass
  simp only
  rw [socTimerExpired_beginPass, if_pos h]
  rfl

/-- A pass is the function of its state. -/
theorem pass_eq (h : ¬ s.socTimerExpired = true) :
    ∃ time, (s.pass env).1 = (s.entered env).passState env s.initializeState time := by
  unfold pass
  simp only
  rw [socTimerExpired_beginPass, if_neg h]
  exact ⟨_, rfl⟩

end Charger

/-! ## The states -/

/-- Only the state and the states to return to change. -/
def View.Moves (v w : View) : Prop :=
  w = { v with
    currentState := w.currentState
    tStepEFReturnState := w.tStepEFReturnState
    tStepX1ReturnState := w.tStepX1ReturnState }

namespace View

variable {v : View} {state : EvseState}

theorem Moves.refl (v : View) : v.Moves v := rfl

theorem Moves.trans {w x : View} (h : v.Moves w) (h' : w.Moves x) : v.Moves x := by
  rw [Moves, h', h]

theorem moves_state : v.Moves { v with currentState := state } := rfl

theorem moves_tStepEF :
    v.Moves { v with currentState := .tStepEF, tStepEFReturnState := state } :=
  rfl

end View

namespace Charger

open View

variable (s : Charger) (env : Env) (init : Bool)

/-- Most states do something on entry that does not show, and go on from there. -/
@[elab_as_elim] theorem of_ite {p : Charger → Prop} {c : Prop} [Decidable c] {t : Charger}
    (ht : t.view = s.view) (h : ∀ u : Charger, u.view = s.view → p u) :
    p (if c then t else s) := by
  split
  · exact h t ht
  · exact h s rfl

theorem view_passIdle :
    (s.passIdle init).view =
      if init then
        { s.view with
          session := { s.view.session.deauthorize s.view.currentState with
            transactionActive := false }
          hlcChargingActive := decide (s.view.chargeMode = ChargeMode.dc)
          hlcAllowCloseContactor := false
          iecAllowCloseContactor := false }
      else s.view := by
  have hreset : s.resetForIdle.view =
      { s.view with
        hlcChargingActive := decide (s.view.chargeMode = ChargeMode.dc)
        hlcAllowCloseContactor := false
        iecAllowCloseContactor := false } := rfl
  have hclear : ∀ t : Charger, ({ t with shared.transactionActive := false } : Charger).view =
      { t.view with session.transactionActive := false } := fun _ => rfl
  cases init with
  | false => rfl
  | true =>
    unfold passIdle
    simp only [if_true]
    rw [view_clearErrorsOnUnplug, hclear, view_deauthorizeInternal, hreset]

variable (time : Int)

theorem view_passSwitchPhases :
    (s.passSwitchPhases init time).view = s.view ∨
      (s.passSwitchPhases init time).view =
        { s.view with
          currentState := s.view.switchingPhasesReturnState } := by
  unfold passSwitchPhases
  simp only
  refine of_ite (c := init = true) s ?_ fun t ht => ?_
  · split <;> rfl
  · split
    · right
      rw [← ht]
      rfl
    · exact .inl ht

theorem view_passTStepEF :
    (s.passTStepEF env init time).view = s.view ∨
      (s.passTStepEF env init time).view =
        { s.view with currentState := s.view.tStepEFReturnState } := by
  unfold passTStepEF
  refine of_ite (c := init = true) s (by rfl) fun t ht => ?_
  simp only
  split
  · right
    rw [view_setState, view_restorePwm, ← ht]
    rfl
  · left
    split <;> exact ht

theorem view_passTStepX1 :
    (s.passTStepX1 env init time).view = s.view ∨
      (s.passTStepX1 env init time).view =
        { s.view with currentState := s.view.tStepX1ReturnState } := by
  unfold passTStepX1
  refine of_ite s (view_pwmOff s) fun t ht => ?_
  split
  · right
    rw [view_setState, view_restorePwm, ← ht]
    rfl
  · exact .inl ht

/-- The cable could not be read: the pass stops there. -/
def stuckOnCable (env : Env) (s : Charger) : Bool := (s.readCable env).cableUnread

variable {s} in
theorem stuckOnCable_congr {t : Charger} (htype : t.connectorType = s.connectorType)
    (hcable : t.shared.maxCurrentCable = s.shared.maxCurrentCable) :
    t.stuckOnCable env = s.stuckOnCable env := by
  have hunread : t.cableUnread = s.cableUnread := by
    unfold cableUnread
    rw [htype, hcable]
  unfold stuckOnCable readCable
  rw [hunread]
  split
  · unfold cableUnread
    rw [show (_ : Charger).connectorType = s.connectorType from htype]
  · exact hunread

theorem view_proceedEim : s.view.Moves s.proceedEim.view := by
  unfold proceedEim
  split
  · unfold proceedEimAc
    split
    · split
      · exact moves_state
      · split
        · exact moves_tStepEF
        · split
          · exact rfl
          · exact moves_state
    · exact moves_state
  · exact moves_state

theorem view_proceedPnc : s.view.Moves s.proceedPnc.view := by
  unfold proceedPnc
  split <;> exact moves_state

theorem view_startAndProceed (proceed : Charger → Charger)
    (hproceed : ∀ t : Charger, t.view.Moves (proceed t).view) :
    { s.view with
        session := if env.metersRefuse s.view.failOnPowermeterErrors
          then s.view.session.beginTransaction else s.view.session.startTransaction }.Moves
      (if (s.startTransaction env).2 then proceed (s.startTransaction env).1
        else (s.startTransaction env).1).view := by
  rw [← view_startTransaction]
  split
  · exact hproceed _
  · exact .refl _

theorem view_proceedWhenAuthorized :
    (s.view.session.authorized = false ∧ (s.proceedWhenAuthorized env).view = s.view) ∨
      (s.view.session.authorized = true ∧
        { s.view with
          session := s.view.session.proceed (env.metersRefuse s.view.failOnPowermeterErrors)
          }.Moves (s.proceedWhenAuthorized env).view) := by
  have hstart h : s.view.session.proceed (env.metersRefuse s.view.failOnPowermeterErrors) = _ :=
    if_pos h
  unfold proceedWhenAuthorized
  by_cases hauth : s.shared.authorized = true
  · refine .inr ⟨hauth, ?_⟩
    rw [if_pos hauth]
    by_cases hpnc : s.shared.authorizedPnc = true
    · rw [if_pos hpnc, hstart ⟨hauth, .inl hpnc⟩]
      exact view_startAndProceed s env _ view_proceedPnc
    · rw [if_neg hpnc]
      unfold authorizedEim
      by_cases hactive : s.shared.transactionActive = true
      · -- restarting: the transaction goes on
        have hkeep : s.view.session.proceed (env.metersRefuse s.view.failOnPowermeterErrors) =
            s.view.session := by
          refine if_neg fun h => ?_
          rcases h.2 with h | h
          · exact hpnc h
          · exact Bool.false_ne_true (h.symm.trans hactive)
        rw [if_pos hactive, hkeep]
        exact view_proceedEim s
      · rw [if_neg hactive, hstart ⟨hauth, .inr ((Bool.not_eq_true _).mp hactive)⟩]
        exact view_startAndProceed s env _ view_proceedEim
  · rw [if_neg hauth]
    exact .inl ⟨(Bool.not_eq_true _).mp hauth, rfl⟩

theorem view_initWaitingForAuthentication :
    (s.initWaitingForAuthentication env).view = s.view ∨
      (s.view.session.sessionActive = false ∧
        (s.initWaitingForAuthentication env).view =
          { s.view with session := s.view.session.startSession env.sessionId.1 }) := by
  have hannounce : ∀ t : Charger, (t.announceAuthRequired env).view = t.view ∨
      (t.view.session.sessionActive = false ∧ (t.announceAuthRequired env).view =
        { t.view with session := t.view.session.startSession env.sessionId.1 }) := by
    intro t
    unfold announceAuthRequired
    split
    · exact .inl rfl
    · by_cases hactive : t.shared.sessionActive = true
      · rw [if_pos hactive]
        exact .inl rfl
      · rw [if_neg hactive]
        exact .inr ⟨(Bool.not_eq_true _).mp hactive, rfl⟩
  have hrest : ∃ t : Charger, t.view = s.view ∧
      (s.initWaitingForAuthentication env).view = (t.announceAuthRequired env).view := by
    refine ⟨({ s with
      internal.ppWarningPrinted := false
      internal.noEnergyWarningPrinted := false } : Charger).emit
        (.allowPowerOn false .powerOff), rfl, ?_⟩
    unfold initWaitingForAuthentication
    simp only
    split
    · rw [view_updatePwmNow, view_selectHlc]
    · rw [view_selectHlc]
  obtain ⟨t, ht, hrest⟩ := hrest
  rw [hrest, ← ht]
  exact hannounce t

theorem stuckOnCable_initWaitingForAuthentication :
    (s.initWaitingForAuthentication env).stuckOnCable env = s.stuckOnCable env := by
  have hannounce : ∀ t : Charger, (t.announceAuthRequired env).connectorType = t.connectorType ∧
      (t.announceAuthRequired env).shared.maxCurrentCable = t.shared.maxCurrentCable := by
    intro t
    unfold announceAuthRequired
    split
    · exact ⟨rfl, rfl⟩
    · split <;> exact ⟨rfl, rfl⟩
  have hselect : ∀ t : Charger, t.selectHlc.connectorType = t.connectorType ∧
      t.selectHlc.shared.maxCurrentCable = t.shared.maxCurrentCable := by
    intro t
    unfold selectHlc
    split <;> exact ⟨rfl, rfl⟩
  unfold initWaitingForAuthentication
  simp only
  split
  all_goals
    exact stuckOnCable_congr env ((hselect _).1.trans (hannounce _).1)
      ((hselect _).2.trans (hannounce _).2)

theorem view_passWaitingForAuthentication :
    ∃ session, (session = s.view.session ∨ (s.view.session.sessionActive = false ∧
        session = s.view.session.startSession env.sessionId.1)) ∧
      (((session.authorized = false ∨ s.stuckOnCable env = true) ∧
          (s.passWaitingForAuthentication env init).view = { s.view with session := session }) ∨
        (session.authorized = true ∧ s.stuckOnCable env = false ∧
          { s.view with
            session := session.proceed (env.metersRefuse s.view.failOnPowermeterErrors) }.Moves
            (s.passWaitingForAuthentication env init).view)) := by
  have hinit : ∃ session, (session = s.view.session ∨ (s.view.session.sessionActive = false ∧
      session = s.view.session.startSession env.sessionId.1)) ∧
      (if init then s.initWaitingForAuthentication env else s).view =
        { s.view with session := session } := by
    cases init with
    | false => exact ⟨_, .inl rfl, rfl⟩
    | true =>
      rcases view_initWaitingForAuthentication s env with h | ⟨hactive, h⟩
      · exact ⟨_, .inl rfl, h⟩
      · exact ⟨_, .inr ⟨hactive, rfl⟩, h⟩
  have hcable : (if init then s.initWaitingForAuthentication env else s).stuckOnCable env =
      s.stuckOnCable env := by
    cases init with
    | false => rfl
    | true => exact stuckOnCable_initWaitingForAuthentication s env
  obtain ⟨session, hsession, hview⟩ := hinit
  refine ⟨session, hsession, ?_⟩
  unfold passWaitingForAuthentication
  simp only
  revert hview hcable
  generalize (if init then s.initWaitingForAuthentication env else s) = t
  intro hcable hview
  split
  · rename_i hread
    exact .inl ⟨.inr (hcable ▸ hread), (view_readCable t env).trans hview⟩
  · rename_i hread
    have hwarn : (t.readCable env).warnNoEnergy.view = { s.view with session := session } := by
      rw [view_warnNoEnergy, view_readCable, hview]
    have hstuck : s.stuckOnCable env = false := hcable ▸ (Bool.not_eq_true _).mp hread
    rcases view_proceedWhenAuthorized (t.readCable env).warnNoEnergy env with
      ⟨hauth, h⟩ | ⟨hauth, h⟩
    · rw [hwarn] at hauth
      exact .inl ⟨.inl hauth, h.trans hwarn⟩
    · rw [hwarn] at hauth h
      exact .inr ⟨hauth, hstuck, h⟩

/-! ## Charging -/

/-- Both sides allow to close the contactor for the cable check. -/
def releasesForCableCheck (v : View) : Bool :=
  v.chargeMode == .dc && v.hlcAllowCloseContactor && v.iecAllowCloseContactor

theorem view_closeForCableCheck :
    s.closeForCableCheck.view =
      if releasesForCableCheck s.view then
        { s.view with
          powerWhileFatal := s.view.shutdownType != .none || s.view.powerWhileFatal
          powerOns := s.view.powerOns + 1 }
      else s.view := by
  have hiff : releasesForCableCheck s.view = true ↔ (s.config.chargeMode = .dc ∧
      s.shared.hlcAllowCloseContactor = true ∧ s.shared.iecAllowCloseContactor = true) := by
    simp [releasesForCableCheck, view, and_assoc]
  unfold closeForCableCheck
  by_cases h : releasesForCableCheck s.view = true
  · rw [if_pos h, if_pos (hiff.mp h)]
    rfl
  · rw [if_neg h, if_neg (mt hiff.mpr h)]

theorem view_prepareAc : s.view.Moves (s.prepareAc env time).view := by
  have hpower := view_powerAvailable s env.now
  unfold prepareAc
  simp only
  rw [← hpower]
  split
  · exact moves_state
  · split
    · exact moves_state
    · split
      · exact .refl _
      · split
        · split
          · exact moves_tStepEF
          · exact .refl _
        · split
          · exact moves_state
          · exact .refl _

theorem view_passPrepareCharging :
    ∃ t : Charger, t.view = s.view ∧
      t.closeForCableCheck.view.Moves (s.passPrepareCharging env init time).view := by
  unfold passPrepareCharging
  refine of_ite s (view_initPrepareCharging s) fun t ht => ⟨t, ht, ?_⟩
  simp only
  have hfatal := view_stopChargingOnFatalErrorInternal t.closeForCableCheck env.now
  rw [← hfatal]
  split
  · exact .refl _
  · rw [← view_enablePwm _ env]
    split
    · exact view_prepareAc _ env time
    · exact .refl _

variable {s} in
theorem view_powerOn (h : s.view.shutdownType = .none) (reason : Reason) :
    (s.emit (.allowPowerOn true reason)).view =
      { s.view with powerOns := s.view.powerOns + 1 } := by
  have hfatal : (s.view.shutdownType != .none || s.view.powerWhileFatal) =
      s.view.powerWhileFatal := by
    rw [h]
    rfl
  exact congrArg (fun b => { s.view with
    powerWhileFatal := b, powerOns := s.view.powerOns + 1 }) hfatal

theorem view_pauseChargingWaitForPowerInternal :
    s.view.Moves s.pauseChargingWaitForPowerInternal.1.view := by
  unfold pauseChargingWaitForPowerInternal
  split
  · exact moves_state
  · exact .refl _

variable {s} in
theorem view_startChargingAc (h : s.view.shutdownType = .none) :
    (s.startChargingAc env).view = { s.view with powerOns := s.view.powerOns + 1 } := by
  unfold startChargingAc
  refine of_ite s (view_simpleEvent s (by decide)) fun t hresumed => ?_
  have hwakeup : ({ t with shared.legacyWakeupDone := false } : Charger).view = s.view := hresumed
  rw [view_enablePwm, view_powerOn (by rw [hwakeup]; exact h), hwakeup]

variable {s} in
theorem view_chargeAc (h : s.view.shutdownType = .none) (init : Bool) :
    ∃ ons, { s.view with powerOns := ons }.Moves (s.chargeAc env init).view := by
  have hpower : ((s.checkSoftOverCurrent env.now).powerAvailable env.now).1.view = s.view := by simp
  unfold chargeAc
  simp only
  split
  · refine ⟨s.view.powerOns, ?_⟩
    have hpause := view_pauseChargingWaitForPowerInternal
      ((s.checkSoftOverCurrent env.now).powerAvailable env.now).1
    rw [hpower] at hpause
    exact hpause
  · split
    · rw [view_startChargingAc env (by rw [hpower]; exact h), hpower]
      exact ⟨_, .refl _⟩
    · rw [view_keepChargingAc, hpower]
      exact ⟨_, .refl _⟩

/-- What charging does to the view. -/
theorem view_passCharging :
    ∃ ons, { s.view with powerOns := ons }.Moves (s.passCharging env init).view := by
  unfold passCharging
  refine of_ite (c := init = true) s (by rfl) fun t hinit => ?_
  simp only
  have hfatal : ((t.signalFault env).stopChargingOnFatalErrorInternal env.now).1.view = s.view := by
    rw [view_stopChargingOnFatalErrorInternal, view_signalFault, hinit]
  have hsnd : ((t.signalFault env).stopChargingOnFatalErrorInternal env.now).2 =
      (s.view.shutdownType != .none) := by
    rw [stopChargingOnFatalErrorInternal_snd, view_signalFault, hinit]
  revert hfatal hsnd
  generalize ((t.signalFault env).stopChargingOnFatalErrorInternal env.now) = r
  intro hfatal hsnd
  rw [← hfatal]
  split
  · exact ⟨_, .refl _⟩
  · rename_i hnone
    have hshutdown : r.1.view.shutdownType = .none := by
      rw [hfatal]
      simpa [hsnd] using hnone
    split
    · split
      · rw [view_powerOn hshutdown]
        exact ⟨_, .refl _⟩
      · exact ⟨_, .refl _⟩
    · exact view_chargeAc env hshutdown init

/-! ## Pauses and stopping -/

theorem view_followHlc :
    s.followHlc.view = s.view ∨
      s.followHlc.view = { s.view with currentState := .stoppingCharging } := by
  unfold followHlc
  split
  · right
    rw [view_pwmOffIfRunning, view_setState]
  · exact .inl (view_pwmOffIfRunning s)
  · exact .inl rfl

theorem view_pausedEvHlc : s.view.Moves (s.pausedEvHlc env init).view := by
  unfold pausedEvHlc
  refine of_ite s (view_initPausedEvHlc s) fun t ht => ?_
  simp only
  rw [← ht]
  generalize htoggle : (if (t.bcbToggleDetected env.now).2 then
    (t.bcbToggleDetected env.now).1.setState .prepareCharging
    else (t.bcbToggleDetected env.now).1) = u
  have hmoves : t.view.Moves u.view := by
    rw [← htoggle, ← view_bcbToggleDetected t env.now]
    split
    · exact moves_state
    · exact .refl _
  rcases view_followHlc u with h | h
  · rw [h]
    exact hmoves
  · rw [h]
    exact hmoves.trans (moves_state)

theorem view_pausedEvBasic : s.view.Moves (s.pausedEvBasic env init).view := by
  unfold pausedEvBasic
  simp only
  rw [← view_powerAvailable s env.now]
  split
  · exact view_pauseChargingWaitForPowerInternal _
  · split
    · rw [view_simpleEvent _ (by decide)]
      exact .refl _
    · split
      · rw [view_stopChargingOnFatalErrorInternal]
        exact .refl _
      · rw [view_updatePwmMaxEvery5secondsAmpere, view_stopChargingOnFatalErrorInternal]
        exact .refl _

theorem view_passChargingPausedEV : s.view.Moves (s.passChargingPausedEV env init).view := by
  unfold passChargingPausedEV
  refine of_ite s (view_checkSoftOverCurrent s env.now) fun t ht => ?_
  simp only
  rw [← ht]
  split
  · exact view_pausedEvHlc _ env init
  · exact view_pausedEvBasic _ env init

theorem view_passChargingPausedEVSE :
    (s.passChargingPausedEVSE init).view = s.view ∨
      (s.passChargingPausedEVSE init).view =
        { s.view with currentState := .stoppingCharging } := by
  unfold passChargingPausedEVSE
  simp only
  refine of_ite (c := init = true) s ?_ fun t ht => ?_
  · split
    · rw [view_dcSupplyOffIfDc, view_simpleEvent _ (by decide)]
    · rfl
  · rw [← ht]
    split
    · exact view_followHlc _
    · exact .inl rfl

/-- A BCB toggle restarts charging. -/
def restartsOnToggle (now : Int) (s : Charger) : Bool :=
  s.shared.hlcChargingActive && s.bcbSequenceComplete now && s.shared.transactionActive

theorem view_restartOnToggle :
    (s.restartOnToggle env).view =
      if s.restartsOnToggle env.now then { s.view with currentState := .prepareCharging }
      else s.view := by
  unfold restartOnToggle restartsOnToggle bcbToggleDetected
  cases hhlc : s.shared.hlcChargingActive with
  | false => rfl
  | true =>
    cases hbcb : s.bcbSequenceComplete env.now with
    | false => rfl
    | true =>
      cases hactive : s.shared.transactionActive with
      | false =>
        have h : ¬ (True ∧ s.shared.transactionActive = true) := by simp [hactive]
        simp only [if_true]
        rw [if_neg h]
        rfl
      | true =>
        have h : True ∧ s.shared.transactionActive = true := ⟨trivial, hactive⟩
        simp only [if_true]
        rw [if_pos h]
        rfl

theorem restartsOnToggle_initStoppingCharging (now : Int) :
    s.initStoppingCharging.restartsOnToggle now = false := by
  have hreset : s.initStoppingCharging.internal.hlcBcbSequenceStarted = false := by
    unfold initStoppingCharging dcSupplyOffIfDc
    simp only
    split
    all_goals
      split
      · split <;> rfl
      · rfl
  unfold restartsOnToggle bcbSequenceComplete
  rw [hreset]
  simp

theorem view_initStoppingCharging :
    s.initStoppingCharging.view =
      { s.view with currentState :=
          if s.view.hlcChargingActive then s.view.currentState else .finished } := by
  unfold initStoppingCharging
  simp only
  generalize hstop : (if s.bcbToggleReset.shared.transactionActive then
    s.bcbToggleReset.simpleEvent .stoppingCharging else s.bcbToggleReset) = t
  have hevent : t.view = s.view := by
    rw [← hstop]
    split <;> rfl
  have hhlc : t.shared.hlcChargingActive = s.view.hlcChargingActive :=
    congrArg hlcChargingActive hevent
  rw [hhlc]
  split
  · rw [view_dcSupplyOffIfDc, hevent]
  · rw [view_setState, view_pwmOff, hevent]

theorem view_passStoppingCharging :
    (s.passStoppingCharging env init).view =
      { s.view with currentState :=
          if init then if s.view.hlcChargingActive then s.view.currentState else .finished
          else if s.restartsOnToggle env.now then .prepareCharging
          else s.view.currentState } := by
  unfold passStoppingCharging
  rw [view_restartOnToggle]
  cases init with
  | false =>
    simp only [Bool.false_eq_true, if_false]
    split <;> rfl
  | true =>
    simp only [if_true]
    rw [restartsOnToggle_initStoppingCharging, view_initStoppingCharging]
    rfl

theorem view_passFinished :
    (s.passFinished env init).view =
      { s.view with
        session := if init then s.view.session.finish else s.view.session
        currentState := .idle } := by
  have htransaction : (if s.shared.transactionActive then s.stopTransaction env else s).view =
      { s.view with session :=
          if s.view.session.transactionActive then s.view.session.stopTransaction
          else s.view.session } := by
    have hactive : s.view.session.transactionActive = s.shared.transactionActive := rfl
    rw [hactive]
    split
    · exact view_stopTransaction s env
    · rfl
  cases init with
  | false => rfl
  | true =>
    unfold passFinished finishSession Session.finish
    simp only [if_true]
    rw [view_setState, view_dcSupplyOffIfDc]
    revert htransaction
    generalize (if s.shared.transactionActive then s.stopTransaction env else s) = t
    generalize (if s.view.session.transactionActive then s.view.session.stopTransaction
        else s.view.session) = x
    intro htransaction
    have hactive : t.shared.sessionActive = x.sessionActive :=
      congrArg (fun v => v.session.sessionActive) htransaction
    rw [hactive]
    split
    · rw [view_stopSession, htransaction]
    · rw [htransaction]

/-- What a pass leaves alone, depending on the state. -/
structure PassFrame (v w : View) : Prop where
  session : v.currentState ≠ .idle → v.currentState ≠ .waitingForAuthentication →
    v.currentState ≠ .finished → w.session = v.session
  powerWhileFatal : v.currentState ≠ .prepareCharging → w.powerWhileFatal = v.powerWhileFatal

theorem passFrame_of_moves {v w : View} (h : v.Moves w) : PassFrame v w := by
  refine ⟨fun _ _ _ => ?_, fun _ => ?_⟩
  · rw [h]
  · rw [h]

/-- Every pass keeps to this. -/
theorem passFrame_passState : PassFrame s.view (s.passState env init time).view := by
  have hsame : PassFrame s.view s.view := passFrame_of_moves (.refl _)
  unfold passState
  split
  · rw [view_passDisabled]
    exact hsame
  · rw [view_passReplug]
    exact hsame
  · rename_i hstate
    rw [view_passIdle]
    split
    · exact ⟨fun h => absurd hstate h, fun _ => rfl⟩
    · exact hsame
  · rename_i hstate
    obtain ⟨session, _, ⟨_, hview⟩ | ⟨_, _, hview⟩⟩ := view_passWaitingForAuthentication s env init
    · rw [hview]
      exact ⟨fun _ h => absurd hstate h, fun _ => rfl⟩
    · have hframe := passFrame_of_moves hview
      exact { hframe with session := fun _ h => absurd hstate h }
  · rcases view_passSwitchPhases s init time with hview | hview
    · rw [hview]
      exact hsame
    · rw [hview]
      exact passFrame_of_moves moves_state
  · rcases view_passTStepEF s env init time with hview | hview
    · rw [hview]
      exact hsame
    · rw [hview]
      exact passFrame_of_moves moves_state
  · rcases view_passTStepX1 s env init time with hview | hview
    · rw [hview]
      exact hsame
    · rw [hview]
      exact passFrame_of_moves moves_state
  · rename_i hstate
    obtain ⟨t, ht, hview⟩ := view_passPrepareCharging s env init time
    rw [view_closeForCableCheck, ht] at hview
    have hframe := passFrame_of_moves hview
    split at hframe
    · exact { hframe with powerWhileFatal := fun h => absurd hstate h }
    · exact hframe
  · obtain ⟨ons, hview⟩ := view_passCharging s env init
    exact { passFrame_of_moves hview with }
  · exact passFrame_of_moves (view_passChargingPausedEV s env init)
  · rcases view_passChargingPausedEVSE s init with hview | hview
    · rw [hview]
      exact hsame
    · rw [hview]
      exact passFrame_of_moves moves_state
  · rw [view_passWaitingForEnergy]
    exact hsame
  · rw [view_passStoppingCharging]
    exact passFrame_of_moves moves_state
  · rename_i hstate
    rw [view_passFinished]
    exact ⟨fun _ _ h => absurd hstate h, fun _ => rfl⟩

/-! ## CP events -/

/-- What an event does to the view: the state may change, and an open transaction may end. -/
structure EventEffect (v w : View) : Prop where
  eq : w = { v with
    session := w.session
    currentState := w.currentState
    iecAllowCloseContactor := w.iecAllowCloseContactor }
  state : w.currentState ∈ [v.currentState, .replug, .waitingForAuthentication, .finished,
      .stoppingCharging] ∨
    v.currentState ∈ [.prepareCharging, .charging, .chargingPausedEV]
  session : w.session = v.session ∨
    (v.session.transactionActive = true ∧ w.session = v.session.stopTransaction)

theorem eventEffect_of_view {t : Charger} (h : t.view = s.view) : EventEffect s.view t.view :=
  h ▸ ⟨rfl, .inl List.mem_cons_self, .inl rfl⟩

theorem eventEffect_processCpEventsState (event : CpEvent) :
    EventEffect s.view (s.processCpEventsState env event).view := by
  have hmoved : ∀ {state allow}, s.shared.currentState = state →
      state ∈ [EvseState.prepareCharging, .charging, .chargingPausedEV] →
      ∀ {state'}, EventEffect s.view
        { s.view with currentState := state', iecAllowCloseContactor := allow } :=
    fun hstate hmem => ⟨rfl, .inr ((show s.view.currentState = _ from hstate) ▸ hmem), .inl rfl⟩
  have hallow : ∀ allow, EventEffect s.view { s.view with iecAllowCloseContactor := allow } :=
    fun _ => ⟨rfl, .inl List.mem_cons_self, .inl rfl⟩
  unfold processCpEventsState
  split
  · exact ⟨rfl, .inl (by simp), .inl rfl⟩
  · exact hallow true
  · exact hallow false
  · exact hallow true
  · exact hallow false
  · exact hallow true
  · rename_i hstate
    exact hmoved hstate (by decide)
  · rename_i hstate
    rw [view_stopHlc]
    exact hmoved hstate (by decide)
  · rename_i hstate
    rw [view_stopHlc]
    exact hmoved hstate (by decide)
  · rename_i hstate
    simp only
    split
    · exact hmoved hstate (by decide)
    · split
      · exact hallow true
      · rw [view_bcbToggleDetectStartPulse]
        exact hallow true
  · split
    · exact eventEffect_of_view s (view_bcbToggleDetectStopPulse s env.now)
    · exact eventEffect_of_view s rfl
  · split
    · exact eventEffect_of_view s (view_bcbToggleDetectStartPulse s env.now)
    · exact eventEffect_of_view s rfl
  · split
    · exact eventEffect_of_view s (view_bcbToggleDetectStopPulse s env.now)
    · exact eventEffect_of_view s rfl
  · exact eventEffect_of_view s rfl

theorem eventEffect_processCpEventsIndependent (event : CpEvent) :
    EventEffect s.view (s.processCpEventsIndependent env event).view := by
  unfold processCpEventsIndependent
  split
  · exact ⟨rfl, .inl (by simp), .inl rfl⟩
  · exact ⟨rfl, .inl (by simp), .inl rfl⟩
  · exact ⟨rfl, .inl List.mem_cons_self, .inl rfl⟩
  · refine ⟨rfl, .inl ?_, .inl rfl⟩
    show (if s.shared.hlcChargingActive then EvseState.finished else .stoppingCharging) ∈ _
    split <;> simp
  · unfold contactorOpened
    simp only
    split
    · rename_i h
      rw [view_stopTransaction]
      exact ⟨rfl, .inl List.mem_cons_self, .inr ⟨h.1, rfl⟩⟩
    · exact eventEffect_of_view s rfl
  · exact eventEffect_of_view s rfl
  · exact eventEffect_of_view s rfl

/-- What is left of an operation besides the passes. -/
theorem eventEffect_micro {micro : Micro} (h : micro ≠ .pass) :
    EventEffect s.view (s.micro env micro).1.view := by
  cases micro with
  | pass => exact absurd rfl h
  | powerAvailable => exact eventEffect_of_view s (view_powerAvailable s env.now)
  | independent event => exact eventEffect_processCpEventsIndependent s env event
  | state event => exact eventEffect_processCpEventsState s env event

end Charger

end EverestCore.Charging
