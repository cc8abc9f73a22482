import EverestCore.Charging.CallEffects

/-!
# Sessions and transactions

The events told to the outside, the flags and the store are updated in different
places. `Session.Sync` says that they agree; as long as they do, the events are
well bracketed and the store holds the session of the open transaction.
-/

namespace EverestCore.Charging

open EverestCore.Lib Charger Session

/-- The events so far fit, and the store holds a session id exactly while a
transaction is open. -/
structure Session.WellBracketed (x : Session) : Prop where
  fits : x.phase ≠ .broken
  stored : x.storeActive = true → (x.storedSession ≠ "" ↔ x.phase = .transaction)

def phaseOf : Bool → Bool → Phase
  | true, _ => .transaction
  | false, true => .session
  | false, false => .noSession

/-- Events, flags and store agree. -/
structure Session.Sync (x : Session) : Prop where
  phase_eq : x.phase = phaseOf x.transactionActive x.sessionActive
  session_of_transaction : x.transactionActive = true → x.sessionActive = true
  session_of_authorized : x.authorized = true → x.sessionActive = true
  uuid : x.sessionActive = true → x.sessionUuid ≠ ""
  stored : x.storeActive = true → (x.storedSession ≠ "" ↔ x.transactionActive = true)

namespace Session

variable {x : Session}

variable (h : x.Sync)

include h

theorem Sync.wellBracketed : x.WellBracketed := by
  have hphase := h.phase_eq
  refine ⟨?_, fun hstore => ?_⟩
  · rw [hphase]
    cases x.transactionActive <;> cases x.sessionActive <;> decide
  · rw [h.stored hstore, hphase]
    cases x.transactionActive <;> cases x.sessionActive <;> decide

/-! ## Operations on the session -/

theorem sync_startSession (hnone : x.sessionActive = false) {id : String}
    (hid : id ≠ "") : (x.startSession id).Sync := by
  have htransaction : x.transactionActive = false := by
    cases ht : x.transactionActive with
    | false => rfl
    | true => exact absurd (h.session_of_transaction ht) (by simp [hnone])
  refine ⟨?_, ?_, nofun, fun _ => hid, h.stored⟩
  · simp [startSession, h.phase_eq, hnone, htransaction, phaseOf, Phase.startSession]
  · simp [startSession]

theorem sync_stopSession_iff (hsession : x.sessionActive = true) :
    x.stopSession.Sync ↔ x.transactionActive = false := by
  refine ⟨fun hstop => ?_, fun ht => ⟨?_, ?_, nofun, nofun, h.stored⟩⟩
  · cases ht : x.transactionActive with
    | false => rfl
    | true =>
      -- the session would end with its transaction open
      have hphase := hstop.phase_eq
      simp [stopSession, h.phase_eq, ht, phaseOf, Phase.finishSession] at hphase
  · simp [stopSession, h.phase_eq, hsession, ht, phaseOf, Phase.finishSession]
  · simp [stopSession, ht]

theorem sync_startTransaction_iff (hauth : x.authorized = true) :
    x.startTransaction.Sync ↔ x.transactionActive = false := by
  have hsession := h.session_of_authorized hauth
  have huuid := h.uuid hsession
  refine ⟨fun hstart => ?_, fun ht => ?_⟩
  · cases ht : x.transactionActive with
    | false => rfl
    | true =>
      have hphase := hstart.phase_eq
      unfold startTransaction beginTransaction storeSession at hphase
      split at hphase <;> simp [h.phase_eq, ht, phaseOf, Phase.startTransaction] at hphase
  · have hphase : x.phase.startTransaction = .transaction := by
      simp [h.phase_eq, hsession, ht, phaseOf, Phase.startTransaction]
    unfold startTransaction beginTransaction storeSession
    split
    · exact ⟨hphase, fun _ => hsession, fun _ => hsession, fun _ => huuid, fun _ => by simp [huuid]⟩
    · rename_i hstore
      exact ⟨hphase, fun _ => hsession, fun _ => hsession, fun _ => huuid,
        fun hs => absurd hs hstore⟩

theorem sync_beginTransaction_iff (hauth : x.authorized = true) :
    x.beginTransaction.Sync ↔ x.transactionActive = true := by
  have hsession := h.session_of_authorized hauth
  refine ⟨fun hbegin => ?_, fun ht => ?_⟩
  · cases ht : x.transactionActive with
    | true => rfl
    | false =>
      have hphase := hbegin.phase_eq
      simp [beginTransaction, h.phase_eq, ht, hsession, phaseOf] at hphase
  · have hsame : x.beginTransaction = x := by
      unfold beginTransaction
      rw [← ht]
    rw [hsame]
    exact h

theorem sync_stopTransaction (ht : x.transactionActive = true) : x.stopTransaction.Sync := by
  have hsession := h.session_of_transaction ht
  have hphase : x.phase.finishTransaction = phaseOf false x.sessionActive := by
    simp [h.phase_eq, ht, hsession, phaseOf, Phase.finishTransaction]
  unfold stopTransaction storeSession
  split
  · exact ⟨hphase, nofun, h.session_of_authorized, h.uuid, fun _ => by simp⟩
  · rename_i hstore
    exact ⟨hphase, nofun, h.session_of_authorized, h.uuid, fun hs => absurd hs hstore⟩

theorem Sync.unauthorized (pnc : Bool) :
    ({ x with authorized := false, authorizedPnc := pnc } : Session).Sync :=
  { h with session_of_authorized := nofun }

theorem sync_deauthorize_iff (state : EvseState) :
    (x.deauthorize state).Sync ↔ ¬ (x.transactionActive = true ∧ x.authorized = true ∧
      (state = .disabled ∨ state = .idle ∨ state = .waitingForAuthentication)) := by
  unfold deauthorize
  split
  · rename_i hstop
    rw [sync_stopSession_iff h hstop.1]
    simp [hstop.2.1, hstop.2.2]
  · rename_i hkeep
    refine ⟨fun _ hbad => ?_, fun _ => h⟩
    exact hkeep ⟨h.session_of_transaction hbad.1, hbad.2⟩

theorem sync_idle_iff (state : EvseState) :
    ({ x.deauthorize state with transactionActive := false } : Session).Sync ↔
      x.transactionActive = false := by
  refine ⟨fun hidle => ?_, fun ht => ?_⟩
  · cases ht : x.transactionActive with
    | false => rfl
    | true =>
      have hphase := hidle.phase_eq
      unfold deauthorize at hphase
      split at hphase <;>
        simp [stopSession, h.phase_eq, ht, h.session_of_transaction ht, phaseOf,
          Phase.finishSession] at hphase
  · have hkeep : ({ x.deauthorize state with transactionActive := false } : Session) =
        x.deauthorize state := by
      unfold deauthorize
      split
      · unfold stopSession
        rw [← ht]
      · rw [← ht]
    rw [hkeep, sync_deauthorize_iff h]
    simp [ht]

theorem sync_finish : x.finish.Sync := by
  have hrest : ∀ y : Session, y.Sync → y.transactionActive = false →
      (if y.sessionActive then y.stopSession else y).Sync := by
    intro y hy ht
    split
    · rename_i hsession
      exact (sync_stopSession_iff hy hsession).mpr ht
    · exact hy
  unfold finish
  split
  · rename_i ht
    refine hrest _ (sync_stopTransaction h ht) ?_
    unfold stopTransaction storeSession
    split <;> rfl
  · rename_i ht
    exact hrest x h ((Bool.not_eq_true _).mp ht)

theorem sync_authorize_iff {id : String} (hid : id ≠ "") (a pnc : Bool) :
    (x.authorize id a pnc).Sync ↔ (a = true ∨ x.transactionActive = false) := by
  unfold authorize
  cases a with
  | true =>
    simp only [if_true, true_or, iff_true]
    split
    · rename_i hsession
      exact { h with session_of_authorized := fun _ => hsession }
    · rename_i hsession
      have hstart := sync_startSession h ((Bool.not_eq_true _).mp hsession) hid
      exact { hstart with session_of_authorized := fun _ => rfl }
  | false =>
    simp only [Bool.false_eq_true, if_false, false_or]
    split
    · rename_i hsession
      exact sync_stopSession_iff h hsession
    · rename_i hsession
      refine ⟨fun _ => ?_, fun _ => h.unauthorized x.authorizedPnc⟩
      cases ht : x.transactionActive with
      | false => rfl
      | true => exact absurd (h.session_of_transaction ht) hsession

theorem sync_cleanup_iff : x.cleanup.Sync ↔ ¬ (x.storeActive = true ∧ x.storedSession ≠ "") := by
  unfold cleanup
  split
  · rename_i hstored
    have ht := (h.stored hstored.1).mp hstored.2
    refine ⟨fun hclean => ?_, fun hno => absurd hstored hno⟩
    exact absurd rfl (((hclean.stored hstored.1).mpr ht))
  · rename_i hnone
    exact ⟨fun _ => hnone, fun _ => h⟩

theorem sync_proceed_iff (hauth : x.authorized = true) (refused : Bool) :
    (x.proceed refused).Sync ↔ (x.authorizedPnc = true ∨ x.transactionActive = false →
      x.transactionActive = refused) := by
  unfold proceed
  split
  · rename_i hstart
    cases refused with
    | true =>
      simp only [if_true]
      rw [sync_beginTransaction_iff h hauth]
      simp [hstart.2]
    | false =>
      simp only [Bool.false_eq_true, if_false]
      rw [sync_startTransaction_iff h hauth]
      simp [hstart.2]
  · rename_i hkeep
    exact ⟨fun _ hstart => absurd ⟨hauth, hstart⟩ hkeep, fun _ => h⟩

end Session

/-! ## Steps that keep flags, events and store together -/

/-- A pass must not start a second transaction, nor enter `Idle` with one open, and
no meter may refuse to start the first. -/
def PassKeepsBrackets (env : Env) (init stuckOnCable : Bool) (v : View) : Prop :=
  (v.currentState = .waitingForAuthentication → v.session.authorized = true →
    stuckOnCable = false →
    v.session.authorizedPnc = true ∨ v.session.transactionActive = false →
    v.session.transactionActive = env.metersRefuse v.failOnPowermeterErrors) ∧
  (v.currentState = .idle → init = true → v.session.transactionActive = false)
deriving Decidable

/-- An open transaction must not lose its session, nor be cleaned up. -/
def callKeepsBrackets (v : View) : Op → Bool
  | .authorize a _ _ => a || !v.session.transactionActive
  | .deauthorize =>
    !(v.session.transactionActive && v.session.authorized &&
      (v.currentState == .disabled || v.currentState == .idle ||
        v.currentState == .waitingForAuthentication))
  | .cleanupTransactionsOnStartup =>
    !(v.session.storeActive && v.session.storedSession != "")
  | _ => true

/-- The step keeps them in agreement. -/
def KeepsBrackets (c : Config) : Label → Prop
  | .call _ op => c.todo = [] → callKeepsBrackets c.charger.view op = true
  | .run env => c.todo.head? = some .pass → c.charger.socTimerExpired = false →
      PassKeepsBrackets env c.charger.initializeState (c.charger.stuckOnCable env) c.charger.view
  | .switchThreePhases _ => True

instance (c : Config) : (label : Label) → Decidable (KeepsBrackets c label)
  | .call _ op => inferInstanceAs (Decidable (c.todo = [] → callKeepsBrackets _ op = true))
  | .run _ => inferInstanceAs (Decidable (_ → _ → PassKeepsBrackets _ _ _ _))
  | .switchThreePhases _ => .isTrue trivial

namespace Charger

variable {s : Charger} (env : Env)

theorem stuckOnCable_entered : (s.entered env).stuckOnCable env = s.stuckOnCable env := by
  have hcount : s.beginPass.countSocTimer.connectorType = s.connectorType ∧
      s.beginPass.countSocTimer.shared.maxCurrentCable = s.shared.maxCurrentCable := by
    unfold countSocTimer
    split <;> exact ⟨rfl, rfl⟩
  have hclean : ∀ t : Charger, t.cleanUpSwitchPhases.connectorType = t.connectorType ∧
      t.cleanUpSwitchPhases.shared.maxCurrentCable = t.shared.maxCurrentCable := by
    intro t
    unfold cleanUpSwitchPhases
    split <;> exact ⟨rfl, rfl⟩
  unfold entered
  refine stuckOnCable_congr env ((hclean _).1.trans ?_) ((hclean _).2.trans ?_)
  · split <;> exact hcount.1
  · split <;> exact hcount.2

variable (h : s.view.session.Sync)

include h

theorem sync_passWaitingForAuthentication_iff
    (hstate : s.view.currentState = .waitingForAuthentication) (init : Bool) :
    (s.passWaitingForAuthentication env init).view.session.Sync ↔
      PassKeepsBrackets env init (s.stuckOnCable env) s.view := by
  have hkeeps : PassKeepsBrackets env init (s.stuckOnCable env) s.view ↔
      (s.view.session.authorized = true → s.stuckOnCable env = false →
        s.view.session.authorizedPnc = true ∨ s.view.session.transactionActive = false →
        s.view.session.transactionActive = env.metersRefuse s.view.failOnPowermeterErrors) := by
    unfold PassKeepsBrackets
    rw [hstate]
    simp
  rw [hkeeps]
  obtain ⟨session, hsession, hview⟩ := view_passWaitingForAuthentication s env init
  rcases hsession with rfl | ⟨hnone, rfl⟩
  · rcases hview with ⟨hstop, hview⟩ | ⟨hauth, hcable, hview⟩
    · -- not authorized, or still without a cable
      rw [hview]
      refine ⟨fun _ hauth hcable => ?_, fun _ => h⟩
      rcases hstop with hstop | hstop
      · exact absurd (hstop.symm.trans hauth) (by decide)
      · exact absurd (hcable.symm.trans hstop) (by decide)
    · rw [hview]
      refine (sync_proceed_iff h hauth _).trans ?_
      exact ⟨fun hk _ _ => hk, fun hk => hk hauth hcable⟩
  · -- a new session is not authorized
    have hunauth : s.view.session.authorized = true → False := fun hauth =>
      absurd (hnone.symm.trans (h.session_of_authorized hauth)) (by decide)
    rcases hview with ⟨_, hview⟩ | ⟨hauth, _⟩
    · rw [hview]
      exact ⟨fun _ hauth => (hunauth hauth).elim,
        fun _ => sync_startSession h hnone env.sessionId.2⟩
    · cases hauth

theorem sync_passState_iff (init : Bool) (time : Int) :
    (s.passState env init time).view.session.Sync ↔
      PassKeepsBrackets env init (s.stuckOnCable env) s.view := by
  have hframe := passFrame_passState s env init time
  by_cases hidle : s.view.currentState = .idle
  · have hpass : s.passState env init time = s.passIdle init := by
      unfold passState
      rw [show s.shared.currentState = .idle from hidle]
    rw [hpass, view_passIdle]
    unfold PassKeepsBrackets
    rw [hidle]
    cases init with
    | false => simp [h]
    | true =>
      simp only [if_true]
      rw [sync_idle_iff h]
      simp
  by_cases hwait : s.view.currentState = .waitingForAuthentication
  · have hpass : s.passState env init time = s.passWaitingForAuthentication env init := by
      unfold passState
      rw [show s.shared.currentState = .waitingForAuthentication from hwait]
    rw [hpass]
    exact sync_passWaitingForAuthentication_iff env h hwait init
  refine iff_of_true ?_ ⟨fun hs => absurd hs hwait, fun hs => absurd hs hidle⟩
  by_cases hfinished : s.view.currentState = .finished
  · -- the end of the charging process closes both brackets
    have hpass : s.passState env init time = s.passFinished env init := by
      unfold passState
      rw [show s.shared.currentState = .finished from hfinished]
    rw [hpass, view_passFinished]
    show (if init then s.view.session.finish else s.view.session).Sync
    split
    · exact sync_finish h
    · exact h
  · rw [hframe.session hidle hwait hfinished]
    exact h

theorem sync_pass_iff :
    (s.pass env).1.view.session.Sync ↔ (s.socTimerExpired = false →
      PassKeepsBrackets env s.initializeState (s.stuckOnCable env) s.view) := by
  by_cases hexpired : s.socTimerExpired = true
  · rw [view_pass_of_expired s env hexpired]
    exact ⟨fun _ hf => absurd (hf.symm.trans hexpired) (by decide), fun _ => h⟩
  · obtain ⟨time, hpass⟩ := pass_eq s env hexpired
    have hview := view_entered s env
    have hiff := sync_passState_iff env (s := s.entered env) (by rw [hview]; exact h)
      s.initializeState time
    rw [hview, stuckOnCable_entered] at hiff
    rw [hpass, hiff]
    exact ⟨fun hk _ => hk, fun hk => hk ((Bool.not_eq_true _).mp hexpired)⟩

/-! ## Operations -/

theorem sync_call_iff (op : Op) :
    (s.call env op).1.view.session.Sync ↔ callKeepsBrackets s.view op = true := by
  cases op with
  | authorize a token tariffMessages =>
    show (s.authorize env a token tariffMessages).view.session.Sync ↔ _
    rw [view_authorize, callKeepsBrackets]
    refine (sync_authorize_iff h env.sessionId.2 a _).trans ?_
    simp
  | deauthorize =>
    show s.deauthorizeInternal.1.view.session.Sync ↔ _
    rw [view_deauthorizeInternal, callKeepsBrackets]
    refine (sync_deauthorize_iff h _).trans ?_
    cases s.view.session.transactionActive <;> cases s.view.session.authorized <;> simp [and_assoc]
  | cleanupTransactionsOnStartup =>
    show (s.cleanupTransactionsOnStartup env).view.session.Sync ↔ _
    rw [view_cleanupTransactionsOnStartup, callKeepsBrackets]
    refine (sync_cleanup_iff h).trans ?_
    cases s.view.session.storeActive <;> simp
  | cancelTransaction request =>
    -- the transaction ends here, or goes on unauthorized
    show (s.cancelTransaction env request).1.view.session.Sync ↔ _
    rw [view_cancelTransaction]
    refine ⟨fun _ => rfl, fun _ => ?_⟩
    split
    · rename_i ht
      unfold cancel
      split
      · exact sync_stopTransaction (h.unauthorized false) ht
      · exact h.unauthorized false
    · exact h
  | _ =>
    rw [(callFrame_call s env _).session rfl]
    exact ⟨fun _ => rfl, fun _ => h⟩

end Charger

/-! ## Runs -/

open Charger in
/-- One step. -/
theorem sync_step_iff (c : Config) (label : Label) (h : c.charger.view.session.Sync) :
    (step c label).charger.view.session.Sync ↔ KeepsBrackets c label := by
  cases label with
  | call env op =>
    unfold step KeepsBrackets
    simp only
    split
    · rename_i htodo
      rw [sync_call_iff env h op]
      exact ⟨fun hk _ => hk, fun hk => hk htodo⟩
    · rename_i htodo
      exact ⟨fun _ ht => absurd ht htodo, fun _ => h⟩
  | switchThreePhases n =>
    refine ⟨fun _ => trivial, fun _ => ?_⟩
    show (c.charger.call {} (.switchThreePhasesWhileCharging n)).1.view.session.Sync
    rw [(callFrame_call c.charger {} (.switchThreePhasesWhileCharging n)).session rfl]
    exact h
  | run env =>
    unfold KeepsBrackets
    rcases htodo : c.todo with _ | ⟨micro, rest⟩
    · simp [step, htodo, h]
    · simp only [step, htodo, List.head?_cons, Option.some.injEq]
      by_cases hmicro : micro = .pass
      · subst hmicro
        exact (sync_pass_iff env h).trans ⟨fun hk _ => hk, fun hk => hk rfl⟩
      · refine ⟨fun _ hpass => absurd hpass hmicro, fun _ => ?_⟩
        show (c.charger.micro env micro).1.view.session.Sync
        rcases (eventEffect_micro c.charger env hmicro).session with hsession | ⟨ht, hsession⟩
        · rw [hsession]
          exact h
        · rw [hsession]
          exact sync_stopTransaction h ht

/-- **Sessions and transactions.** In every run of a new charger whose steps all
keep the brackets, the events are well bracketed in every state and the store
holds a session id exactly while a transaction is open. -/
theorem session_events_well_bracketed (env : Env) (storeActive : Bool)
    (connectorType : ConnectorType) (evseId : String) (labels : List Label)
    (h : Along step KeepsBrackets
      { charger := create env storeActive connectorType evseId } labels) :
    Always step (fun c => c.charger.view.session.WellBracketed)
      { charger := create env storeActive connectorType evseId } labels := by
  have hcreate : (create env storeActive connectorType evseId).view.session.Sync :=
    ⟨rfl, nofun, nofun, nofun, fun _ => by simp [create, view, session]⟩
  exact always_of_along (I := fun c => c.charger.view.session.Sync)
    (fun c label hc hk => (sync_step_iff c label hc).mpr hk)
    (fun _ hc => hc.wellBracketed) hcreate h

/-- It charges once and ends without a session; its events are well bracketed. -/
theorem plain_session_well_bracketed :
    powerOns (run step { charger := create {} true .iec62196Type2Cable "DE*1" }
        (chargingAc ++ cpEvent .carUnplugged 5)).charger.log = 1 ∧
      phase (run step { charger := create {} true .iec62196Type2Cable "DE*1" }
        (chargingAc ++ cpEvent .carUnplugged 5)).charger.log = .noSession ∧
      Always step (fun c => c.charger.view.session.WellBracketed)
        { charger := create {} true .iec62196Type2Cable "DE*1" }
        (chargingAc ++ cpEvent .carUnplugged 5) :=
  ⟨by decide +kernel, by decide +kernel,
    session_events_well_bracketed {} true .iec62196Type2Cable "DE*1"
      (chargingAc ++ cpEvent .carUnplugged 5) (by decide +kernel)⟩

/-- A plug and charge session on DC whose link fails after the transaction started,
and that is restarted through X1 and E/F. -/
def restartedPlugAndCharge : List Label :=
  let pnc : ProvidedIdToken := { authorizationType := .plugAndCharge }
  .call {} (.setup dcSetup) :: cpEvent .carPluggedIn 3 ++
    [.call {} (.authorize true pnc [])] ++ tick {} 2 ++
    [.call {} .dlinkError] ++ tick {} 1 ++ tick { systemNow := 3000 } 2 ++
    tick { systemNow := 7750 } 3

/-- The transaction is started a second time: EIM checks whether one is active,
plug and charge does not. -/
theorem restarted_plug_and_charge_starts_twice :
    ¬ Always step (fun c => c.charger.view.session.WellBracketed)
      { charger := create {} true .iec62196Type2Cable "DE*1" }
      restartedPlugAndCharge := by
  intro h
  have hrun : (run step { charger := create {} true .iec62196Type2Cable "DE*1" }
      restartedPlugAndCharge).charger.view.session.phase = .broken := by
    decide +kernel
  exact h.last.fits hrun

end EverestCore.Charging
