import EverestCore.Charging.CallEffects

/-!
# Cancelled transactions

`cancel_transaction` withdraws the authorization, but while the contactor is
closed the transaction stays active, and three paths back to charging only ask
for that flag: `resume_charging` with HLC, `resume_charging_power_available`, and
a BCB toggle in `StoppingCharging`.
-/

namespace EverestCore.Charging

open EverestCore.Lib

/-- Not authorized, and in a state from which only a resumption leads back to
charging: the states that return somewhere return elsewhere. -/
structure OffCharging (v : View) : Prop where
  unauthorized : v.session.authorized = false
  away : v.currentState ∉ [.prepareCharging, .charging, .chargingPausedEV]
  afterEF : v.currentState = .tStepEF ∨ v.currentState = .tStepX1 →
    v.tStepEFReturnState = .waitingForAuthentication
  afterX1 : v.currentState = .tStepX1 → v.tStepX1ReturnState = .tStepEF
  afterSwitch : v.currentState = .switchPhases →
    v.switchingPhasesReturnState = .waitingForEnergy

def plainStates : List EvseState :=
  [.disabled, .idle, .waitingForAuthentication, .waitingForEnergy, .chargingPausedEVSE,
    .stoppingCharging, .finished, .replug]

theorem OffCharging.of_plain {v : View} (state : EvseState)
    (hauth : v.session.authorized = false) (hstate : v.currentState = state)
    (hmem : state ∈ plainStates) : OffCharging v := by
  have hne : ∀ state, state ∉ plainStates → v.currentState ≠ state :=
    fun _ hno heq => hno (heq ▸ hstate ▸ hmem)
  refine ⟨hauth, fun hmem => ?_, fun h => ?_, fun h => ?_, fun h => ?_⟩
  · simp only [List.mem_cons, List.not_mem_nil, or_false] at hmem
    rcases hmem with h | h | h <;> exact hne _ (by decide) h
  · rcases h with h | h <;> exact absurd h (hne _ (by decide))
  · exact absurd h (hne _ (by decide))
  · exact absurd h (hne _ (by decide))

theorem OffCharging.elim {v : View} {state : EvseState} {p : Prop} (h : OffCharging v)
    (hstate : v.currentState = state)
    (hmem : state ∈ [.prepareCharging, .charging, .chargingPausedEV]) : p :=
  absurd (hstate ▸ hmem) h.away

/-- What else being off charging depends on, and the contactor commands. -/
def View.course (v : View) : List EvseState × Nat :=
  ([v.currentState, v.tStepEFReturnState, v.tStepX1ReturnState, v.switchingPhasesReturnState],
    v.powerOns)

/-- The contactor is not commanded on. -/
def StaysOff (v w : View) : Prop := OffCharging w ∧ w.powerOns = v.powerOns

theorem OffCharging.stays {v w : View} (h : OffCharging v) (hauth : w.session.authorized = false)
    (hcourse : w.course = v.course) : StaysOff v w := by
  unfold View.course at hcourse
  simp only [Prod.mk.injEq, List.cons.injEq, and_true] at hcourse
  obtain ⟨⟨hstate, hef, hx1, hswitch⟩, hons⟩ := hcourse
  refine ⟨⟨hauth, ?_, ?_, ?_, ?_⟩, hons⟩
  · rw [hstate]
    exact h.away
  · rw [hstate, hef]
    exact h.afterEF
  · rw [hstate, hx1]
    exact h.afterX1
  · rw [hstate, hswitch]
    exact h.afterSwitch

theorem OffCharging.stays_plain {v : View} (state : EvseState) (h : OffCharging v)
    (hmem : state ∈ plainStates) : StaysOff v { v with currentState := state } :=
  ⟨.of_plain state h.unauthorized rfl hmem, rfl⟩

/-! ## Sessions stay unauthorized -/

namespace Session

variable {x : Session}

theorem authorized_stopTransaction : x.stopTransaction.authorized = x.authorized := by
  unfold stopTransaction storeSession
  split <;> rfl

theorem unauthorized_deauthorize (h : x.authorized = false) (state : EvseState) :
    (x.deauthorize state).authorized = false := by
  unfold deauthorize
  split
  · rfl
  · exact h

theorem unauthorized_finish (h : x.authorized = false) : x.finish.authorized = false := by
  unfold finish
  simp only
  split
  · split
    · rfl
    · exact authorized_stopTransaction.trans h
  · split
    · rfl
    · exact h

theorem unauthorized_cancel (contactorOpen : Bool) :
    (x.cancel contactorOpen).authorized = false := by
  unfold cancel
  split
  · exact authorized_stopTransaction
  · rfl

theorem unauthorized_cleanup (h : x.authorized = false) : x.cleanup.authorized = false := by
  unfold cleanup
  split <;> exact h

end Session

/-! ## The three paths -/

def Op.authorizes : Op → Bool
  | .authorize a _ _ => a
  | _ => false

/-- A BCB toggle is taken as a restart: not on the pass that enters the state. -/
def Charger.passResumes (env : Env) (s : Charger) : Bool :=
  !s.socTimerExpired && s.shared.currentState == .stoppingCharging && !s.initializeState &&
    s.restartsOnToggle env.now

def Charger.callResumes (env : Env) (s : Charger) : Op → Bool
  | .resumeCharging =>
    s.shared.transactionActive && s.shared.currentState == .chargingPausedEVSE &&
      s.shared.hlcChargingActive
  | .resumeChargingPowerAvailable => s.resumesOnPower env
  | _ => false

/-- The step takes one of the three paths back. -/
def Resumes (c : Config) : Label → Prop
  | .call env op => c.todo = [] ∧ c.charger.callResumes env op = true
  | .run env => c.todo.head? = some .pass ∧ c.charger.passResumes env = true
  | .switchThreePhases _ => False

instance (c : Config) : (label : Label) → Decidable (Resumes c label)
  | .call env op => inferInstanceAs (Decidable (_ ∧ c.charger.callResumes env op = true))
  | .run env => inferInstanceAs (Decidable (_ ∧ c.charger.passResumes env = true))
  | .switchThreePhases _ => inferInstanceAs (Decidable False)

namespace Charger

variable {s : Charger} (env : Env)

theorem restartsOnToggle_entered (now : Int) :
    (s.entered env).restartsOnToggle now = s.restartsOnToggle now := by
  have hcount : s.beginPass.countSocTimer.restartsOnToggle now = s.restartsOnToggle now := by
    unfold countSocTimer
    split <;> rfl
  have hclean : ∀ t : Charger, t.cleanUpSwitchPhases.restartsOnToggle now =
      t.restartsOnToggle now := by
    intro t
    unfold cleanUpSwitchPhases
    split <;> rfl
  unfold entered
  rw [hclean]
  split <;> exact hcount

theorem staysOff_passState (h : OffCharging s.view) (init : Bool) (time : Int)
    (hresume : ¬ (s.view.currentState = .stoppingCharging ∧ init = false ∧
      s.restartsOnToggle env.now = true)) :
    StaysOff s.view (s.passState env init time).view := by
  have hsame : StaysOff s.view s.view := ⟨h, rfl⟩
  unfold passState
  split
  · rw [view_passDisabled]
    exact hsame
  · rw [view_passReplug]
    exact hsame
  · rename_i hstate
    rw [view_passIdle]
    split
    · exact ⟨.of_plain _ (Session.unauthorized_deauthorize h.unauthorized _) hstate
        (by decide), rfl⟩
    · exact hsame
  · -- only an authorized session goes on
    obtain ⟨session, hsession, hview⟩ := view_passWaitingForAuthentication s env init
    have hauth : session.authorized = false := by
      rcases hsession with rfl | ⟨_, rfl⟩
      · exact h.unauthorized
      · rfl
    rcases hview with ⟨_, hview⟩ | ⟨hyes, _⟩
    · rw [hview]
      exact h.stays hauth rfl
    · exact absurd (hauth.symm.trans hyes) (by decide)
  · rename_i hstate
    rcases view_passSwitchPhases s init time with hview | hview
    · rw [hview]
      exact hsame
    · rw [hview]
      exact ⟨.of_plain _ h.unauthorized (h.afterSwitch hstate) (by decide), rfl⟩
  · rename_i hstate
    rcases view_passTStepEF s env init time with hview | hview
    · rw [hview]
      exact hsame
    · rw [hview]
      exact ⟨.of_plain _ h.unauthorized (h.afterEF (.inl hstate)) (by decide), rfl⟩
  · rename_i hstate
    rcases view_passTStepX1 s env init time with hview | hview
    · rw [hview]
      exact hsame
    · -- X1 is followed by E/F, which returns to waiting for authentication
      rw [hview, h.afterX1 hstate]
      exact ⟨⟨h.unauthorized, (by decide : EvseState.tStepEF ∉ _),
        fun _ => h.afterEF (.inr hstate), nofun, nofun⟩, rfl⟩
  · rename_i hstate
    exact h.elim hstate (by decide)
  · rename_i hstate
    exact h.elim hstate (by decide)
  · rename_i hstate
    exact h.elim hstate (by decide)
  · rcases view_passChargingPausedEVSE s init with hview | hview
    · rw [hview]
      exact hsame
    · rw [hview]
      exact h.stays_plain .stoppingCharging (by decide)
  · rw [view_passWaitingForEnergy]
    exact hsame
  · rename_i hstate
    rw [view_passStoppingCharging]
    refine ⟨.of_plain _ h.unauthorized rfl ?_, rfl⟩
    have hstop : s.view.currentState = .stoppingCharging := hstate
    rw [hstop]
    cases init with
    | true =>
      simp only [if_true]
      split <;> decide
    | false =>
      simp only [Bool.false_eq_true, if_false]
      rw [if_neg fun hr => hresume ⟨hstop, rfl, hr⟩]
      decide
  · rw [view_passFinished]
    refine ⟨.of_plain .idle ?_ rfl (by decide), rfl⟩
    show (if init then s.view.session.finish else s.view.session).authorized = false
    split
    · exact Session.unauthorized_finish h.unauthorized
    · exact h.unauthorized

/-- A pass stays off charging unless a toggle restarts it. -/
theorem staysOff_pass (h : OffCharging s.view) (hresume : ¬ s.passResumes env = true) :
    StaysOff s.view (s.pass env).1.view := by
  by_cases hexpired : s.socTimerExpired = true
  · rw [view_pass_of_expired s env hexpired]
    exact ⟨h, rfl⟩
  · obtain ⟨time, hpass⟩ := pass_eq s env hexpired
    have hview := view_entered s env
    have hoff : StaysOff s.view (s.entered env).view := by
      rw [hview]
      exact h.stays h.unauthorized rfl
    have hstays := staysOff_passState env hoff.1
      s.initializeState time (by
        rw [hview, restartsOnToggle_entered]
        rintro ⟨hstate, hinit, hr⟩
        refine hresume ?_
        rw [passResumes, (Bool.not_eq_true _).mp hexpired, hinit, hr,
          show s.shared.currentState = .stoppingCharging from hstate]
        rfl)
    rw [hview] at hstays
    rw [hpass]
    exact hstays

theorem currentState_pass_of_resumes (hresume : s.passResumes env = true) :
    (s.pass env).1.view.currentState = .prepareCharging := by
  unfold passResumes at hresume
  simp only [Bool.and_eq_true, Bool.not_eq_true', beq_iff_eq] at hresume
  obtain ⟨⟨⟨hexpired, hstate⟩, hinit⟩, hr⟩ := hresume
  obtain ⟨time, hpass⟩ := pass_eq s env (by rw [hexpired]; decide)
  have hview := view_entered s env
  have hstop : (s.entered env).shared.currentState = .stoppingCharging :=
    (congrArg View.currentState hview).trans hstate
  rw [hpass]
  unfold passState
  rw [hstop]
  rw [view_passStoppingCharging, hinit, restartsOnToggle_entered, hr]
  rfl

/-! ## Operations -/

theorem staysOff_switchThreePhases (h : OffCharging s.view) (n : Bool) :
    StaysOff s.view (s.switchThreePhasesWhileCharging n).1.view := by
  rw [view_switchThreePhasesWhileCharging]
  split
  · exact ⟨h, rfl⟩
  · unfold View.switchPhases
    split
    · rename_i hstate
      exact h.elim hstate (by decide)
    · exact ⟨⟨h.unauthorized, (by decide : EvseState.switchPhases ∉ _), nofun, nofun,
        fun _ => rfl⟩, rfl⟩
    · exact ⟨h, rfl⟩

/-- So does an operation that does not resume. -/
theorem staysOff_call (h : OffCharging s.view) (op : Op) (hop : op.authorizes = false)
    (hresume : ¬ s.callResumes env op = true) : StaysOff s.view (s.call env op).1.view := by
  have hsame : StaysOff s.view s.view := ⟨h, rfl⟩
  cases op with
  | authorize a token tariffMessages =>
    -- only `authorize(false)` is left
    have ha : a = false := hop
    subst ha
    rw [call, view_authorize]
    exact h.stays rfl rfl
  | deauthorize =>
    rw [call, view_deauthorizeInternal]
    exact h.stays (Session.unauthorized_deauthorize h.unauthorized _) rfl
  | cleanupTransactionsOnStartup =>
    rw [call, view_cleanupTransactionsOnStartup]
    exact h.stays (Session.unauthorized_cleanup h.unauthorized) rfl
  | cancelTransaction request =>
    rw [call, view_cancelTransaction]
    split
    · refine ⟨.of_plain (if s.view.hlcChargingActive then .stoppingCharging
        else .chargingPausedEVSE) (Session.unauthorized_cancel _) rfl ?_, rfl⟩
      split <;> decide
    · exact hsame
  | setMaxCurrent | enableDisableInitialStatePublish | stopChargingOnFatalError =>
    simp only [call, view_setMaxCurrent, view_enableDisableInitialStatePublish,
      view_stopChargingOnFatalErrorInternal]
    exact hsame
  | enableDisable connectorId source =>
    obtain ⟨state, hview, hmem⟩ := view_enableDisable s connectorId source
    rw [call, hview]
    simp only [List.mem_cons, List.not_mem_nil, or_false] at hmem
    rcases hmem with rfl | rfl | rfl
    · exact hsame
    · exact h.stays_plain .idle (by decide)
    · exact h.stays_plain .disabled (by decide)
  | switchThreePhasesWhileCharging n => exact staysOff_switchThreePhases h n
  | pauseCharging =>
    rcases view_pauseCharging s with hview | ⟨hstate, _⟩
    · rw [call, hview]
      exact hsame
    · exact h.elim hstate (by decide)
  | pauseChargingWaitForPower =>
    have hview : s.pauseChargingWaitForPowerInternal.1.view = s.view := by
      unfold pauseChargingWaitForPowerInternal
      split
      · rename_i hstate
        rcases hstate with hstate | hstate <;> exact h.elim hstate (by decide)
      · rfl
    rw [call, hview]
    exact hsame
  | resumeCharging =>
    rw [call, view_resumeCharging]
    split
    · rename_i hpaused
      -- basic charging waits for energy first
      have hhlc : ¬ s.view.hlcChargingActive = true := by
        intro hhlc
        refine hresume ?_
        rw [callResumes, show s.shared.transactionActive = true from hpaused.1,
          show s.shared.currentState = .chargingPausedEVSE from hpaused.2,
          show s.shared.hlcChargingActive = true from hhlc]
        rfl
      rw [if_neg hhlc]
      exact h.stays_plain .waitingForEnergy (by decide)
    · exact hsame
  | resumeChargingPowerAvailable =>
    rw [call, view_resumeChargingPowerAvailable, if_neg (c := s.resumesOnPower env = true) hresume]
    exact hsame
  | requestErrorSequence =>
    rw [call, view_requestErrorSequence]
    split
    · rename_i hstate
      rcases hstate with hstate | hstate
      · exact ⟨⟨h.unauthorized, (by decide : EvseState.tStepEF ∉ _), fun _ => hstate,
          (fun h => by cases h), fun h => by cases h⟩, rfl⟩
      · exact h.elim hstate (by decide)
    · exact hsame
  | notifyCurrentdemandStarted =>
    rcases view_notifyCurrentdemandStarted s with hview | ⟨hstate, _⟩
    · rw [call, hview]
      exact hsame
    · exact h.elim hstate (by decide)
  | dlinkError =>
    rcases view_dlinkError s with hview | hview
    · rw [call, hview]
      exact h.stays h.unauthorized rfl
    · rw [call, hview]
      exact ⟨⟨h.unauthorized, (by decide : EvseState.tStepX1 ∉ _), fun _ => rfl, fun _ => rfl,
        fun h => by cases h⟩, rfl⟩
  | _ => exact h.stays h.unauthorized rfl

theorem currentState_call_of_resumes (op : Op) (hresume : s.callResumes env op = true) :
    (s.call env op).1.view.currentState = .prepareCharging := by
  cases op with
  | resumeCharging =>
    simp only [callResumes, Bool.and_eq_true, beq_iff_eq] at hresume
    obtain ⟨⟨htransaction, hstate⟩, hhlc⟩ := hresume
    rw [call, view_resumeCharging, if_pos ⟨htransaction, hstate⟩]
    exact if_pos hhlc
  | resumeChargingPowerAvailable =>
    rw [call, view_resumeChargingPowerAvailable, if_pos (c := s.resumesOnPower env = true) hresume]
  | _ => cases hresume

end Charger

/-! ## Runs -/

def Label.authorizes : Label → Bool
  | .call _ op => op.authorizes
  | _ => false

/-- What follows a cancellation before the next authorization. -/
abbrev LaterLabel : Type := { label : Label // label.authorizes = false }

def stepLater (c : Config) (label : LaterLabel) : Config := step c label.1

open Charger in
/-- One step. -/
theorem staysOff_step (c : Config) (label : LaterLabel) (h : OffCharging c.charger.view)
    (hresume : ¬ Resumes c label.1) :
    StaysOff c.charger.view (stepLater c label).charger.view := by
  obtain ⟨label, hlabel⟩ := label
  have hsame : StaysOff c.charger.view c.charger.view := ⟨h, rfl⟩
  cases label with
  | call env op =>
    unfold stepLater step
    simp only
    split
    · rename_i htodo
      exact staysOff_call env h op hlabel fun hr => hresume ⟨htodo, hr⟩
    · exact hsame
  | switchThreePhases n => exact staysOff_switchThreePhases h n
  | run env =>
    unfold stepLater step
    simp only
    split
    · exact hsame
    · rename_i micro rest htodo
      by_cases hmicro : micro = .pass
      · subst hmicro
        refine staysOff_pass env h fun hr => hresume ⟨?_, hr⟩
        rw [htodo]
        rfl
      · have heffect := eventEffect_micro c.charger env hmicro
        show StaysOff _ (c.charger.micro env micro).1.view
        have hauth : (c.charger.micro env micro).1.view.session.authorized = false := by
          rcases heffect.session with hsession | ⟨_, hsession⟩
          · rw [hsession]
            exact h.unauthorized
          · rw [hsession]
            exact Session.authorized_stopTransaction.trans h.unauthorized
        rcases heffect.state with hmem | hmem
        · rcases List.mem_cons.mp hmem with hsame | hmem
          · refine h.stays hauth ?_
            rw [heffect.eq, hsame]
            rfl
          · refine ⟨.of_plain _ hauth rfl ?_, ?_⟩
            · revert hmem
              generalize (c.charger.micro env micro).1.view.currentState = state
              cases state <;> decide
            · rw [heffect.eq]
        · exact absurd hmem h.away

open Charger in
theorem currentState_step_of_resumes (c : Config) (label : LaterLabel)
    (hresume : Resumes c label.1) :
    (stepLater c label).charger.view.currentState = .prepareCharging := by
  obtain ⟨label, hlabel⟩ := label
  cases label with
  | call env op =>
    unfold stepLater step
    simp only
    rw [if_pos hresume.1]
    exact currentState_call_of_resumes env op hresume.2
  | switchThreePhases n => exact hresume.elim
  | run env =>
    obtain ⟨hhead, hpass⟩ := hresume
    unfold stepLater step
    rcases htodo : c.todo with _ | ⟨micro, rest⟩
    · rw [htodo] at hhead
      cases hhead
    · rw [htodo] at hhead
      obtain rfl : micro = .pass := Option.some.inj hhead
      exact currentState_pass_of_resumes env hpass

/-- A cancelled charger that has neither gone back to charging nor closed the
contactor since. -/
def NotResumed (ons : Nat) (c : Config) : Prop :=
  c.charger.shared.currentState ≠ .prepareCharging ∧
    c.charger.shared.currentState ≠ .charging ∧ powerOns c.charger.log = ons

/-- **Cancelled transactions.** After `cancel_transaction` returned true and until
the next authorization, the charger stays out of `PrepareCharging` and `Charging`
and does not close the contactor exactly if no step takes one of the three paths
that look at the transaction only. -/
theorem cancelled_stays_cancelled_iff (env : Env) (request : StopTransactionRequest)
    (c : Config) (hfree : c.todo = [])
    (hcancel : (c.charger.cancelTransaction env request).2 = true) (labels : List LaterLabel) :
    Always stepLater (NotResumed (powerOns c.charger.log))
        (step c (.call env (.cancelTransaction request))) labels ↔
      Along stepLater (fun d label => ¬ Resumes d label.1)
        (step c (.call env (.cancelTransaction request))) labels := by
  have hactive : c.charger.shared.transactionActive = true := by
    unfold Charger.cancelTransaction at hcancel
    split at hcancel
    · rename_i ht
      exact ht
    · cases hcancel
  have hview : (step c (.call env (.cancelTransaction request))).charger.view =
      { c.charger.view with
        session := c.charger.view.session.cancel c.charger.shared.contactorOpen
        currentState := if c.charger.view.hlcChargingActive then .stoppingCharging
          else .chargingPausedEVSE } := by
    unfold step
    simp only
    rw [if_pos hfree]
    exact (Charger.view_cancelTransaction c.charger env request).trans (if_pos hactive)
  generalize step c (.call env (.cancelTransaction request)) = d at hview ⊢
  have hoff : OffCharging d.charger.view := by
    rw [hview]
    refine .of_plain (if c.charger.view.hlcChargingActive then .stoppingCharging
      else .chargingPausedEVSE) (Session.unauthorized_cancel _) rfl ?_
    split <;> decide
  have hnot : ∀ e : Config, OffCharging e.charger.view →
      e.charger.view.powerOns = c.charger.view.powerOns →
      NotResumed (powerOns c.charger.log) e :=
    fun e he hons => ⟨fun hs => he.elim hs (by decide), fun hs => he.elim hs (by decide), hons⟩
  refine always_iff_along (I := fun e => OffCharging e.charger.view)
    (fun e label he _ hr => (staysOff_step e label he hr).1) ?_ labels hoff
    (hnot d hoff (by rw [hview]))
  intro e label he hkept
  refine ⟨fun hlater hr => hlater.1 (currentState_step_of_resumes e label hr), fun hr => ?_⟩
  obtain ⟨hstays, hons⟩ := staysOff_step e label he hr
  exact hnot _ hstays (hons.trans hkept.2.2)

def acCharger : Config :=
  run step { charger := Charger.create {} true .iec62196Type2Cable "DE*1" } chargingAc

def resumption : List LaterLabel :=
  [⟨.call {} .resumeCharging, rfl⟩, ⟨.call {} .resumeChargingPowerAvailable, rfl⟩,
    ⟨.call {} .mainLoop, rfl⟩, ⟨.run {}, rfl⟩, ⟨.run {}, rfl⟩, ⟨.run {}, rfl⟩]

def contactorOpens : List LaterLabel :=
  [⟨.call {} (.processEvent .powerOff), rfl⟩, ⟨.run {}, rfl⟩, ⟨.run {}, rfl⟩, ⟨.run {}, rfl⟩,
    ⟨.run {}, rfl⟩, ⟨.run {}, rfl⟩]

/-- Cancelled while charging; the contactor opens before anybody asks to resume. -/
theorem cancelled_then_opened_stays_cancelled :
    (acCharger.charger.cancelTransaction {} { reason := .remote }).2 = true ∧
      Always stepLater (NotResumed (powerOns acCharger.charger.log))
        (step acCharger (.call {} (.cancelTransaction { reason := .remote })))
        (contactorOpens ++ resumption) :=
  have hcancel : (acCharger.charger.cancelTransaction {} { reason := .remote }).2 = true := by
    decide +kernel
  ⟨hcancel, (cancelled_stays_cancelled_iff {} { reason := .remote } acCharger
    (by decide +kernel) hcancel (contactorOpens ++ resumption)).mpr (by decide +kernel)⟩

/-- Cancelled while charging; the commands to resume come before the contactor
opens, and the charger charges again without an authorization. -/
theorem cancelled_is_resumed_by_command :
    acCharger.todo = [] ∧
      (acCharger.charger.cancelTransaction {} { reason := .remote }).2 = true ∧
      ¬ Always stepLater (NotResumed (powerOns acCharger.charger.log))
        (step acCharger (.call {} (.cancelTransaction { reason := .remote }))) resumption := by
  refine ⟨by decide +kernel, by decide +kernel, fun h => ?_⟩
  have hrun : (run stepLater (step acCharger (.call {} (.cancelTransaction { reason := .remote })))
      resumption).charger.shared.currentState = .charging := by
    decide +kernel
  exact h.last.2.1 hrun

end EverestCore.Charging
