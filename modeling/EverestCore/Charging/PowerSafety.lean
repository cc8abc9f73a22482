import EverestCore.Charging.CallEffects

/-!
# Power and fatal errors

`Charging` looks at the errors before it closes the contactor; `PrepareCharging`
in DC mode closes it for the cable check before it looks. So the contactor is
commanded on under an active shutdown exactly when a pass finds the charger
there, with both permissions given.
-/

namespace EverestCore.Charging

open EverestCore.Lib
open EverestCore.Evse (ShutdownType)

/-- A pass that closes the contactor for the cable check although a shutdown is
active. -/
def Charger.releasesUnderShutdown (s : Charger) : Bool :=
  !s.socTimerExpired && s.shared.currentState == .prepareCharging &&
    s.config.chargeMode == .dc && s.shared.hlcAllowCloseContactor &&
    s.shared.iecAllowCloseContactor && s.shared.shutdownType != .none

def ReleasesUnderShutdown (c : Config) : Label → Prop
  | .run _ => c.todo.head? = some .pass ∧ c.charger.releasesUnderShutdown = true
  | _ => False

instance (c : Config) : (label : Label) → Decidable (ReleasesUnderShutdown c label)
  | .run _ => inferInstanceAs (Decidable (_ ∧ _))
  | .call _ _ | .switchThreePhases _ => inferInstanceAs (Decidable False)

namespace Charger

variable (s : Charger) (env : Env)

theorem powerWhileFatal_passPrepareCharging (init : Bool) (time : Int) :
    (s.passPrepareCharging env init time).view.powerWhileFatal =
      (releasesForCableCheck s.view && s.view.shutdownType != .none ||
        s.view.powerWhileFatal) := by
  obtain ⟨t, ht, hview⟩ := view_passPrepareCharging s env init time
  rw [hview]
  show t.closeForCableCheck.view.powerWhileFatal = _
  rw [view_closeForCableCheck, ht]
  cases releasesForCableCheck s.view with
  | true => rfl
  | false => rfl

theorem powerWhileFatal_pass :
    (s.pass env).1.view.powerWhileFatal =
      (s.releasesUnderShutdown || s.view.powerWhileFatal) := by
  unfold releasesUnderShutdown
  by_cases hexpired : s.socTimerExpired = true
  · rw [view_pass_of_expired s env hexpired, hexpired]
    rfl
  · obtain ⟨time, hpass⟩ := pass_eq s env hexpired
    have hview := view_entered s env
    rw [hpass, (Bool.not_eq_true _).mp hexpired]
    by_cases hstate : s.view.currentState = .prepareCharging
    · -- the cable check comes first
      have hprepare : (s.entered env).passState env s.initializeState time =
          (s.entered env).passPrepareCharging env s.initializeState time := by
        have hentered : (s.entered env).shared.currentState = .prepareCharging :=
          (congrArg View.currentState hview).trans hstate
        unfold passState
        rw [hentered]
      rw [hprepare, powerWhileFatal_passPrepareCharging, hview,
        show s.shared.currentState = .prepareCharging from hstate]
      simp [releasesForCableCheck, view]
    · rw [(passFrame_passState _ env _ _).powerWhileFatal (by rw [hview]; exact hstate), hview,
        beq_eq_false_iff_ne.mpr (show s.shared.currentState ≠ .prepareCharging from hstate)]
      simp

end Charger

/-! ## Runs -/

open Charger in
/-- Only such a step commands power under a shutdown. -/
theorem powerWhileFatal_step (c : Config) (label : Label) :
    powerWhileFatal (step c label).charger.log = true ↔
      ReleasesUnderShutdown c label ∨ powerWhileFatal c.charger.log = true := by
  cases label with
  | call env op =>
    have hop := (callFrame_call c.charger env op).powerWhileFatal
    unfold step ReleasesUnderShutdown
    simp only [false_or]
    split
    · exact iff_of_eq (congrArg (· = true) hop)
    · exact Iff.rfl
  | switchThreePhases n =>
    have hop := (callFrame_call c.charger {} (.switchThreePhasesWhileCharging n)).powerWhileFatal
    unfold ReleasesUnderShutdown
    simp only [false_or]
    exact iff_of_eq (congrArg (· = true) hop)
  | run env =>
    unfold ReleasesUnderShutdown
    rcases htodo : c.todo with _ | ⟨micro, rest⟩
    · simp [step, htodo]
    · simp only [step, htodo, List.head?_cons, Option.some.injEq]
      by_cases hmicro : micro = .pass
      · subst hmicro
        have hpass := powerWhileFatal_pass c.charger env
        simp only [true_and]
        rw [← Bool.or_eq_true]
        exact iff_of_eq (congrArg (· = true) hpass)
      · have hview := congrArg View.powerWhileFatal (eventEffect_micro c.charger env hmicro).eq
        simp only [hmicro, false_and, false_or]
        exact iff_of_eq (congrArg (· = true) hview)

/-- **Power and fatal errors.** Along a run of a new charger the contactor is never
commanded on while a shutdown is active exactly if no pass finds `PrepareCharging`
in DC mode with both permissions given and a shutdown active. -/
theorem no_power_while_fatal_iff (env : Env) (storeActive : Bool)
    (connectorType : ConnectorType) (evseId : String) (labels : List Label) :
    Always step (fun c => powerWhileFatal c.charger.log = false)
        { charger := Charger.create env storeActive connectorType evseId } labels ↔
      Along step (fun c label => ¬ ReleasesUnderShutdown c label)
        { charger := Charger.create env storeActive connectorType evseId } labels := by
  refine always_iff_along (I := fun _ => True) (fun _ _ _ _ _ => trivial) ?_ labels trivial rfl
  intro c label _ hsafe
  have hstep := powerWhileFatal_step c label
  rw [hsafe] at hstep
  rw [← Bool.not_eq_true, hstep]
  simp

/-- The calls of a DC session up to the cable check, with an error in between. -/
def cableCheckUnderError : List Label :=
  .call {} (.setup dcSetup) :: cpEvent .carPluggedIn 3 ++
    [.call {} (.authorize true {} [])] ++ cpEvent .carRequestedPower 4 ++
    [.call {} (.errorEvents [.forceErrorShutdown])] ++ tick {} 1 ++
    [.call {} (.setHlcAllowCloseContactor true)] ++ tick {} 1

/-- The error has been handled and the contactor commanded off; then HLC allows the
cable check, and the next tick of the main loop commands it on. -/
theorem cable_check_closes_under_error :
    ¬ Always step (fun c => powerWhileFatal c.charger.log = false)
      { charger := Charger.create {} true .iec62196Type2Cable "DE*1" } cableCheckUnderError := by
  intro h
  have hrun : powerWhileFatal (run step
      { charger := Charger.create {} true .iec62196Type2Cable "DE*1" }
      cableCheckUnderError).charger.log = true := by
    decide +kernel
  exact Bool.false_ne_true (h.last.symm.trans hrun)

end EverestCore.Charging
