import EverestCore.Evse.ShutdownType

/-!
# The all-clear

`processError` signals that all errors are cleared if it counts none. It raises or clears
`Inoperative` before it counts, and it does not count the over-voltage monitor.
-/

namespace EverestCore.Evse

variable (cfg : Config) (s : State)

/-- `processError` signals the all-clear. -/
def AllClearSignalled : Prop :=
  .allErrorCleared ∈ (processError cfg s).queue.drop s.queue.length
deriving Decidable

/-- No error is active on any interface in use. -/
def NoErrorActive : Prop := ∀ interface, cfg.present interface = true → s.active interface = []

/-- Errors are active on the over-voltage monitor and on no other interface. -/
structure OnlyMonitorErrors : Prop where
  present : cfg.present .overVoltageMonitor = true
  active : s.active .overVoltageMonitor ≠ []
  others : ∀ interface, interface ≠ .overVoltageMonitor → cfg.present interface = true →
    s.active interface = []

/-- Warnings of the over-voltage monitor are active, and besides them `Inoperative` at most. -/
structure OnlyMonitorWarnings : Prop where
  present : cfg.present .overVoltageMonitor = true
  active : s.active .overVoltageMonitor ≠ []
  warnings : ∀ e ∈ s.active .overVoltageMonitor, e.type = "over_voltage_monitor/VendorWarning"
  evse : ∀ e ∈ s.active .evse, e.type = inoperativeType ∧ e.subType = ""
  others : ∀ interface, interface ≠ .evse → interface ≠ .overVoltageMonitor →
    cfg.present interface = true → s.active interface = []

/-- The over-voltage monitor is not counted. -/
theorem errorCount_eq_zero_iff :
    errorCount cfg s = 0 ↔ ∀ interface, interface ≠ .overVoltageMonitor →
      cfg.present interface = true → s.active interface = [] := by
  rw [errorCount, List.sum_eq_zero_iff, List.forall_mem_map]
  constructor
  · intro h interface hne hpresent
    have hcounted : interface ∈ countedInterfaces := by
      cases interface <;> simp [countedInterfaces] at hne ⊢
    simpa [hpresent] using h interface hcounted
  · intro h interface hcounted
    have hne : interface ≠ .overVoltageMonitor := by
      rintro rfl
      simp [countedInterfaces] at hcounted
    split
    · next hpresent => simp [h interface hne hpresent]
    · rfl

/-- The signal is given if the errors that are counted are gone. -/
theorem signalled_iff : AllClearSignalled cfg s ↔ errorCount cfg (processError cfg s) = 0 := by
  have hcount : ∀ t : State, ∀ events, t.queue = s.queue ++ events → .allErrorCleared ∉ events →
      (.allErrorCleared ∈ (if errorCount cfg t = 0 then t.push .allErrorCleared else t).queue.drop
        s.queue.length ↔
      errorCount cfg (if errorCount cfg t = 0 then t.push .allErrorCleared else t) = 0) := by
    intro t events hqueue hevents
    split
    · next hzero => exact iff_of_true (by simp [State.push, hqueue]) hzero
    · next hne => exact iff_of_false (by simp [hqueue, hevents]) hne
  unfold AllClearSignalled processError
  cases errorsPreventCharging cfg s with
  | some fatal =>
    simp only
    unfold raiseInoperativeError
    split
    · exact hcount s [] (List.append_nil _).symm List.not_mem_nil
    · have hraise : (s.raiseError .evse (s.active .evse).length
          (inoperativeError cfg fatal)).queue = s.queue := by
        unfold State.raiseError
        split <;> rfl
      apply hcount _ [_] (congrArg (· ++ [_]) hraise)
      split <;> simp
  | none =>
    simp only
    unfold clearInoperativeError
    split
    · exact hcount _ [_] rfl (by simp)
    · exact hcount s [] (List.append_nil _).symm List.not_mem_nil

/-- Where nothing prevents charging, only `Inoperative` is cleared. -/
theorem active_processError (h : errorsPreventCharging cfg s = none) :
    (processError cfg s).active = (s.clearError .evse inoperativeType "").active := by
  have hclear : (clearInoperativeError s).active =
      (s.clearError .evse inoperativeType "").active := by
    unfold clearInoperativeError
    split
    · rfl
    · next hactive => rw [EvseError.clearError_of_not_active hactive]
  simp only [processError, h]
  split <;> exact hclear

variable {cfg s} in
theorem OnlyMonitorWarnings.errorsPreventCharging_eq_none (h : OnlyMonitorWarnings cfg s) :
    errorsPreventCharging cfg s = none := by
  cases hprevents : errorsPreventCharging cfg s with
  | none => rfl
  | some fatal =>
    obtain ⟨interface, hpresent, hmem, hnot⟩ := errorsPreventCharging_sound hprevents
    by_cases hevse : interface = .evse
    · subst hevse
      simp [ignoreErrors, (h.evse fatal hmem).1] at hnot
    by_cases hmonitor : interface = .overVoltageMonitor
    · subst hmonitor
      simp [ignoreErrors, h.warnings fatal hmem] at hnot
    · rw [h.others interface hevse hmonitor hpresent] at hmem
      exact absurd hmem List.not_mem_nil

/-- Which errors leave only those of the monitor. -/
theorem onlyMonitorErrors_processError_iff :
    OnlyMonitorErrors cfg (processError cfg s) ↔ OnlyMonitorWarnings cfg s := by
  cases hprevents : errorsPreventCharging cfg s with
  | some fatal =>
    refine iff_of_false (fun h => ?_) fun h => ?_
    · -- `Inoperative` is active afterwards
      have hactive := (processError_spec cfg s).2.1.mpr
        ⟨fatal, errorsPreventCharging_sound hprevents⟩
      obtain ⟨e, he, -⟩ := isErrorActive_iff.mp hactive
      rw [h.others .evse (by decide) rfl] at he
      exact List.not_mem_nil he
    · simpa [hprevents] using h.errorsPreventCharging_eq_none
  | none =>
    have hother : ∀ interface, interface ≠ .evse →
        (processError cfg s).active interface = s.active interface := by
      intro interface hne
      rw [active_processError cfg s hprevents]
      exact Function.update_of_ne hne _ _
    have hevse : (processError cfg s).active .evse = [] ↔
        ∀ e ∈ s.active .evse, e.type = inoperativeType ∧ e.subType = "" := by
      rw [active_processError cfg s hprevents]
      simp [State.clearError, State.setActive]
    constructor
    · intro h
      refine ⟨h.present, hother .overVoltageMonitor (by decide) ▸ h.active, fun e he => ?_,
        hevse.mp (h.others _ (by decide) rfl), fun interface hne hne' hpresent => ?_⟩
      · by_contra htype
        exact errorsPreventCharging_none hprevents e
          ⟨_, h.present, he, by simpa [ignoreErrors] using htype⟩
      · rw [← hother interface hne]
        exact h.others interface hne' hpresent
    · intro h
      refine ⟨h.present, (hother .overVoltageMonitor (by decide)).symm ▸ h.active,
        fun interface hne hpresent => ?_⟩
      by_cases hi : interface = .evse
      · exact hi ▸ hevse.mpr h.evse
      · rw [hother interface hi]
        exact h.others interface hi hne hpresent

/-- **The all-clear tells the truth**, unless nothing was active but warnings of the over-voltage
monitor and possibly `Inoperative`. -/
theorem all_clear_iff_no_error_active :
    (AllClearSignalled cfg s ↔ NoErrorActive cfg (processError cfg s)) ↔
      ¬ OnlyMonitorWarnings cfg s := by
  rw [signalled_iff, errorCount_eq_zero_iff, ← onlyMonitorErrors_processError_iff]
  constructor
  · intro hiff hmonitor
    exact hmonitor.active (hiff.mp hmonitor.others _ hmonitor.present)
  · intro hnot
    refine ⟨?_, fun h interface _ => h interface⟩
    intro hothers interface hpresent
    by_cases hi : interface = .overVoltageMonitor
    · subst hi
      by_contra hactive
      exact hnot ⟨hpresent, hactive, hothers⟩
    · exact hothers interface hi hpresent

/-- A warning of the over-voltage monitor does not prevent charging. -/
def monitorWarning : State where
  active := Function.update (fun _ => []) .overVoltageMonitor
    [{ type := "over_voltage_monitor/VendorWarning", severity := .low }]

theorem all_clear_with_active_warning :
    AllClearSignalled fullConfig monitorWarning ∧
      ((processError fullConfig monitorWarning).active .overVoltageMonitor).length = 1 := by
  decide

end EverestCore.Evse
