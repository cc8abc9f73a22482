import EverestCore.Infy.Device

/-!
# Reported modes and the published one

A status frame is published as a mode only if it differs from the mode that was set last,
whatever was published before.

**Main result**: `published_mode_follows_iff`.
-/

namespace EverestCore.Infy

open EverestCore.Lib PowerSupply

/-! ## The last published mode -/

def modeOf : Publication → Option Mode
  | .mode mode => some mode
  | _ => none

variable (w : PowerSupply)

def publishedMode : Option Mode :=
  w.published.findSome? modeOf

theorem publishedMode_signalError (address : Nat) (error : DeviceError)
    (active : Bool) : publishedMode (w.signalError address error active) = publishedMode w := by
  have hoff : publishedMode
      (if error = .communicationFault ∧ active then { w with mode := .off } else w) =
      publishedMode w := by
    split <;> rfl
  unfold signalError
  dsimp only
  -- an error that is raised or cleared is published, but not as a mode
  split
  · exact hoff
  · split <;> exact hoff

theorem publishedMode_checks (sourceAddress : Nat) (newStatus oldStatus : PowerModuleStatus) :
    publishedMode (w.checkAndSignalErrorStatusChange sourceAddress newStatus oldStatus) =
      publishedMode w := by
  unfold checkAndSignalErrorStatusChange
  induction statusChecks generalizing w with
  | nil => rfl
  | cons check rest ih =>
    rw [List.foldl_cons, ih]
    split
    · exact publishedMode_signalError w sourceAddress check.2 _
    · rfl

theorem publishedMode_signalModuleStatus (status : PowerModuleStatus) :
    publishedMode (w.signalModuleStatus status) =
      if w.mode ≠ reportedMode status ∨ w.firsttime then some (reportedMode status)
      else publishedMode w := by
  unfold signalModuleStatus
  split <;> rfl

/-! ## Commands and status frames -/

inductive ModeEvent
  | setMode (mode : Mode) (phase : ChargingPhase)
  | status (sourceAddress status0 status1 status2 : Nat) (now : Int)

/-- The power supply with the mode that the last status frame reported. -/
structure Reports where
  supply : PowerSupply
  reported : Option Mode := none

namespace Reports

variable (cfg : Config) (r : Reports)

def step : ModeEvent → Reports
  | .setMode mode phase => { r with supply := r.supply.handleSetMode mode phase }
  | .status sourceAddress status0 status1 status2 now =>
    { supply := r.supply.rxHandler cfg sourceAddress now
        (.powerModuleStatus status0 status1 status2)
      reported := reportedMode (PowerModuleStatus.ofRaw status0 status1 status2) }

def Follows : Prop :=
  publishedMode r.supply = r.reported

/-- The frame is the first one, or it reports the mode of the frame before it or another
mode than the one that is set. -/
def Noticed : ModeEvent → Prop
  | .setMode .. => True
  | .status _ status0 status1 status2 _ =>
    let mode := reportedMode (PowerModuleStatus.ofRaw status0 status1 status2)
    r.reported = none ∨ r.reported = mode ∨ r.supply.mode ≠ mode

/-- The first frame is awaited until one was handled. -/
def Awaiting : Prop :=
  r.supply.firsttime = r.reported.isNone

variable {r}

theorem awaiting_step (h : r.Awaiting) (e : ModeEvent) : (r.step cfg e).Awaiting := by
  cases e with
  | setMode mode phase =>
    show (r.supply.handleSetMode mode phase).firsttime = _
    rw [handleSetMode_eq]
    exact h
  | status sourceAddress status0 status1 status2 now =>
    show (checkAndSignalErrorStatusChange ..).firsttime = false
    obtain ⟨published, hchecks⟩ := checkAndSignalErrorStatusChange_eq ..
    rw [hchecks]
    show (r.supply.signalModuleStatus _).firsttime = false
    unfold signalModuleStatus
    split
    · rfl
    · rename_i hskipped
      exact Bool.eq_false_of_not_eq_true fun hfirst => hskipped (.inr hfirst)

theorem follows_step_iff (hfirst : r.Awaiting) (h : r.Follows) (e : ModeEvent) :
    (r.step cfg e).Follows ↔ r.Noticed e := by
  cases e with
  | setMode mode phase =>
    refine iff_of_true ?_ trivial
    show publishedMode (r.supply.handleSetMode mode phase) = _
    rw [handleSetMode_eq]
    exact h
  | status sourceAddress status0 status1 status2 now =>
    show publishedMode (checkAndSignalErrorStatusChange ..) = some (reportedMode _) ↔ _
    rw [publishedMode_checks, publishedMode_signalModuleStatus, hfirst, h, ite_eq_iff,
      Option.isNone_iff_eq_none]
    unfold Noticed
    tauto

end Reports

/-! ## Runs -/

/-- **The published mode follows the reported one** exactly along the runs in which every
status frame that reports a change reports another mode than the one that is set. -/
theorem published_mode_follows_iff (cfg : Config) (events : List ModeEvent) :
    Always (Reports.step cfg) Reports.Follows { supply := initialPing cfg } events ↔
      Along (Reports.step cfg) Reports.Noticed { supply := initialPing cfg } events := by
  have hinitial : (initialPing cfg).firsttime = true ∧ publishedMode (initialPing cfg) = none := by
    unfold initialPing
    cases cfg.operatingMode with
    | groupDiscovery => exact ⟨rfl, rfl⟩
    | fixedAddress addresses =>
      dsimp only
      rw [switchOnOff, sendCommands_eq]
      exact ⟨rfl, rfl⟩
  exact always_iff_along (fun _ e hfirst _ _ => Reports.awaiting_step cfg hfirst e)
    (fun _ e hfirst h => Reports.follows_step_iff cfg hfirst h e) events hinitial.1 hinitial.2

/-- A module reports off and, after it was told to export, that it exports. The mode
that stays published is off. -/
theorem export_is_not_published :
    ¬ Always (Reports.step groupConfig) Reports.Follows { supply := initialPing groupConfig }
      [.status 0 0 1 0 0, .setMode .exporting .charging, .status 0 0 0 0 1] := by
  intro h
  have hlast := h.last
  revert hlast
  unfold Reports.Follows
  decide

end EverestCore.Infy
