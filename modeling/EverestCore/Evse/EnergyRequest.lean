import EverestCore.Energy.Types
import EverestCore.Charging.State

/-!
# What an EVSE requests from the energy manager

The hardware limits are written first, replaced by the local limits if there are any, and then
applied to these. Leaf side power is capped where the local limits have it, but not set where
they do not. While the EV pauses the current is reduced only where a hardware limit is applied,
which is never the case for the limits that are the hardware's own.
-/

namespace EverestCore.Evse

open EverestCore.Energy (ScheduleReq ScheduleReqEntry LimitsReq NumberWithSource EnergyFlowNode)

/-! ## Requests -/

/-- The hardware capabilities in one direction. -/
structure HwCapabilities where
  maxCurrentA : ℚ
  minCurrentA : ℚ
  maxPhaseCount : Int
  minPhaseCount : Int

structure PowerSupplyCapabilities where
  maxExportPowerW : ℚ
  maxImportPowerW : Option ℚ := none
  conversionEfficiencyExport : Option ℚ := none
  conversionEfficiencyImport : Option ℚ := none

/-- What a request depends on; `hour` is the full hour that it is dated to. -/
structure EnergyGrid where
  id : String
  importCaps : HwCapabilities
  exportCaps : HwCapabilities
  powerSupplyCaps : PowerSupplyCapabilities
  chargeModeDc : Bool := false
  requestZeroPowerInIdle : Bool := false
  chargerState : Charging.EvseState := .disabled
  acNrPhasesActive : Int := 3
  localImport : ScheduleReq := []
  localExport : ScheduleReq := []
  hour : Int := 0

def toEnergyEvseState : Charging.EvseState → Energy.EvseState
  | .disabled => .disabled
  | .idle => .unplugged
  | .waitingForAuthentication => .waitForAuth
  | .prepareCharging | .tStepEF | .tStepX1 | .replug => .prepareCharging
  | .waitingForEnergy => .waitForEnergy
  | .charging | .switchPhases => .charging
  | .chargingPausedEV => .pausedEV
  | .chargingPausedEVSE => .pausedEVSE
  | .stoppingCharging | .finished => .finished

namespace EnergyGrid

variable (g : EnergyGrid)

def sourceBspCaps : String := g.id ++ "/evse_board_support_caps"

def sourcePsuCaps : String := g.id ++ "/powersupply_dc_caps"

variable (caps : HwCapabilities)

/-- The request of one direction with the capabilities only. -/
def clearedSchedule (source : String) (power : NumberWithSource)
    (efficiency : Option ℚ) : ScheduleReq :=
  [{ timestamp := g.hour
     limitsToRoot :=
       { acMaxPhaseCount := some ⟨caps.maxPhaseCount, source⟩
         acMinPhaseCount := some ⟨caps.minPhaseCount, source⟩
         acMaxCurrentA := some ⟨caps.maxCurrentA, source⟩
         acMinCurrentA := some ⟨caps.minCurrentA, source⟩
         acNumberOfActivePhases := some g.acNrPhasesActive }
     limitsToLeaves := if g.chargeModeDc then { totalPowerW := some power } else {}
     conversionEfficiency := if g.chargeModeDc then efficiency else none }]

def clearImportRequestSchedule : ScheduleReq :=
  g.clearedSchedule g.importCaps ""
    ⟨g.powerSupplyCaps.maxExportPowerW, g.id ++ "/clear_import_request_schedule"⟩
    g.powerSupplyCaps.conversionEfficiencyExport

def clearExportRequestSchedule : ScheduleReq :=
  g.clearedSchedule g.exportCaps g.sourceBspCaps
    ⟨g.powerSupplyCaps.maxImportPowerW.getD 0, g.sourcePsuCaps⟩
    g.powerSupplyCaps.conversionEfficiencyImport

/-- Energy is needed, or requested in any case. -/
def needsEnergy : Bool :=
  g.chargerState ∈ [.charging, .prepareCharging, .waitingForEnergy, .waitingForAuthentication,
    .chargingPausedEV] || !g.requestZeroPowerInIdle

/-- A power on the side of the leaves that is too large becomes that of the power supply. -/
def capPower (cap : Option NumberWithSource) (e : ScheduleReqEntry) : ScheduleReqEntry :=
  { e with limitsToLeaves.totalPowerW := e.limitsToLeaves.totalPowerW.map fun power =>
      match cap with
      | some cap => if cap.value < power.value then cap else power
      | none => power }

/-- A value that is missing or too large is replaced. -/
def hwLimit {α : Type} (limit : α) (tooLarge : α → Bool) (value : Option α) : Option α :=
  if value.all tooLarge then some limit else value

/-- The hardware limits on the side of the root. While the EV pauses, the current that takes the
place of another one is `paused`. -/
def applyHwLimits (paused : Option NumberWithSource)
    (e : ScheduleReqEntry) : ScheduleReqEntry :=
  { e with
    limitsToRoot := { e.limitsToRoot with
      acMaxCurrentA := hwLimit (paused.getD ⟨caps.maxCurrentA, g.sourceBspCaps⟩)
        (caps.maxCurrentA < ·.value) e.limitsToRoot.acMaxCurrentA
      acMaxPhaseCount := hwLimit ⟨caps.maxPhaseCount, g.sourceBspCaps⟩
        (caps.maxPhaseCount < ·.value) e.limitsToRoot.acMaxPhaseCount
      acMinPhaseCount := some ⟨caps.minPhaseCount, g.sourceBspCaps⟩
      acMinCurrentA := some ⟨caps.minCurrentA, g.sourceBspCaps⟩
      acNumberOfActivePhases := some g.acNrPhasesActive } }

/-- The request of one direction. -/
def requestSchedule (cleared localLimits : ScheduleReq)
    (cap paused : Option NumberWithSource) : ScheduleReq :=
  if g.needsEnergy then
    let schedule :=
      if localLimits.isEmpty then cleared
      else if g.chargeModeDc then localLimits.map (capPower cap) else localLimits
    let schedule := schedule.map (g.applyHwLimits caps paused)
    if g.chargeModeDc then schedule.map fun e => { e with limitsToLeaves.acMaxCurrentA := none }
    else schedule
  else
    cleared.map fun e =>
      if g.chargeModeDc then { e with limitsToLeaves.totalPowerW := some ⟨0, "Idle"⟩ }
      else { e with limitsToLeaves.acMaxCurrentA := some ⟨0, "Idle"⟩ }

/-- The EV pauses, and the import is reduced meanwhile. -/
def pausesImport : Bool := g.chargerState == .chargingPausedEV && g.requestZeroPowerInIdle

def importPause : Option NumberWithSource :=
  if g.pausesImport then some ⟨g.importCaps.minCurrentA, g.sourceBspCaps⟩ else none

def importPowerCap : NumberWithSource := ⟨g.powerSupplyCaps.maxExportPowerW, g.sourcePsuCaps⟩

def scheduleImport : ScheduleReq :=
  g.requestSchedule g.importCaps g.clearImportRequestSchedule g.localImport
    (some g.importPowerCap) g.importPause

def scheduleExport : ScheduleReq :=
  g.requestSchedule g.exportCaps g.clearExportRequestSchedule g.localExport
    (g.powerSupplyCaps.maxImportPowerW.map (⟨·, g.sourceBspCaps⟩))
    (if g.chargerState = .chargingPausedEV then
      some ⟨g.exportCaps.minCurrentA, g.sourceBspCaps ++ "_pause"⟩ else none)

/-- The request of the node, with what is sent again each time. -/
def requestEnergyFromEnergyManager (priorityRequest : Bool) (request : EnergyFlowNode) :
    EnergyFlowNode :=
  { request with
    priorityRequest := some priorityRequest
    evseState := some (toEnergyEvseState g.chargerState)
    scheduleImport := g.scheduleImport
    scheduleExport := g.scheduleExport }

/-! ## What is requested -/

variable (e : ScheduleReqEntry)

/-- What the hardware and the pause of the EV allow an entry to request. -/
structure Allowed : Prop where
  current : ∃ c ∈ e.limitsToRoot.acMaxCurrentA, c.value ≤ g.importCaps.maxCurrentA
  phases : ∃ n ∈ e.limitsToRoot.acMaxPhaseCount, n.value ≤ g.importCaps.maxPhaseCount
  power : g.chargeModeDc = true → ∃ p ∈ e.limitsToLeaves.totalPowerW,
    p.value ≤ g.powerSupplyCaps.maxExportPowerW
  paused : g.pausesImport = true → ∃ c ∈ e.limitsToRoot.acMaxCurrentA,
    c.value ≤ g.importCaps.minCurrentA

/-- The entries that the limits are applied to. -/
def importBase : ScheduleReq :=
  if g.localImport.isEmpty then g.clearImportRequestSchedule else g.localImport

/-- An entry that becomes one that is allowed. While the EV pauses, a current that is missing or
above the hardware maximum is replaced by the hardware minimum, and any other one is kept. -/
structure Allowable : Prop where
  power : g.chargeModeDc = true → e.limitsToLeaves.totalPowerW.isSome = true
  replaced : g.pausesImport = true →
    (∀ c ∈ e.limitsToRoot.acMaxCurrentA, g.importCaps.maxCurrentA < c.value) →
      g.importCaps.minCurrentA ≤ g.importCaps.maxCurrentA
  kept : g.pausesImport = true → ∀ c ∈ e.limitsToRoot.acMaxCurrentA,
    c.value ≤ g.importCaps.maxCurrentA → c.value ≤ g.importCaps.minCurrentA

/-- What is made of an entry for the import. -/
def importEntry : ScheduleReqEntry :=
  if g.chargeModeDc then
    { g.applyHwLimits g.importCaps g.importPause (capPower (some g.importPowerCap) e) with
      limitsToLeaves.acMaxCurrentA := none }
  else g.applyHwLimits g.importCaps g.importPause e

theorem capPower_cleared (hdc : g.chargeModeDc = true) :
    g.clearImportRequestSchedule.map (capPower (some g.importPowerCap)) =
      g.clearImportRequestSchedule := by
  simp [clearImportRequestSchedule, clearedSchedule, capPower, importPowerCap, hdc]

/-- Every entry is treated alike. -/
theorem scheduleImport_of_needsEnergy (h : g.needsEnergy = true) :
    g.scheduleImport = g.importBase.map g.importEntry := by
  unfold scheduleImport requestSchedule importBase importEntry
  rw [if_pos h]
  cases hdc : g.chargeModeDc with
  | false => cases g.localImport.isEmpty <;> rfl
  | true =>
    cases g.localImport.isEmpty with
    | true =>
      simp only [if_true]
      nth_rewrite 1 [← g.capPower_cleared hdc]
      simp only [List.map_map]
      rfl
    | false =>
      simp only [if_true, Bool.false_eq_true, if_false, List.map_map]
      rfl

theorem limitsToRoot_importEntry : (g.importEntry e).limitsToRoot =
    (g.applyHwLimits g.importCaps g.importPause e).limitsToRoot := by
  unfold importEntry
  split <;> rfl

theorem power_importEntry (hdc : g.chargeModeDc = true) (e : ScheduleReqEntry) :
    (g.importEntry e).limitsToLeaves.totalPowerW = e.limitsToLeaves.totalPowerW.map fun p =>
      if g.importPowerCap.value < p.value then g.importPowerCap else p := by
  unfold importEntry
  rw [if_pos hdc]
  rfl

section

variable {α : Type} {limit : α} {tooLarge : α → Bool} {value : Option α}

theorem hwLimit_of_tooLarge (h : ∀ c ∈ value, tooLarge c = true) :
    hwLimit limit tooLarge value = some limit :=
  if_pos ((Option.all_eq_true _ _).mpr h)

theorem hwLimit_of_mem {c : α} (hc : c ∈ value) (h : tooLarge c = false) :
    hwLimit limit tooLarge value = some c := by
  rw [Option.mem_def] at hc
  simp [hwLimit, hc, h]

/-- The limit, or a value that is kept. -/
theorem exists_mem_hwLimit {P : α → Prop} (hlimit : P limit)
    (hkept : ∀ c ∈ value, tooLarge c = false → P c) :
    ∃ c ∈ hwLimit limit tooLarge value, P c := by
  by_cases hlarge : ∀ c ∈ value, tooLarge c = true
  · exact ⟨limit, hwLimit_of_tooLarge hlarge, hlimit⟩
  · push Not at hlarge
    obtain ⟨c, hc, hsmall⟩ := hlarge
    have hsmall : tooLarge c = false := Bool.eq_false_of_not_eq_true hsmall
    exact ⟨c, hwLimit_of_mem hc hsmall, hkept c hc hsmall⟩

end

/-- The power is allowed exactly if there is one. -/
theorem power_allowed_iff (hdc : g.chargeModeDc = true) :
    (∃ p ∈ (g.importEntry e).limitsToLeaves.totalPowerW,
        p.value ≤ g.powerSupplyCaps.maxExportPowerW) ↔
      e.limitsToLeaves.totalPowerW.isSome = true := by
  rw [g.power_importEntry hdc, Option.isSome_iff_exists]
  constructor
  · rintro ⟨p, hp, -⟩
    obtain ⟨power, hpower, -⟩ := Option.map_eq_some_iff.mp hp
    exact ⟨power, hpower⟩
  · rintro ⟨power, hpower⟩
    refine ⟨_, congrArg _ hpower, ?_⟩
    dsimp only
    split_ifs with hlt
    · exact le_rfl
    · exact not_lt.mp hlt

/-- The limits make such an entry an allowed one, -/
theorem Allowable.allowed {e : ScheduleReqEntry} (h : g.Allowable e) :
    g.Allowed (g.importEntry e) := by
  constructor
  · rw [limitsToRoot_importEntry]
    by_cases hlarge : ∀ c ∈ e.limitsToRoot.acMaxCurrentA, g.importCaps.maxCurrentA < c.value
    · refine ⟨_, hwLimit_of_tooLarge (by simpa using hlarge), ?_⟩
      unfold importPause
      split_ifs with hpaused
      · exact h.replaced hpaused hlarge
      · exact le_rfl
    · push Not at hlarge
      obtain ⟨c, hc, hle⟩ := hlarge
      exact ⟨c, hwLimit_of_mem hc (by simpa using hle), hle⟩
  · rw [limitsToRoot_importEntry]
    exact exists_mem_hwLimit le_rfl fun n _ hn => by simpa using hn
  · exact fun hdc => (g.power_allowed_iff e hdc).mpr (h.power hdc)
  · intro hpaused
    rw [limitsToRoot_importEntry]
    refine exists_mem_hwLimit ?_ fun c hc hkept => h.kept hpaused c hc (by simpa using hkept)
    rw [importPause, if_pos hpaused]
    exact le_rfl

/-- and no other. -/
theorem Allowed.allowable {e : ScheduleReqEntry} (h : g.Allowed (g.importEntry e)) :
    g.Allowable e := by
  refine ⟨fun hdc => (g.power_allowed_iff e hdc).mp (h.power hdc), ?_, ?_⟩
  · intro hpaused hlarge
    obtain ⟨c, hc, hle⟩ := h.current
    rw [limitsToRoot_importEntry, applyHwLimits,
      hwLimit_of_tooLarge (by simpa using hlarge), importPause, if_pos hpaused] at hc
    obtain rfl := Option.some.inj hc
    exact hle
  · intro hpaused c hc hle
    obtain ⟨c', hc', hle'⟩ := h.paused hpaused
    rw [limitsToRoot_importEntry, applyHwLimits, hwLimit_of_mem hc (by simpa using hle)] at hc'
    exact Option.some.inj hc' ▸ hle'

/-- Without a need for energy the capabilities are requested, and no power in DC mode. -/
theorem idle_allowed_iff (hneeds : g.needsEnergy ≠ true) :
    (∀ e ∈ g.scheduleImport, g.Allowed e) ↔
      (g.chargeModeDc = true → 0 ≤ g.powerSupplyCaps.maxExportPowerW) := by
  have hidle : g.pausesImport ≠ true := by
    intro hpaused
    have hstate : g.chargerState = .chargingPausedEV := by
      simpa using (Bool.and_eq_true_iff.mp hpaused).1
    exact hneeds (by simp [needsEnergy, hstate])
  unfold scheduleImport requestSchedule clearImportRequestSchedule clearedSchedule
  rw [if_neg hneeds, List.map_singleton, List.forall_mem_singleton]
  constructor
  · intro h hdc
    obtain ⟨p, hp, hle⟩ := h.power hdc
    rw [if_pos hdc] at hp
    obtain rfl := Option.some.inj hp
    exact hle
  · intro hpower
    split_ifs with hdc
    · exact ⟨⟨_, rfl, le_rfl⟩, ⟨_, rfl, le_rfl⟩, fun _ => ⟨_, rfl, hpower hdc⟩,
        fun h => absurd h hidle⟩
    · exact ⟨⟨_, rfl, le_rfl⟩, ⟨_, rfl, le_rfl⟩, fun h => absurd h hdc, fun h => absurd h hidle⟩

/-- What the capabilities and the local limits have to be for a request within the limits. -/
def RequestAllowed : Prop :=
  if g.needsEnergy then ∀ e ∈ g.importBase, g.Allowable e
  else g.chargeModeDc = true → 0 ≤ g.powerSupplyCaps.maxExportPowerW

/-- **An EVSE requests what it may** exactly if every entry it starts from has a power on the side
of the leaves in DC mode, and while the EV pauses a current that is reduced or small enough. -/
theorem request_within_limits_iff (priorityRequest : Bool) (request : EnergyFlowNode) :
    (∀ e ∈ (g.requestEnergyFromEnergyManager priorityRequest request).scheduleImport,
        g.Allowed e) ↔ g.RequestAllowed := by
  change (∀ e ∈ g.scheduleImport, g.Allowed e) ↔ _
  unfold RequestAllowed
  split_ifs with hneeds
  · rw [g.scheduleImport_of_needsEnergy hneeds, List.forall_mem_map]
    exact ⟨fun h e he => (h e he).allowable, fun h e he => (h e he).allowed⟩
  · exact g.idle_allowed_iff hneeds

end EnergyGrid

/-- An EVSE of 32 A on three phases with a DC power supply of 22 kW. -/
def sampleGrid : EnergyGrid where
  id := "evse"
  importCaps := ⟨32, 6, 3, 1⟩
  exportCaps := ⟨16, 0, 3, 1⟩
  powerSupplyCaps := { maxExportPowerW := 22000 }
  chargerState := .charging

/-- A DC request without a power, and a pause with the full current. -/
theorem requests_beyond_limits :
    (({ sampleGrid with chargeModeDc := true, localImport := [{ timestamp := 0 }] } :
        EnergyGrid).requestEnergyFromEnergyManager false {}).scheduleImport.map
          (·.limitsToLeaves.totalPowerW) = [none] ∧
    (({ sampleGrid with chargerState := .chargingPausedEV, requestZeroPowerInIdle := true } :
        EnergyGrid).requestEnergyFromEnergyManager false {}).scheduleImport.map
          (·.limitsToRoot.acMaxCurrentA.map NumberWithSource.value) = [some 32] := by
  decide +kernel

end EverestCore.Evse
