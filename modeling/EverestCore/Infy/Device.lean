import EverestCore.Lib.Machine
import Mathlib.Algebra.Order.Field.Rat
import Mathlib.Algebra.Order.BigOperators.Group.List
import Mathlib.Tactic.Linarith

/-!
# The InfyPower driver

A DC power supply is built from several power modules on one CAN bus. The CAN device keeps
a list of module addresses and the last telemetry of each module; the `power_supply_DC`
implementation keeps the mode, the set point and the errors it has raised.

Every transmission succeeds. Voltages and currents are rational numbers.
-/

namespace EverestCore.Infy

open List

/-! ## Frames -/

structure PowerModuleStatus where
  outputShortCurrent : Bool := false
  sleeping : Bool := false
  dischargeAbnormal : Bool := false
  dcSideOff : Bool := false
  faultAlarm : Bool := false
  protectionAlarm : Bool := false
  fanFaultAlarm : Bool := false
  overTemperatureAlarm : Bool := false
  outputOverVoltageAlarm : Bool := false
  walkInEnable : Bool := false
  communicationInterruptAlarm : Bool := false
  powerLimitStatus : Bool := false
  idRepeatAlarm : Bool := false
  loadSharingAlarm : Bool := false
  inputPhaseLostAlarm : Bool := false
  inputUnbalancedAlarm : Bool := false
  inputLowVoltageAlarm : Bool := false
  inputOverVoltageProtection : Bool := false
  pfcSideOff : Bool := false
  deriving DecidableEq

/-- The status from bytes 7, 6 and 5 of the payload. -/
def PowerModuleStatus.ofRaw (status0 status1 status2 : Nat) : PowerModuleStatus where
  outputShortCurrent := status0.testBit 0
  sleeping := status0.testBit 4
  dischargeAbnormal := status0.testBit 5
  dcSideOff := status1.testBit 0
  faultAlarm := status1.testBit 1
  protectionAlarm := status1.testBit 2
  fanFaultAlarm := status1.testBit 3
  overTemperatureAlarm := status1.testBit 4
  outputOverVoltageAlarm := status1.testBit 5
  walkInEnable := status1.testBit 6
  communicationInterruptAlarm := status1.testBit 7
  powerLimitStatus := status2.testBit 0
  idRepeatAlarm := status2.testBit 1
  loadSharingAlarm := status2.testBit 2
  inputPhaseLostAlarm := status2.testBit 3
  inputUnbalancedAlarm := status2.testBit 4
  inputLowVoltageAlarm := status2.testBit 5
  inputOverVoltageProtection := status2.testBit 6
  pfcSideOff := status2.testBit 7

/-- The frames a module answers with. Capabilities are raw 16 bit numbers. -/
inductive Packet
  | readModuleCount (count : Nat)
  | readModuleVI (voltage current : Rat)
  | powerModuleStatus (status0 status1 status2 : Nat)
  | readModuleVIAfterDiode (vExt iAvail : Rat)
  | readModuleCapabilities (maxVoltage minVoltage maxCurrent ratedPower : Nat)
  | readModuleBarcode (serialNumber : String)
  deriving DecidableEq

inductive Command
  | readModuleCount (groupAddress : Nat)
  | readModuleVI (destination : Nat)
  | powerModuleStatus (destination : Nat)
  | readModuleVIAfterDiode (destination : Nat)
  | readModuleCapabilities (destination : Nat)
  | readModuleBarcode (destination : Nat)
  | setModuleVI (destination : Nat) (voltage current : Rat)
  | setModuleOnOff (destination : Nat) (on : Bool)
  deriving DecidableEq

/-! ## Errors -/

inductive DeviceError
  | overVoltage
  | underVoltage
  | overTemperature
  | fanFault
  | inputPhaseLoss
  | overCurrent
  | internalFault
  | communicationFault
  | inputVoltage
  deriving DecidableEq

/-- The error types of the `power_supply_DC` interface that the driver uses. -/
inductive ErrorType
  | overVoltageDC
  | underVoltageDC
  | overTemperature
  | overCurrentDC
  | hardwareFault
  | communicationFault
  | underVoltageAC
  | vendorWarning
  | vendorError
  deriving DecidableEq

def mapInfyErrorToPowerSupplyDc : DeviceError → ErrorType
  | .overVoltage => .overVoltageDC
  | .underVoltage => .underVoltageDC
  | .overTemperature => .overTemperature
  | .overCurrent => .overCurrentDC
  | .internalFault => .hardwareFault
  | .communicationFault => .communicationFault
  | .inputVoltage => .underVoltageAC
  | .fanFault => .vendorWarning
  | .inputPhaseLoss => .vendorError

/-- The alarm bits whose changes are signalled, in the order of the checks. -/
def statusChecks : List ((PowerModuleStatus → Bool) × DeviceError) :=
  [(PowerModuleStatus.faultAlarm, .internalFault),
   (PowerModuleStatus.overTemperatureAlarm, .overTemperature),
   (PowerModuleStatus.outputOverVoltageAlarm, .overVoltage),
   (PowerModuleStatus.fanFaultAlarm, .fanFault),
   (PowerModuleStatus.inputPhaseLostAlarm, .inputPhaseLoss),
   (PowerModuleStatus.outputShortCurrent, .overCurrent),
   (PowerModuleStatus.communicationInterruptAlarm, .communicationFault),
   (PowerModuleStatus.inputLowVoltageAlarm, .underVoltage),
   (PowerModuleStatus.inputUnbalancedAlarm, .inputVoltage),
   (PowerModuleStatus.inputOverVoltageProtection, .inputVoltage),
   (PowerModuleStatus.protectionAlarm, .internalFault),
   (PowerModuleStatus.loadSharingAlarm, .internalFault),
   (PowerModuleStatus.dischargeAbnormal, .internalFault)]

inductive Severity
  | medium
  | high
  deriving DecidableEq

def DeviceError.text : DeviceError → String
  | .overVoltage => "overvoltage fault"
  | .underVoltage => "undervoltage fault"
  | .overTemperature => "overtemperature fault"
  | .overCurrent => "overcurrent fault"
  | .internalFault => "internal fault"
  | .communicationFault => "communication fault"
  | .inputVoltage => "input voltage fault"
  | .fanFault => "fan fault"
  | .inputPhaseLoss => "input phase loss fault"

def createErrorMessage (moduleAddress : Nat) (error : DeviceError) (active : Bool) : String :=
  "Infy[0x" ++ String.ofList ((Nat.toDigits 16 moduleAddress).map Char.toUpper) ++ "]: " ++
    error.text ++ " " ++ (if active then "detected" else "cleared")

/-! ## State -/

structure Telemetry where
  voltage : Rat := 0
  current : Rat := 0
  vExt : Rat := 0
  iAvail : Rat := 0
  validCaps : Bool := false
  dcMaxOutputVoltage : Rat := 0
  dcMinOutputVoltage : Rat := 0
  dcMaxOutputCurrent : Rat := 0
  dcRatedOutputPower : Rat := 0
  status : PowerModuleStatus := {}
  serialNumber : String := ""
  lastUpdate : Int := 0

abbrev TelemetryMap := Std.TreeMap Nat Telemetry

inductive Mode
  | off
  | exporting
  | importing
  | fault
  deriving DecidableEq

inductive ChargingPhase
  | other
  | cableCheck
  | preCharge
  | charging
  deriving DecidableEq

/-- The capabilities of the whole power supply. -/
structure Capabilities where
  bidirectional : Bool
  maxExportVoltage : Rat
  minExportVoltage : Rat
  maxExportCurrent : Rat
  minExportCurrent : Rat
  maxExportPower : Rat
  conversionEfficiencyExport : Option Rat := none
  deriving DecidableEq

inductive Publication
  | voltageCurrent (voltage current : Rat)
  | mode (mode : Mode)
  | capabilities (caps : Capabilities)
  | raiseError (type : ErrorType) (message : String) (severity : Severity)
  | clearError (type : ErrorType)
  deriving DecidableEq

inductive OperatingMode
  | fixedAddress (addresses : List Nat)
  | groupDiscovery
  deriving DecidableEq

structure Config where
  operatingMode : OperatingMode
  groupAddress : Nat := 0
  deviceConnectionTimeout : Int
  conversionEfficiencyExport : Rat := 1
  /-- The member `caps` before the first update: no constructor writes to it. -/
  initialCaps : Capabilities
  /-- A local record as it is created. The handler adds to its fields, which it has not
  written; they may differ from call to call, which the number of values published tells apart. -/
  freshCaps : Nat → Capabilities

def Capabilities.zero : Capabilities :=
  ⟨false, 0, 0, 0, 0, 0, none⟩

/-- Group discovery, with memory that happens to be zero. -/
def groupConfig : Config where
  operatingMode := .groupDiscovery
  deviceConnectionTimeout := 5
  initialCaps := .zero
  freshCaps _ := .zero

structure PowerSupply where
  -- the CAN device
  initialized : Bool := false
  activeModuleAddresses : List Nat := []
  telemetries : TelemetryMap := {}
  -- the modules reported as expired, latest first
  expired : List Nat := []
  -- the implementation of the interface
  mode : Mode := .off
  phase : ChargingPhase := .cableCheck
  exportVoltage : Rat := 0
  exportCurrentLimit : Rat := 0
  caps : Capabilities
  firsttime : Bool := true
  lastModuleCount : Nat := 0
  throttleCnt : Nat := 0
  errors : ErrorType → Bool := fun _ => false
  -- commands transmitted and values published, latest first
  sent : List Command := []
  published : List Publication := []

namespace PowerSupply

variable (w : PowerSupply)

def publish (value : Publication) : PowerSupply :=
  { w with published := value :: w.published }

/-! ## Commands to the modules -/

def sendCommand (command : Command) : PowerSupply :=
  { w with sent := command :: w.sent }

def sendCommands (commands : List Command) : PowerSupply :=
  commands.foldl sendCommand w

def switchOnOff (on : Bool) : PowerSupply :=
  w.sendCommands (w.activeModuleAddresses.map fun addr => .setModuleOnOff addr on)

def setVoltageCurrent (voltage current : Rat) : PowerSupply :=
  let currentPerModule := current / w.activeModuleAddresses.length
  w.sendCommands
    (w.activeModuleAddresses.map fun addr => .setModuleVI addr voltage currentPerModule)

def handleSetMode (mode : Mode) (phase : ChargingPhase) : PowerSupply :=
  let w :=
    match mode with
    | .off => w.switchOnOff false
    | .exporting => w.switchOnOff true
    | .importing => w.switchOnOff true
    | .fault => w.switchOnOff false
  { w with mode, phase }

def clamp (low high value : Rat) : Rat :=
  if value > high then high else if value < low then low else value

def handleSetExportVoltageCurrent (voltage current : Rat) : PowerSupply :=
  let voltage := clamp w.caps.minExportVoltage w.caps.maxExportVoltage voltage
  let current := clamp w.caps.minExportCurrent w.caps.maxExportCurrent current
  setVoltageCurrent { w with exportVoltage := voltage, exportCurrentLimit := current }
    voltage current

/-! ## Signals of the CAN device -/

def signalVoltageCurrent : PowerSupply :=
  let next := { w with throttleCnt := (w.throttleCnt + 1) % 256 }
  if w.throttleCnt % 5 = 0 then
    let totalCurrent := w.telemetries.foldl (fun total _ t => total + t.current) 0
    let extVoltage := w.telemetries.foldl (fun _ _ t => t.vExt) 0
    next.publish (.voltageCurrent extVoltage totalCurrent)
  else next

def reportedMode (status : PowerModuleStatus) : Mode :=
  if status.faultAlarm then .fault else if status.dcSideOff then .off else .exporting

def signalModuleStatus (status : PowerModuleStatus) : PowerSupply :=
  if w.mode ≠ reportedMode status ∨ w.firsttime then
    { w with firsttime := false }.publish (.mode (reportedMode status))
  else w

/-- The largest and the smallest positive normal `float`. -/
def floatMax : Rat := (2 ^ 24 - 1) * 2 ^ 104
def floatMin : Rat := 1 / 2 ^ 126

def addCapabilities (caps : Capabilities) (t : Telemetry) : Capabilities :=
  if t.validCaps then
    { caps with
      maxExportVoltage :=
        if t.dcMaxOutputVoltage < caps.maxExportVoltage then t.dcMaxOutputVoltage
        else caps.maxExportVoltage
      minExportVoltage :=
        if t.dcMinOutputVoltage > caps.minExportVoltage then t.dcMinOutputVoltage
        else caps.minExportVoltage
      maxExportCurrent := caps.maxExportCurrent + t.dcMaxOutputCurrent
      maxExportPower := caps.maxExportPower + t.dcRatedOutputPower }
  else caps

variable (cfg : Config)

/-- What is published without telemetry, and what the modules are added to. -/
def defaultCaps : Capabilities :=
  { cfg.freshCaps w.published.length with
    bidirectional := false
    minExportCurrent := 1
    conversionEfficiencyExport := none }

def newCaps : Capabilities :=
  { w.telemetries.foldl (fun caps _ t => addCapabilities caps t)
      { defaultCaps w cfg with maxExportVoltage := floatMax, minExportVoltage := floatMin } with
    conversionEfficiencyExport := some cfg.conversionEfficiencyExport }

def restore : PowerSupply :=
  (w.handleSetExportVoltageCurrent w.exportVoltage w.exportCurrentLimit).handleSetMode w.mode
    w.phase

variable (w : PowerSupply)

/-- The capabilities are updated. When the number of modules has changed, the last set
point and the last mode are sent again. -/
def signalCapabilitiesUpdate : PowerSupply :=
  let count := w.telemetries.size
  if count = 0 then
    w.publish (.capabilities (defaultCaps w cfg))
  else
    let caps := newCaps w cfg
    let w := { w with caps }.publish (.capabilities caps)
    let w :=
      if w.lastModuleCount ≠ count then { w with lastModuleCount := count % 256 }.restore else w
    { w with lastModuleCount := count % 256 }

/-- An error is raised or cleared. A communication fault also sets the mode to off. -/
def signalError (address : Nat) (error : DeviceError) (active : Bool) :
    PowerSupply :=
  let errorType := mapInfyErrorToPowerSupplyDc error
  let errorMessage := createErrorMessage address error active
  let isErrorActive := w.errors errorType
  let w := if error = .communicationFault ∧ active then { w with mode := .off } else w
  if active ∧ ¬ isErrorActive then
    let severity := if error = .fanFault then .medium else .high
    { w with errors := Function.update w.errors errorType true }.publish
      (.raiseError errorType errorMessage severity)
  else if ¬ active ∧ isErrorActive then
    { w with errors := Function.update w.errors errorType false }.publish (.clearError errorType)
  else w

/-! ## Received frames -/

variable (sourceAddress : Nat)

variable (newStatus oldStatus : PowerModuleStatus)

def checkAndSignalErrorStatusChange : PowerSupply :=
  statusChecks.foldl
    (fun w check =>
      if check.1 newStatus ≠ check.1 oldStatus then
        w.signalError sourceAddress check.2 (check.1 newStatus)
      else w) w

def handleModuleCountPacket (count : Nat) : PowerSupply :=
  match cfg.operatingMode with
  | .fixedAddress _ => w
  | .groupDiscovery =>
    let listed := { w with activeModuleAddresses := List.range count }
    if listed.initialized then listed
    else { listed with initialized := true }.switchOnOff false

def telemetry (address : Nat) : Telemetry :=
  w.telemetries.getD address {}

def setTelemetry (address : Nat) (t : Telemetry) : PowerSupply :=
  { w with telemetries := w.telemetries.insert address t }

variable (now : Int)

def rxHandler :
    Packet → PowerSupply
  | .readModuleCount count => handleModuleCountPacket cfg w count
  | .readModuleVI voltage current =>
    (w.setTelemetry sourceAddress
      { w.telemetry sourceAddress with voltage, current }).signalVoltageCurrent
  | .powerModuleStatus status0 status1 status2 =>
    let status := PowerModuleStatus.ofRaw status0 status1 status2
    let w := w.signalModuleStatus status
    let t := w.telemetry sourceAddress
    (w.checkAndSignalErrorStatusChange sourceAddress status t.status).setTelemetry sourceAddress
      { t with status, lastUpdate := now }
  | .readModuleVIAfterDiode vExt iAvail =>
    (w.setTelemetry sourceAddress
      { w.telemetry sourceAddress with vExt, iAvail }).signalVoltageCurrent
  | .readModuleCapabilities maxVoltage minVoltage maxCurrent ratedPower =>
    signalCapabilitiesUpdate cfg (w.setTelemetry sourceAddress
      { w.telemetry sourceAddress with
        validCaps := true
        dcMaxOutputVoltage := maxVoltage
        dcMinOutputVoltage := minVoltage
        dcMaxOutputCurrent := maxCurrent / 10
        dcRatedOutputPower := ratedPower * 10 })
  | .readModuleBarcode serialNumber =>
    w.setTelemetry sourceAddress { w.telemetry sourceAddress with serialNumber }

/-! ## The cyclic poll -/

def isExpired (t : Telemetry) : Bool :=
  now - t.lastUpdate > cfg.deviceConnectionTimeout

def expiredAddresses : List Nat :=
  (w.telemetries.toList.filter fun entry => isExpired cfg now entry.2).map Prod.fst

/-- The source removes an address from the list by the key of a map node it has just erased;
the model takes the key to be what it was. -/
def dropExpired : PowerSupply :=
  let gone := expiredAddresses cfg w now
  { w with
    telemetries := w.telemetries.filter fun _ t => !isExpired cfg now t
    activeModuleAddresses := w.activeModuleAddresses.filter (· ∉ gone)
    expired := gone.reverse ++ w.expired }

def removeExpiredTelemetryEntries : PowerSupply :=
  let removedCount := (expiredAddresses cfg w now).length
  let w := dropExpired cfg w now
  if removedCount ≠ 0 ∧ w.telemetries.isEmpty then
    w.signalError 0xFF .communicationFault true
  else if ¬ w.telemetries.isEmpty then
    w.signalError 0xFF .communicationFault false
  else w

/-- The read commands for one module. Serial number and capabilities are asked for once. -/
def pollCommands (addr : Nat) : List Command :=
  [.readModuleVI addr, .powerModuleStatus addr, .readModuleVIAfterDiode addr] ++
    (if (w.telemetry addr).serialNumber = "" then
      [.readModuleCapabilities addr, .readModuleBarcode addr] else [])

/-- The first part of the poll: expired modules are removed, and what remains of the
telemetry is signalled. -/
def expireModules : PowerSupply :=
  let removedCount := (expiredAddresses cfg w now).length
  let w := removeExpiredTelemetryEntries cfg w now
  if removedCount > 0 then (signalCapabilitiesUpdate cfg w).signalVoltageCurrent else w

def pollStatusHandler : PowerSupply :=
  let w := expireModules cfg w now
  let w :=
    match cfg.operatingMode with
    | .groupDiscovery => w.sendCommand (.readModuleCount cfg.groupAddress)
    | .fixedAddress _ => w
  w.sendCommands (w.activeModuleAddresses.flatMap w.pollCommands)

def initialPing : PowerSupply :=
  match cfg.operatingMode with
  | .groupDiscovery =>
    { caps := cfg.initialCaps : PowerSupply }.sendCommand (.readModuleCount cfg.groupAddress)
  | .fixedAddress addresses =>
    { activeModuleAddresses := addresses, initialized := true
      caps := cfg.initialCaps : PowerSupply }.switchOnOff false

/-! ## What the operations change -/

theorem sendCommands_eq (commands : List Command) :
    w.sendCommands commands = { w with sent := commands.reverse ++ w.sent } := by
  induction commands generalizing w with
  | nil => rfl
  | cons command rest ih =>
    show (w.sendCommand command).sendCommands rest = _
    rw [ih]
    simp [sendCommand]

theorem findSome?_sent_to_all {β : Type} {f : Command → Option β} {g : Nat → Command} {a : Nat}
    {value : β} (hg : ∀ addr, f (g addr) = if addr = a then some value else none)
    {addrs : List Nat} (ha : a ∈ addrs) (sent : List Command) :
    ((addrs.map g).reverse ++ sent).findSome? f = some value := by
  rw [findSome?_append]
  cases hfind : (addrs.map g).reverse.findSome? f with
  | none =>
    have hnone := findSome?_eq_none_iff.mp hfind (g a) (mem_reverse.mpr (mem_map_of_mem ha))
    rw [hg, if_pos rfl] at hnone
    cases hnone
  | some found =>
    obtain ⟨command, hmem, hcommand⟩ := exists_of_findSome?_eq_some hfind
    rw [mem_reverse, mem_map] at hmem
    obtain ⟨addr, -, rfl⟩ := hmem
    rw [hg] at hcommand
    split at hcommand
    · rw [Option.some_or, hcommand]
    · cases hcommand

def onOff : Mode → Bool
  | .exporting | .importing => true
  | .off | .fault => false

theorem handleSetMode_eq (mode : Mode) (phase : ChargingPhase) :
    w.handleSetMode mode phase =
      { w with
        mode, phase
        sent := (w.activeModuleAddresses.map fun addr =>
          .setModuleOnOff addr (onOff mode)).reverse ++ w.sent } := by
  cases mode <;> simp only [handleSetMode, switchOnOff, sendCommands_eq, onOff]

def clampedVoltage (voltage : Rat) : Rat :=
  clamp w.caps.minExportVoltage w.caps.maxExportVoltage voltage

def clampedCurrent (current : Rat) : Rat :=
  clamp w.caps.minExportCurrent w.caps.maxExportCurrent current

theorem handleSetExportVoltageCurrent_eq (voltage current : Rat) :
    w.handleSetExportVoltageCurrent voltage current =
      { w with
        exportVoltage := w.clampedVoltage voltage
        exportCurrentLimit := w.clampedCurrent current
        sent := (w.activeModuleAddresses.map fun addr =>
          .setModuleVI addr (w.clampedVoltage voltage)
            (w.clampedCurrent current / w.activeModuleAddresses.length)).reverse ++ w.sent } := by
  simp [handleSetExportVoltageCurrent, setVoltageCurrent, sendCommands_eq, clampedVoltage,
    clampedCurrent]

theorem signalError_eq (address : Nat) (error : DeviceError) (active : Bool) :
    ∃ published, w.signalError address error active =
      { w with
        mode := if error = .communicationFault ∧ active then .off else w.mode
        errors := Function.update w.errors (mapInfyErrorToPowerSupplyDc error) active
        published } := by
  have hmode : (if error = .communicationFault ∧ active then { w with mode := .off } else w) =
      { w with mode := if error = .communicationFault ∧ active then .off else w.mode } := by
    split <;> rfl
  -- an error that is already in the wanted state is left alone
  have hsame : w.errors (mapInfyErrorToPowerSupplyDc error) = active →
      Function.update w.errors (mapInfyErrorToPowerSupplyDc error) active = w.errors := by
    rintro rfl
    exact Function.update_eq_self _ _
  simp only [signalError, hmode]
  split
  · rename_i h
    exact ⟨_, by rw [h.1]; rfl⟩
  split
  · rename_i h
    exact ⟨_, by rw [Bool.eq_false_of_not_eq_true h.1]; rfl⟩
  · refine ⟨w.published, ?_⟩
    rw [hsame (by cases active <;> simp_all)]

theorem signalVoltageCurrent_eq :
    ∃ throttleCnt published, w.signalVoltageCurrent = { w with throttleCnt, published } := by
  unfold signalVoltageCurrent
  split <;> exact ⟨_, _, rfl⟩

theorem signalModuleStatus_eq (status : PowerModuleStatus) :
    ∃ firsttime published, w.signalModuleStatus status = { w with firsttime, published } := by
  unfold signalModuleStatus
  split <;> exact ⟨_, _, rfl⟩

theorem restore_eq :
    w.restore =
      { w with
        exportVoltage := w.clampedVoltage w.exportVoltage
        exportCurrentLimit := w.clampedCurrent w.exportCurrentLimit
        sent := (w.activeModuleAddresses.map fun addr =>
            .setModuleOnOff addr (onOff w.mode)).reverse ++
          ((w.activeModuleAddresses.map fun addr =>
            .setModuleVI addr (w.clampedVoltage w.exportVoltage)
              (w.clampedCurrent w.exportCurrentLimit / w.activeModuleAddresses.length)).reverse ++
            w.sent) } := by
  simp [restore, handleSetMode_eq, handleSetExportVoltageCurrent_eq]

theorem signalCapabilitiesUpdate_cases :
    (w.telemetries.isEmpty = true ∧
      ∃ published, signalCapabilitiesUpdate cfg w = { w with published }) ∨
    (w.telemetries.isEmpty = false ∧ ∃ lastModuleCount published,
      let updated := { w with caps := newCaps w cfg, lastModuleCount, published }
      signalCapabilitiesUpdate cfg w = updated ∨
        signalCapabilitiesUpdate cfg w = updated.restore) := by
  rw [Std.TreeMap.isEmpty_eq_size_eq_zero]
  unfold signalCapabilitiesUpdate
  dsimp only
  split
  · rename_i hempty
    exact .inl ⟨beq_iff_eq.mpr hempty, _, rfl⟩
  · rename_i hne
    refine .inr ⟨beq_eq_false_iff_ne.mpr hne, w.telemetries.size % 256,
      .capabilities (newCaps w cfg) :: w.published, ?_⟩
    split
    · right
      simp only [restore_eq]
      rfl
    · exact .inl rfl

def errorsAfter
    (checks : List ((PowerModuleStatus → Bool) × DeviceError)) (errors : ErrorType → Bool) :
    ErrorType → Bool :=
  checks.foldl
    (fun errors check =>
      if check.1 newStatus ≠ check.1 oldStatus then
        Function.update errors (mapInfyErrorToPowerSupplyDc check.2) (check.1 newStatus)
      else errors) errors

theorem foldl_checks_eq
    (checks : List ((PowerModuleStatus → Bool) × DeviceError)) (w : PowerSupply) :
    ∃ published,
      checks.foldl
        (fun w check =>
          if check.1 newStatus ≠ check.1 oldStatus then
            w.signalError sourceAddress check.2 (check.1 newStatus)
          else w) w =
      { w with
        mode := if checks.any (fun check => check.2 = .communicationFault &&
            (check.1 newStatus && !check.1 oldStatus)) then .off else w.mode
        errors := errorsAfter newStatus oldStatus checks w.errors
        published } := by
  induction checks generalizing w with
  | nil => exact ⟨w.published, rfl⟩
  | cons check rest ih =>
    rw [foldl_cons]
    by_cases hchange : check.1 newStatus ≠ check.1 oldStatus
    · -- the change is signalled
      obtain ⟨_, hsignal⟩ := w.signalError_eq sourceAddress check.2 (check.1 newStatus)
      rw [if_pos hchange, hsignal]
      obtain ⟨published, hrest⟩ := ih _
      refine ⟨published, hrest.trans ?_⟩
      have hold : check.1 oldStatus = !check.1 newStatus := by
        revert hchange
        cases check.1 newStatus <;> cases check.1 oldStatus <;> simp
      have hmode : ∀ raised : Bool,
          (if raised then Mode.off
            else if check.2 = .communicationFault ∧ check.1 newStatus then .off else w.mode) =
          if (check.2 = .communicationFault && (check.1 newStatus && !check.1 oldStatus) ||
            raised) then .off else w.mode := by
        intro raised
        cases raised <;> simp [hold]
      simp only [errorsAfter, foldl_cons, if_pos hchange]
      congr 1
      exact hmode _
    · rw [if_neg hchange]
      obtain ⟨published, hrest⟩ := ih w
      refine ⟨published, hrest.trans ?_⟩
      have hmode : ∀ raised : Bool, (if raised then Mode.off else w.mode) =
          if (check.2 = .communicationFault && (check.1 newStatus && !check.1 oldStatus) ||
            raised) then .off else w.mode := by
        intro raised
        simp [not_not.mp hchange]
      simp only [errorsAfter, foldl_cons, if_neg hchange]
      congr 1
      exact hmode _

theorem checkAndSignalErrorStatusChange_eq :
    ∃ published, w.checkAndSignalErrorStatusChange sourceAddress newStatus oldStatus =
      { w with
        mode := if newStatus.communicationInterruptAlarm ∧ ¬ oldStatus.communicationInterruptAlarm
          then .off else w.mode
        errors := errorsAfter newStatus oldStatus statusChecks w.errors
        published } := by
  obtain ⟨published, h⟩ := foldl_checks_eq sourceAddress newStatus oldStatus statusChecks w
  refine ⟨published, h.trans ?_⟩
  simp [statusChecks]

theorem rxHandler_powerModuleStatus (status0 status1 status2 : Nat) :
    let status := PowerModuleStatus.ofRaw status0 status1 status2
    let t := w.telemetry sourceAddress
    ∃ firsttime published,
      rxHandler cfg w sourceAddress now (.powerModuleStatus status0 status1 status2) =
        setTelemetry
          { w with
            mode := if status.communicationInterruptAlarm ∧ ¬ t.status.communicationInterruptAlarm
              then .off else w.mode
            errors := errorsAfter status t.status statusChecks w.errors
            firsttime, published }
          sourceAddress { t with status, lastUpdate := now } := by
  intro status t
  obtain ⟨firsttime, _, hmodule⟩ := signalModuleStatus_eq w status
  obtain ⟨published, hcheck⟩ := checkAndSignalErrorStatusChange_eq (w.signalModuleStatus status)
    sourceAddress status ((w.signalModuleStatus status).telemetry sourceAddress).status
  refine ⟨firsttime, published, ?_⟩
  simp only [rxHandler]
  rw [hcheck, hmodule]
  rfl

theorem removeExpiredTelemetryEntries_cases :
    let dropped := dropExpired cfg w now
    (expiredAddresses cfg w now ≠ [] ∧ dropped.telemetries.isEmpty = true ∧
      ∃ published, removeExpiredTelemetryEntries cfg w now =
        { dropped with
          mode := .off, errors := Function.update w.errors .communicationFault true, published }) ∨
    (dropped.telemetries.isEmpty = false ∧
      ∃ published, removeExpiredTelemetryEntries cfg w now =
        { dropped with errors := Function.update w.errors .communicationFault false, published }) ∨
    (expiredAddresses cfg w now = [] ∧ dropped.telemetries.isEmpty = true ∧
      removeExpiredTelemetryEntries cfg w now = dropped) := by
  intro dropped
  simp only [removeExpiredTelemetryEntries, ne_eq, length_eq_zero_iff]
  split
  · rename_i h
    obtain ⟨published, hsignal⟩ := dropped.signalError_eq 0xFF .communicationFault true
    exact .inl ⟨h.1, h.2, published, hsignal⟩
  split
  · rename_i h
    obtain ⟨published, hsignal⟩ := dropped.signalError_eq 0xFF .communicationFault false
    exact .inr (.inl ⟨Bool.eq_false_of_not_eq_true h, published, hsignal⟩)
  · rename_i h h'
    rw [not_not] at h'
    exact .inr (.inr ⟨by_contra fun hne => h ⟨hne, h'⟩, h', rfl⟩)

def isRead : Command → Bool
  | .setModuleVI .. | .setModuleOnOff .. => false
  | _ => true

theorem isRead_of_mem_pollCommands {w : PowerSupply} {addr : Nat} {command : Command}
    (h : command ∈ w.pollCommands addr) : isRead command = true := by
  unfold pollCommands at h
  split at h
  all_goals
    simp only [cons_append, nil_append, append_nil, mem_cons, not_mem_nil, or_false] at h
    rcases h with rfl | h
    · rfl
    rcases h with rfl | h
    · rfl
  · rcases h with rfl | rfl | rfl <;> rfl
  · subst h
    rfl

theorem pollStatusHandler_eq :
    ∃ reads : List Command, (∀ command ∈ reads, isRead command = true) ∧
      pollStatusHandler cfg w now =
        { expireModules cfg w now with sent := reads ++ (expireModules cfg w now).sent } := by
  have hreads : ∀ v : PowerSupply,
      ∀ command ∈ (v.activeModuleAddresses.flatMap v.pollCommands).reverse,
        isRead command = true := by
    intro v command hmem
    rw [mem_reverse, mem_flatMap] at hmem
    obtain ⟨addr, -, hmem⟩ := hmem
    exact isRead_of_mem_pollCommands hmem
  simp only [pollStatusHandler, sendCommands_eq]
  cases cfg.operatingMode with
  | fixedAddress => exact ⟨_, hreads _, rfl⟩
  | groupDiscovery =>
    -- the module count is asked for first
    refine ⟨_ ++ [.readModuleCount cfg.groupAddress], ?_, by simp [sendCommand]; rfl⟩
    exact forall_mem_append.mpr ⟨hreads _, forall_mem_singleton.mpr rfl⟩

theorem initialPing_eq : ∃ activeModuleAddresses initialized sent,
    initialPing cfg =
      { activeModuleAddresses, initialized, sent, caps := cfg.initialCaps } := by
  unfold initialPing
  cases cfg.operatingMode with
  | groupDiscovery => exact ⟨_, _, _, rfl⟩
  | fixedAddress =>
    dsimp only
    rw [switchOnOff, sendCommands_eq]
    exact ⟨_, _, _, rfl⟩

end PowerSupply

/-! ## Steps -/

inductive Event
  | setMode (mode : Mode) (phase : ChargingPhase)
  | setExportVoltageCurrent (voltage current : Rat)
  | frame (sourceAddress : Nat) (packet : Packet) (now : Int)
  | poll (now : Int)
  deriving DecidableEq

def step (cfg : Config) (w : PowerSupply) : Event → PowerSupply
  | .setMode mode phase => w.handleSetMode mode phase
  | .setExportVoltageCurrent voltage current => w.handleSetExportVoltageCurrent voltage current
  | .frame sourceAddress packet now => w.rxHandler cfg sourceAddress now packet
  | .poll now => w.pollStatusHandler cfg now

end EverestCore.Infy
