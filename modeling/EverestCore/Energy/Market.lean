import EverestCore.Energy.Types

/-!
# The market

Every node of the request tree becomes a market place: its limits are resampled to
the common time slots, merged to the root side and cut by setpoints. What is sold
at a market place is booked at every place on the way to the root.
-/

namespace EverestCore.Energy

open EverestCore.Lib

/-! ## Time slots -/

structure EnergyManagerConfig where
  nominalAcVoltage : ℚ := 230
  updateInterval : Int := 1
  scheduleIntervalDuration : Int := 60
  scheduleTotalDuration : Int := 1
  sliceAmpere : ℚ := 1 / 2
  sliceWatt : ℚ := 500
  switch3ph1phWhileChargingMode : String := "Never"
  switch3ph1phMaxNrOfSwitchesPerSession : Int := 0
  switch3ph1phSwitchLimitStickyness : String := "DontChange"
  switch3ph1phPowerHysteresisW : Int := 200
  switch3ph1phTimeHysteresisS : Int := 600
deriving DecidableEq

structure Globals where
  startTime : Int
  timestamps : List Int
  sliceAmpere : ℚ
  sliceWatt : ℚ
deriving DecidableEq

def EnergyFlowNode.timestamps (node : EnergyFlowNode) : List Int :=
  node.scheduleImport.map (·.timestamp) ++ node.scheduleExport.map (·.timestamp) ++
    node.scheduleSetpoints.map (·.timestamp)

/-- The predefined slots and those of all requests, sorted and without duplicates.
The slots start at the beginning of the interval, shifted by the leap seconds
elapsed so far. -/
def createTimestamps (startTime intervalDuration leapSeconds : Int) (scheduleLength : Nat)
    (request : EnergyFlowRequest) : List Int :=
  let start := startTime - startTime.tmod intervalDuration
  let timepoint := start + leapSeconds
  let slots := (List.range scheduleLength).map fun i => timepoint + i * intervalDuration
  let all := slots ++ request.toList.flatMap EnergyFlowNode.timestamps
  (all.insertionSort (· ≤ ·)).destutter (· ≠ ·)

def Globals.init (config : EnergyManagerConfig) (startTime leapSeconds : Int)
    (request : EnergyFlowRequest) : Globals :=
  let intervalDuration := config.scheduleIntervalDuration * nanosPerMinute
  let scheduleLength := (config.scheduleTotalDuration * 60).tdiv config.scheduleIntervalDuration
  { startTime := startTime
    timestamps :=
      createTimestamps startTime intervalDuration leapSeconds scheduleLength.toNat request
    sliceAmpere := config.sliceAmpere
    sliceWatt := config.sliceWatt }

namespace Globals

variable (globals : Globals)

def scheduleLength : Nat := globals.timestamps.length

def emptyScheduleReq : ScheduleReq := globals.timestamps.map fun t => { timestamp := t }

def zeroScheduleReq : ScheduleReq :=
  globals.timestamps.map fun t =>
    { timestamp := t
      limitsToRoot := { acMaxCurrentA := some { value := 0 }, totalPowerW := some { value := 0 } } }

def emptyScheduleRes : ScheduleRes := globals.timestamps.map fun t => { timestamp := t }

def emptyScheduleSetpoints : ScheduleSetpoints :=
  globals.timestamps.map fun t => { timestamp := t }

end Globals

/-! ## Resampling -/

/-- The smaller of two optional values; of equal ones the second. -/
def minOptional {α β : Type} [LT β] [DecidableRel (α := β) (· < ·)] (value : α → β) :
    Option α → Option α → Option α
  | some a, some b => if value a < value b then some a else some b
  | some a, none => some a
  | none, b => b

/-- The greater of two optional values; of equal ones the second. -/
def maxOptional {α β : Type} [LT β] [DecidableRel (α := β) (· < ·)] (value : α → β) :
    Option α → Option α → Option α
  | some a, some b => if value b < value a then some a else some b
  | some a, none => some a
  | none, b => b

/-- The entry of a schedule that is in force at a time: the one whose time has come
and whose successor's has not, the first one also before its own time, or the last
one. -/
def entryAt {α : Type} (timestamp : α → Int) (t : Int) (begin : Bool) : List α → Option α
  | [] => none
  | [last] => some last
  | entry :: next :: rest =>
    if timestamp entry ≤ t ∧ t < timestamp next ∨ begin = true ∧ t < timestamp entry then
      some entry
    else entryAt timestamp t false (next :: rest)

variable (globals : Globals)

def resample (request : ScheduleSetpoints) : ScheduleSetpoints :=
  globals.emptyScheduleSetpoints.map fun s =>
    match entryAt ScheduleSetpointEntry.timestamp s.timestamp true request with
    | some r => { s with setpoint := r.setpoint }
    | none => s

/-- The limits of both sides of a node, merged on the root side. -/
def mergeLimits (r : ScheduleReqEntry) : LimitsReq where
  totalPowerW :=
    let leavesPowerW := r.limitsToLeaves.totalPowerW.map fun n =>
      { n with value := n.value / r.conversionEfficiency.getD 1 }
    minOptional NumberWithSource.value leavesPowerW r.limitsToRoot.totalPowerW
  acMaxCurrentA :=
    minOptional NumberWithSource.value r.limitsToLeaves.acMaxCurrentA r.limitsToRoot.acMaxCurrentA
  acMinPhaseCount :=
    maxOptional IntegerWithSource.value r.limitsToRoot.acMinPhaseCount
      r.limitsToLeaves.acMinPhaseCount
  acMaxPhaseCount :=
    minOptional IntegerWithSource.value r.limitsToRoot.acMaxPhaseCount
      r.limitsToLeaves.acMaxPhaseCount
  acMinCurrentA :=
    maxOptional NumberWithSource.value r.limitsToRoot.acMinCurrentA r.limitsToLeaves.acMinCurrentA
  acNumberOfActivePhases := r.limitsToRoot.acNumberOfActivePhases

def getMaxAvailableEnergy (request : ScheduleReq) : ScheduleReq :=
  globals.emptyScheduleReq.map fun a =>
    match entryAt ScheduleReqEntry.timestamp a.timestamp true request with
    | some r => { a with limitsToRoot := mergeLimits r, pricePerKwh := r.pricePerKwh }
    | none => a

/-! ## Setpoints -/

/-- The loop over the table: the power at the last frequency not above `freq`, that
frequency, and the power after it. -/
def freqTableLoop (freq watt1 freq1 watt2 : ℚ) : List FrequencyWattPoint → ℚ × ℚ × ℚ
  | [] => (watt1, freq1, watt2)
  | e :: rest =>
    if freq < e.frequencyHz then (watt1, freq1, e.totalPowerW)
    else freqTableLoop freq e.totalPowerW e.frequencyHz e.totalPowerW rest

def getWattFromFreqTable (table : List FrequencyWattPoint) (freq : ℚ) : ℚ :=
  match table with
  | [] => 0
  | [e] => e.totalPowerW
  | e :: _ =>
    let (watt1, freq1, watt2) := freqTableLoop freq e.totalPowerW 0 0 table
    watt1 + (freq - freq1) * (watt2 - watt1)

def applyLimitIfSmaller (base : Option NumberWithSource) (limit : ℚ) (source : String) :
    Option NumberWithSource :=
  match base with
  | some b => if limit < b.value then some ⟨limit, source⟩ else some b
  | none => some ⟨limit, source⟩

/-- A setpoint limits its own direction and closes the other one. -/
def applySetpointValue (value : ℚ) (source : String) (imp exp : Option NumberWithSource) :
    Option NumberWithSource × Option NumberWithSource :=
  if 0 ≤ value then (applyLimitIfSmaller imp value source, some ⟨0, source⟩)
  else (some ⟨0, source⟩, applyLimitIfSmaller exp (-value) source)

def applySetpointPower (value : ℚ) (source : String) (imp exp : LimitsReq) :
    LimitsReq × LimitsReq :=
  let r := applySetpointValue value source imp.totalPowerW exp.totalPowerW
  ({ imp with totalPowerW := r.1 }, { exp with totalPowerW := r.2 })

/-- Only one value of a setpoint counts: the current, the power or the table. -/
def applySetpoint (sp : SetpointType) (freq : Option ℚ) (imp exp : LimitsReq) :
    LimitsReq × LimitsReq :=
  match sp.acCurrentA, sp.totalPowerW, sp.frequencyTable, freq with
  | some value, _, _, _ =>
    let r := applySetpointValue value sp.source imp.acMaxCurrentA exp.acMaxCurrentA
    ({ imp with acMaxCurrentA := r.1 }, { exp with acMaxCurrentA := r.2 })
  | none, some value, _, _ => applySetpointPower value sp.source imp exp
  | none, none, some table, some freq =>
    applySetpointPower (getWattFromFreqTable table freq) sp.source imp exp
  | none, none, _, _ => (imp, exp)

def applySetpointEntry (freq : Option ℚ) (imp exp : ScheduleReqEntry)
    (s : ScheduleSetpointEntry) : ScheduleReqEntry × ScheduleReqEntry :=
  match s.setpoint with
  | some sp =>
    let r := applySetpoint sp freq imp.limitsToRoot exp.limitsToRoot
    ({ imp with limitsToRoot := r.1 }, { exp with limitsToRoot := r.2 })
  | none => (imp, exp)

def applySetpoints (imp exp : ScheduleReq) (setpoints : ScheduleSetpoints) (freq : Option ℚ) :
    ScheduleReq × ScheduleReq :=
  if setpoints.length ≠ imp.length then (imp, exp)
  else if setpoints.length ≠ exp.length then (imp, exp)
  else
    (((imp.zip exp).zip setpoints).map fun s => applySetpointEntry freq s.1.1 s.1.2 s.2).unzip

/-! ## Market places -/

structure MarketNode where
  energyFlowRequest : EnergyFlowNode
  importMaxAvailable : ScheduleReq
  exportMaxAvailable : ScheduleReq
  setpoints : ScheduleSetpoints
  soldRoot : ScheduleRes
deriving DecidableEq

/-- A market place has a parent unless its path is empty. -/
abbrev Market : Type := RoseTree MarketNode

/-- What is available of a schedule; where nothing was requested, nothing is. -/
def maxAvailable (schedule : ScheduleReq) : ScheduleReq :=
  if schedule.isEmpty then globals.zeroScheduleReq else getMaxAvailableEnergy globals schedule

def MarketNode.create (node : EnergyFlowNode) : MarketNode :=
  let setpoints :=
    if node.scheduleSetpoints.isEmpty then globals.emptyScheduleSetpoints
    else resample globals node.scheduleSetpoints
  let freq := node.energyUsageRootFrequencyHz.or node.energyUsageLeavesFrequencyHz
  let r := applySetpoints (maxAvailable globals node.scheduleImport)
    (maxAvailable globals node.scheduleExport) setpoints freq
  { energyFlowRequest := node
    importMaxAvailable := r.1
    exportMaxAvailable := r.2
    setpoints := setpoints
    soldRoot := globals.emptyScheduleRes }

def Market.create (request : EnergyFlowRequest) : Market :=
  request.map (MarketNode.create globals)

def Market.getListOfEvses (market : Market) : List (List Nat) :=
  market.pathsWhere fun node => node.energyFlowRequest.nodeType == .evse

/-! ## Available energy -/

/-- What was sold in a direction reduces what is left; what was sold in the other
one does not add to it. -/
def soldIn (addSold : Bool) (sold : Option NumberWithSource) : ℚ :=
  match sold with
  | some n => min ((if addSold then 1 else -1) * n.value) 0
  | none => 0

def addTo (limit : Option NumberWithSource) (sold : ℚ) : Option NumberWithSource :=
  limit.map fun n => { n with value := n.value + sold }

def getAvailableEntry (addSold : Bool) (available : ScheduleReqEntry) (sold : ScheduleResEntry) :
    ScheduleReqEntry :=
  { available with
    limitsToRoot := { available.limitsToRoot with
      acMaxCurrentA :=
        addTo available.limitsToRoot.acMaxCurrentA (soldIn addSold sold.limitsToRoot.acMaxCurrentA)
      totalPowerW :=
        addTo available.limitsToRoot.totalPowerW (soldIn addSold sold.limitsToRoot.totalPowerW) } }

namespace MarketNode

variable (node : MarketNode)

def getAvailableEnergyImport : ScheduleReq :=
  List.zipWith (getAvailableEntry false) node.importMaxAvailable node.soldRoot

def getAvailableEnergyExport : ScheduleReq :=
  List.zipWith (getAvailableEntry true) node.exportMaxAvailable node.soldRoot

end MarketNode

/-! ## Trades -/

def addNumber (a b : Option NumberWithSource) : Option NumberWithSource :=
  match b with
  | none => a
  | some b =>
    let source :=
      if b.value ≠ 0 then b.source
      else match a with
        | some a => a.source
        | none => ""
    some ⟨b.value + (a.map (·.value)).getD 0, source⟩

def addPhaseCount (a b : Option IntegerWithSource) : Option IntegerWithSource :=
  match a, b with
  | _, none => a
  | some a, some b => if a.value < b.value then some b else some a
  | none, some b => some b

def addEntry (a b : ScheduleResEntry) : ScheduleResEntry :=
  { a with
    limitsToRoot :=
      { acMaxCurrentA := addNumber a.limitsToRoot.acMaxCurrentA b.limitsToRoot.acMaxCurrentA
        totalPowerW := addNumber a.limitsToRoot.totalPowerW b.limitsToRoot.totalPowerW
        acMaxPhaseCount :=
          addPhaseCount a.limitsToRoot.acMaxPhaseCount b.limitsToRoot.acMaxPhaseCount } }

def scheduleAdd (a b : ScheduleRes) : ScheduleRes :=
  if a.length ≠ b.length then a else List.zipWith addEntry a b

/-- A trade at a market place is booked there and on the way to the root. -/
def Market.trade (market : Market) (path : List Nat) (traded : ScheduleRes) : Market :=
  market.modifyAlong (fun node => { node with soldRoot := scheduleAdd node.soldRoot traded }) path

end EverestCore.Energy
