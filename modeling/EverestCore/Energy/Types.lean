import EverestCore.Lib.RoseTree

/-!
# Energy flow requests

The types of the energy interface as the energy manager reads and returns them.
Numbers are rational, time points are nanoseconds. The tree of requests is a
`RoseTree` of what each node asks for.
-/

namespace EverestCore.Energy

open EverestCore.Lib

structure NumberWithSource where
  value : ℚ
  source : String := ""
deriving DecidableEq

structure IntegerWithSource where
  value : Int
  source : String := ""
deriving DecidableEq

inductive NodeType where
  | undefined
  | evse
  | generic
deriving DecidableEq

inductive EvseState where
  | unplugged
  | waitForAuth
  | waitForEnergy
  | prepareCharging
  | pausedEV
  | pausedEVSE
  | charging
  | finished
  | disabled
deriving DecidableEq

/-- Limits asked for. They are positive numbers by their description, and phase
counts lie between 1 and 3; nothing enforces either. -/
structure LimitsReq where
  totalPowerW : Option NumberWithSource := none
  acMaxCurrentA : Option NumberWithSource := none
  acMinCurrentA : Option NumberWithSource := none
  acMaxPhaseCount : Option IntegerWithSource := none
  acMinPhaseCount : Option IntegerWithSource := none
  acNumberOfActivePhases : Option Int := none
deriving DecidableEq

/-- Limits granted; negative numbers mean export. -/
structure LimitsRes where
  totalPowerW : Option NumberWithSource := none
  acMaxCurrentA : Option NumberWithSource := none
  acMaxPhaseCount : Option IntegerWithSource := none
deriving DecidableEq

structure FrequencyWattPoint where
  frequencyHz : ℚ
  totalPowerW : ℚ
deriving DecidableEq

structure SetpointType where
  acCurrentA : Option ℚ := none
  totalPowerW : Option ℚ := none
  frequencyTable : Option (List FrequencyWattPoint) := none
  source : String := ""
deriving DecidableEq

structure ScheduleSetpointEntry where
  timestamp : Int
  setpoint : Option SetpointType := none
deriving DecidableEq

structure PricePerkWh where
  timestamp : Int
  value : ℚ
  currency : String
deriving DecidableEq

structure ScheduleReqEntry where
  timestamp : Int
  limitsToRoot : LimitsReq := {}
  limitsToLeaves : LimitsReq := {}
  conversionEfficiency : Option ℚ := none
  pricePerKwh : Option PricePerkWh := none
deriving DecidableEq

structure ScheduleResEntry where
  timestamp : Int
  limitsToRoot : LimitsRes := {}
deriving DecidableEq

abbrev ScheduleReq : Type := List ScheduleReqEntry
abbrev ScheduleRes : Type := List ScheduleResEntry
abbrev ScheduleSetpoints : Type := List ScheduleSetpointEntry

/-- What one node of the tree asks for. Of the two meters only the frequency of L1
is read. -/
structure EnergyFlowNode where
  uuid : String := ""
  nodeType : NodeType := .undefined
  priorityRequest : Option Bool := none
  evseState : Option EvseState := none
  energyUsageRootFrequencyHz : Option ℚ := none
  energyUsageLeavesFrequencyHz : Option ℚ := none
  scheduleImport : ScheduleReq := []
  scheduleExport : ScheduleReq := []
  scheduleSetpoints : ScheduleSetpoints := []
deriving DecidableEq

abbrev EnergyFlowRequest : Type := RoseTree EnergyFlowNode

structure EnforcedLimits where
  uuid : String
  validFor : Int
  limitsRootSide : LimitsRes
  schedule : ScheduleRes
deriving DecidableEq

/-! ## Time -/

def nanosPerMinute : Int := 60 * 1000000000

def nanosPerSecond : Int := 1000000000

end EverestCore.Energy
