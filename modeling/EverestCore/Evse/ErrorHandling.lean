import Mathlib
import EverestCore.Lib.Machine

/-!
# Error handling of the EVSE manager

`ErrorHandling` watches the errors active on the EVSE itself and on the hardware
interfaces it uses. As long as one of them prevents charging it keeps the error
`evse_manager/Inoperative` raised, and it tells the charger through a queue of
events which kind of shutdown to do.
-/

namespace EverestCore.Evse

inductive Severity where
  | high
  | medium
  | low
deriving DecidableEq

structure Error where
  type : String
  subType : String := ""
  message : String := ""
  description : String := ""
  vendorId : String := ""
  severity : Severity
deriving DecidableEq

/-- The EVSE itself and the interfaces whose errors are watched. -/
inductive Interface where
  | evse
  | bsp
  | connectorLock
  | acRcd
  | imd
  | powersupply
  | powermeter
  | overVoltageMonitor
deriving DecidableEq

inductive ErrorHandlingEvents where
  | forceErrorShutdown
  | forceEmergencyShutdown
  | allErrorsPreventingChargingCleared
  | allErrorCleared
deriving DecidableEq

inductive ShutdownType where
  | none
  | errorShutdown
  | emergencyShutdown
deriving DecidableEq

/-- The order in which the interfaces are searched for a fatal error. -/
def searchedInterfaces : List Interface :=
  [.evse, .bsp, .connectorLock, .acRcd, .imd, .powersupply, .powermeter, .overVoltageMonitor]

def countedInterfaces : List Interface :=
  [.evse, .bsp, .connectorLock, .acRcd, .imd, .powersupply, .powermeter]

def inoperativeType : String := "evse_manager/Inoperative"

/-- Errors that do not prevent charging. `Inoperative` is ignored on the EVSE as
it is the result of this check. -/
def ignoreErrors : Interface → List String
  | .evse => [inoperativeType]
  | .bsp => ["evse_board_support/MREC3HighTemperature",
      "evse_board_support/MREC18CableOverTempDerate", "evse_board_support/VendorWarning"]
  | .connectorLock => ["connector_lock/VendorWarning"]
  | .acRcd => ["ac_rcd/VendorWarning"]
  | .imd => ["isolation_monitor/VendorWarning"]
  | .powersupply => ["power_supply_DC/VendorWarning"]
  | .powermeter => []
  | .overVoltageMonitor => ["over_voltage_monitor/VendorWarning"]

/-- Which optional interfaces are connected, the vendor id option, and the
descriptions the error factory takes from the declared error types. -/
structure Config where
  connected : Interface → Bool
  inoperativeErrorUseVendorId : Bool
  typeDescription : String → String

variable (cfg : Config)

/-- EVSE and BSP are always there. -/
def Config.present : Interface → Bool
  | .evse => true
  | .bsp => true
  | interface => cfg.connected interface

/-- The active errors per interface, in the order their monitor lists them, the
events waiting for the error thread and the charger's shutdown type. -/
structure State where
  active : Interface → List Error := fun _ => []
  queue : List ErrorHandlingEvents := []
  shutdownType : ShutdownType := .none

namespace State

variable (s : State)

variable (interface : Interface)

def setActive (errors : List Error) : State :=
  { s with active := Function.update s.active interface errors }

def isErrorActive (type subType : String) : Bool :=
  (s.active interface).any fun e => e.type == type && e.subType == subType

/-- An error is raised unless it is active already; the monitor lists errors in
an order of its own, so it may appear anywhere in the list. -/
def raiseError (position : Nat) (error : Error) : State :=
  if s.isErrorActive interface error.type error.subType then s
  else
    s.setActive interface
      ((s.active interface).insertIdx (min position (s.active interface).length) error)

def clearError (type subType : String) : State :=
  s.setActive interface
    ((s.active interface).filter fun e => !(e.type == type && e.subType == subType))

def push (event : ErrorHandlingEvents) : State :=
  { s with queue := s.queue ++ [event] }

end State

/-- The text of `Inoperative`: the causing error's type without its interface,
and its sub type. -/
def generateDescription (error : Error) : String :=
  let chars := error.type.toList
  match chars.findIdx? (· == '/') with
  | none => error.description
  | some n =>
    let result :=
      if n + 1 = chars.length then chars.take n
      else
        let rest := chars.drop (n + 1)
        if rest.getLast? = some '/' then rest.dropLast else rest
    String.ofList result ++ (if error.subType = "" then "" else "/" ++ error.subType)

/-! ## Processing a change -/

section

variable (cfg : Config)

def isFatal (errors : List Error) (ignoreList : List String) : Option Error :=
  errors.find? fun e => ignoreList.all fun ignored => e.type != ignored

variable (s : State)

def errorsPreventCharging : Option Error :=
  searchedInterfaces.findSome? fun interface =>
    if cfg.present interface then isFatal (s.active interface) (ignoreErrors interface)
    else none

def inoperativeError (causedBy : Error) : Error where
  type := inoperativeType
  message := causedBy.type
  description := generateDescription causedBy
  vendorId :=
    if cfg.inoperativeErrorUseVendorId && causedBy.vendorId != "" then causedBy.vendorId
    else "EVerest"
  severity := .high

/-- `Inoperative` is not raised twice, and then no shutdown is signalled either. -/
def raiseInoperativeError (causedBy : Error) : State :=
  if s.isErrorActive .evse inoperativeType "" then s
  else
    (s.raiseError .evse (s.active .evse).length (inoperativeError cfg causedBy)).push
      (if causedBy.severity = .high then .forceEmergencyShutdown else .forceErrorShutdown)

def clearInoperativeError : State :=
  if s.isErrorActive .evse inoperativeType "" then
    (s.clearError .evse inoperativeType "").push .allErrorsPreventingChargingCleared
  else s

def errorCount : Nat :=
  (countedInterfaces.map fun interface =>
    if cfg.present interface then (s.active interface).length else 0).sum

def processError : State :=
  let s := match errorsPreventCharging cfg s with
    | some fatal => raiseInoperativeError cfg s fatal
    | none => clearInoperativeError s
  if errorCount cfg s = 0 then s.push .allErrorCleared else s

end

/-! ## The charger's error thread -/

def handleEvent : ShutdownType → ErrorHandlingEvents → ShutdownType
  | _, .forceErrorShutdown => .errorShutdown
  | _, .forceEmergencyShutdown => .emergencyShutdown
  | _, .allErrorsPreventingChargingCleared => .none
  | _, .allErrorCleared => .none

variable (s : State)

def State.drained : ShutdownType := s.queue.foldl handleEvent s.shutdownType

def drain : State := { s with queue := [], shutdownType := s.drained }

/-! ## Changes of the active errors -/

inductive Change where
  | raise (interface : Interface) (position : Nat) (error : Error)
  | clear (interface : Interface) (type subType : String)
deriving DecidableEq

/-- `Inoperative` is raised and cleared by the error handling alone. -/
def Change.Foreign : Change → Prop
  | .raise interface _ error => interface = .evse → error.type ≠ inoperativeType
  | .clear interface type _ => interface = .evse → type ≠ inoperativeType

abbrev ForeignChange := { change : Change // change.Foreign }

def applyChange : Change → State
  | .raise interface position error => s.raiseError interface position error
  | .clear interface type subType => s.clearError interface type subType

/-- Either a number of changes and the `processError` that follows them, or the
error thread working off its queue. -/
inductive Label where
  | changes (changes : List ForeignChange)
  | drain

def applyChanges (changes : List ForeignChange) : State :=
  changes.foldl (fun s change => applyChange s change.1) s

def step : Label → State
  | .changes changes => processError cfg (applyChanges s changes)
  | .drain => drain s

/-! ## Errors raised by the EVSE manager itself -/

/-- An error the EVSE manager raises on its own interface. -/
structure EvseError where
  type : String
  subType : String
  severity : Severity
  own : type ≠ inoperativeType

def overCurrent : EvseError :=
  ⟨"evse_manager/MREC4OverCurrentFailure", "", .high, by decide⟩

def internal : EvseError := ⟨"evse_manager/Internal", "", .high, by decide⟩

def authorizationTimeout : EvseError :=
  ⟨"evse_manager/MREC9AuthorizationTimeout", "", .medium, by decide⟩

def powermeterTransactionStartFailed : EvseError :=
  ⟨"evse_manager/PowermeterTransactionStartFailed", "", .medium, by decide⟩

def isolationResistanceFault : EvseError :=
  ⟨"evse_manager/MREC22ResistanceFault", "", .medium, by decide⟩

def cableCheckFault : EvseError :=
  ⟨"evse_manager/MREC11CableCheckFault", "Self test failed", .medium, by decide⟩

namespace EvseError

variable (cfg : Config) (kind : EvseError)

def create (message : String) : Error where
  type := kind.type
  subType := kind.subType
  message := message
  description := cfg.typeDescription kind.type
  severity := kind.severity

def raise (position : Nat) (message : String) (s : State) : State :=
  processError cfg (s.raiseError .evse position (kind.create cfg message))

def clear (s : State) : State :=
  if s.isErrorActive .evse kind.type kind.subType then
    processError cfg (s.clearError .evse kind.type kind.subType)
  else s

def clearAndProcess (s : State) : State :=
  processError cfg
    (if s.isErrorActive .evse kind.type kind.subType then
      s.clearError .evse kind.type kind.subType
    else s)

end EvseError

def raiseOvercurrentError := overCurrent.raise cfg
def clearOvercurrentError := overCurrent.clearAndProcess cfg
def raiseInternalError := internal.raise cfg
def clearInternalError := internal.clear cfg
def raiseAuthorizationTimeoutError := authorizationTimeout.raise cfg
def clearAuthorizationTimeoutError := authorizationTimeout.clear cfg
def raisePowermeterTransactionStartFailedError :=
  powermeterTransactionStartFailed.raise cfg
def clearPowermeterTransactionStartFailedError :=
  powermeterTransactionStartFailed.clear cfg
def raiseIsolationResistanceFault := isolationResistanceFault.raise cfg
def clearIsolationResistanceFault := isolationResistanceFault.clear cfg
def raiseCableCheckFault := cableCheckFault.raise cfg
def clearCableCheckFault := cableCheckFault.clear cfg

end EverestCore.Evse
