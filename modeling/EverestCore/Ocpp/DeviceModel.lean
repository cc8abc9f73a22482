import Mathlib

/-!
# The composed device model

`ComposedDeviceModelStorage` of the OCPP 2.0.1 module puts several device model storages
together: the one of libocpp, registered as `OCPP`, and the one of EVerest.

Maps are `Std.TreeMap`, iterated in the order of their keys as `std::map` is.
-/

namespace EverestCore.Ocpp.DeviceModel

/-! ## Storages -/

inductive AttributeEnum
  | actual | target | minSet | maxSet
  deriving DecidableEq

inductive SetVariableStatusEnum
  | accepted | rejected | unknownComponent | unknownVariable | notSupportedAttributeType
  | rebootRequired
  deriving DecidableEq

/-- `ocpp::v2::VariableMetaData`; only the source is looked at here. -/
structure VariableMetaData (μ : Type) where
  source : Option String
  data : μ
  deriving DecidableEq

abbrev VariableMap (ν μ : Type) [Ord ν] := Std.TreeMap ν (VariableMetaData μ)

abbrev DeviceModelMap (κ ν μ : Type) [Ord κ] [Ord ν] := Std.TreeMap κ (VariableMap ν μ)

/-- `DeviceModelStorageInterface` for storages with states in `σ`; `κ` are the components,
`ν` the variables and `α` the variable attributes. -/
structure StorageInterface (σ κ ν μ α : Type) [Ord κ] [Ord ν] where
  getDeviceModel : σ → DeviceModelMap κ ν μ
  getVariableAttribute : σ → κ → ν → AttributeEnum → Option α
  getVariableAttributes : σ → κ → ν → Option AttributeEnum → List α
  setVariableAttributeValue : σ → κ → ν → AttributeEnum → String → String →
    SetVariableStatusEnum × σ

/-- The sources of variables, by component. -/
abbrev SourceMap (κ ν : Type) [Ord κ] [Ord ν] := Std.TreeMap κ (Std.TreeMap ν String)

structure ComposedDeviceModelStorage (σ κ ν : Type) [Ord κ] [Ord ν] where
  deviceModelStorages : Std.TreeMap String σ := {}
  componentVariableSourceMap : SourceMap κ ν := {}

def variableSourceOcpp : String := "OCPP"

/-! ## The composed storage -/

section

variable {σ κ ν μ α : Type} [LinearOrder κ] [LinearOrder ν]

def VariableMetaData.sourceOrOcpp (metaData : VariableMetaData μ) : String :=
  metaData.source.getD variableSourceOcpp

variable (sources : SourceMap κ ν)

def addSource (componentId : κ) (variableId : ν) (source : String) :
    SourceMap κ ν :=
  sources.insert componentId ((sources.getD componentId ∅).insert variableId source)

def addVariables (componentId : κ) (variableMap : VariableMap ν μ) :
    SourceMap κ ν :=
  variableMap.foldl (fun sources variableId metaData =>
    addSource sources componentId variableId metaData.sourceOrOcpp) sources

def addSources (model : DeviceModelMap κ ν μ) : SourceMap κ ν :=
  model.foldl addVariables sources

/-- `device_model_map.merge(other)`: what the map has stays. -/
def merge (model other : DeviceModelMap κ ν μ) : DeviceModelMap κ ν μ := other ∪ model

variable (I : StorageInterface σ κ ν μ α)

namespace ComposedDeviceModelStorage

variable (s : ComposedDeviceModelStorage σ κ ν)

def registerDeviceModelStorage (id : String)
    (storage : σ) : Bool × ComposedDeviceModelStorage σ κ ν :=
  if s.deviceModelStorages.contains id then (false, s)
  else
    (true,
      { deviceModelStorages := s.deviceModelStorages.insert id storage
        componentVariableSourceMap :=
          addSources s.componentVariableSourceMap (I.getDeviceModel storage) })

def getDeviceModel : DeviceModelMap κ ν μ :=
  s.deviceModelStorages.foldl (fun model _ storage => merge model (I.getDeviceModel storage)) ∅

def getVariableSource (componentId : κ) (variableId : ν) :
    String :=
  match s.componentVariableSourceMap[componentId]? with
  | none => variableSourceOcpp
  | some variableMap =>
    match variableMap[variableId]? with
    | none => variableSourceOcpp
    | some source => source

def getVariableAttribute (componentId : κ) (variableId : ν)
    (attributeEnum : AttributeEnum) : Option α :=
  match s.deviceModelStorages[s.getVariableSource componentId variableId]? with
  | none => none
  | some storage => I.getVariableAttribute storage componentId variableId attributeEnum

def getVariableAttributes (componentId : κ) (variableId : ν)
    (attributeEnum : Option AttributeEnum) : List α :=
  match s.deviceModelStorages[s.getVariableSource componentId variableId]? with
  | none => []
  | some storage => I.getVariableAttributes storage componentId variableId attributeEnum

/-- The storage is changed in place. -/
def setVariableAttributeValue (componentId : κ)
    (variableId : ν) (attributeEnum : AttributeEnum) (value valueSource : String) :
    SetVariableStatusEnum × ComposedDeviceModelStorage σ κ ν :=
  let id := s.getVariableSource componentId variableId
  match s.deviceModelStorages[id]? with
  | none => (.rejected, s)
  | some storage =>
    let (status, storage') :=
      I.setVariableAttributeValue storage componentId variableId attributeEnum value valueSource
    (status, { s with deviceModelStorages := s.deviceModelStorages.insert id storage' })

def registerAll (calls : List (String × σ)) :
    ComposedDeviceModelStorage σ κ ν :=
  calls.foldl (fun s call => (s.registerDeviceModelStorage I call.1 call.2).2) s

end ComposedDeviceModelStorage

end

end EverestCore.Ocpp.DeviceModel
