import EverestCore.Energy.Market

/-!
# Offers and brokers

The offer at a market place is the minimum of what is available on the way from
the root. A broker buys slices of it for its EVSE, slot by slot; the fast charging
broker imports where it can and exports where it cannot.
-/

namespace EverestCore.Energy

open EverestCore.Lib IntegerWithSource

/-! ## Offers -/

/-- `apply_one_limit_if_smaller` and its sibling; `better` compares the new limit
with the one so far. Equal limits share their sources. -/
def applyOneLimit {α β : Type} [DecidableEq β] (value : α → β) (addSource : α → α → α)
    (better : β → β → Bool) (a b : Option α) : Option α :=
  match a, b with
  | _, none => a
  | some a, some b =>
    if better (value b) (value a) then some b
    else if value a = value b then some (addSource a b) else some a
  | none, some b => some b

def NumberWithSource.addSource (a b : NumberWithSource) : NumberWithSource :=
  { a with source := a.source ++ "," ++ b.source }

def IntegerWithSource.addSource (a b : IntegerWithSource) : IntegerWithSource :=
  { a with source := a.source ++ "," ++ b.source }

def applyNumberIfSmaller : Option NumberWithSource → Option NumberWithSource →
    Option NumberWithSource :=
  applyOneLimit NumberWithSource.value NumberWithSource.addSource fun b a => decide (b < a)

def applyNumberIfGreater : Option NumberWithSource → Option NumberWithSource →
    Option NumberWithSource :=
  applyOneLimit NumberWithSource.value NumberWithSource.addSource fun b a => decide (a < b)

def applyIntegerIfSmaller : Option IntegerWithSource → Option IntegerWithSource →
    Option IntegerWithSource :=
  applyOneLimit value addSource fun b a => decide (b < a)

def applyIntegerIfGreater : Option IntegerWithSource → Option IntegerWithSource →
    Option IntegerWithSource :=
  applyOneLimit value addSource fun b a => decide (a < b)

def applyLimitsEntry (a b : ScheduleReqEntry) : ScheduleReqEntry :=
  { a with
    limitsToRoot :=
      { acMaxCurrentA :=
          applyNumberIfSmaller a.limitsToRoot.acMaxCurrentA b.limitsToRoot.acMaxCurrentA
        acMaxPhaseCount :=
          applyIntegerIfSmaller a.limitsToRoot.acMaxPhaseCount b.limitsToRoot.acMaxPhaseCount
        totalPowerW := applyNumberIfSmaller a.limitsToRoot.totalPowerW b.limitsToRoot.totalPowerW
        acMinPhaseCount :=
          applyIntegerIfGreater a.limitsToRoot.acMinPhaseCount b.limitsToRoot.acMinPhaseCount
        acMinCurrentA :=
          applyNumberIfGreater a.limitsToRoot.acMinCurrentA b.limitsToRoot.acMinCurrentA
        acNumberOfActivePhases := b.limitsToRoot.acNumberOfActivePhases }
    pricePerKwh := b.pricePerKwh }

def applyLimits (a b : ScheduleReq) : ScheduleReq :=
  if a.length ≠ b.length then a else List.zipWith applyLimitsEntry a b

structure Offer where
  importOffer : ScheduleReq
  exportOffer : ScheduleReq
deriving DecidableEq

/-- From the root on, the limits of all market places on the way are applied. -/
def Offer.create (globals : Globals) (market : Market) (path : List Nat) : Offer where
  importOffer := (market.along path).foldl
    (fun offer node => applyLimits offer node.getAvailableEnergyImport) globals.emptyScheduleReq
  exportOffer := (market.along path).foldl
    (fun offer node => applyLimits offer node.getAvailableEnergyExport) globals.emptyScheduleReq

/-! ## Buying -/

inductive SlotType where
  | importing
  | exporting
  | undecided
deriving DecidableEq

structure Slot where
  firstTrade : Bool := true
  slotType : SlotType := .undecided
  numPhases : IntegerWithSource := ⟨0, "empty"⟩
deriving DecidableEq

structure SlotTrade where
  trading : LimitsRes
  traded : Bool := false
  firstTrade : Bool
deriving DecidableEq

def buyAmpereUnchecked (ampere : NumberWithSource) (numberOfPhases : IntegerWithSource)
    (t : SlotTrade) : SlotTrade :=
  { t with
    trading := { t.trading with
      acMaxCurrentA := some ampere
      acMaxPhaseCount := some numberOfPhases }
    traded := true
    firstTrade := false }

def buyWattUnchecked (watt : NumberWithSource) (t : SlotTrade) : SlotTrade :=
  { t with trading := { t.trading with totalPowerW := some watt }, traded := true }

/-- Export is booked with a minus sign. -/
def direction (isImport : Bool) : ℚ := if isImport then 1 else -1

/-- Buy a current, with the power it stands for where power is limited too; the
result says whether anything was bought. -/
def buyAmpere (voltage : ℚ) (offer : LimitsReq) (ampere : ℚ) (allowLess isImport : Bool)
    (numberOfPhases : IntegerWithSource) (t : SlotTrade) : SlotTrade × Bool :=
  match offer.acMaxCurrentA with
  | none => (t, false)
  | some maxCurrent =>
    -- a current and its power, as far as power is limited
    let buyBoth (amount : ℚ) (source : String) : SlotTrade :=
      buyWattUnchecked ⟨direction isImport * amount * numberOfPhases.value * voltage, source⟩
        (buyAmpereUnchecked ⟨direction isImport * amount, source⟩ numberOfPhases t)
    let buyCurrent (amount : ℚ) : SlotTrade :=
      buyAmpereUnchecked ⟨direction isImport * amount, maxCurrent.source⟩ numberOfPhases t
    let leftovers : SlotTrade × Bool :=
      if allowLess = true ∧ 0 < maxCurrent.value then
        match offer.totalPowerW with
        | some totalPower =>
          if 0 < totalPower.value then
            if maxCurrent.value * numberOfPhases.value * voltage ≤ totalPower.value then
              (buyBoth maxCurrent.value maxCurrent.source, true)
            else
              (buyBoth (totalPower.value / numberOfPhases.value / voltage) totalPower.source,
                true)
          else (t, false)
        | none => (buyCurrent maxCurrent.value, true)
      else (t, false)
    if ampere ≤ maxCurrent.value then
      match offer.totalPowerW with
      | some totalPower =>
        if ampere * numberOfPhases.value * voltage ≤ totalPower.value then
          (buyBoth ampere maxCurrent.source, true)
        else leftovers
      | none => (buyCurrent ampere, true)
    else leftovers

def buyWatt (offer : LimitsReq) (watt : ℚ) (allowLess isImport : Bool) (t : SlotTrade) :
    SlotTrade × Bool :=
  match offer.totalPowerW with
  | none => (t, false)
  | some totalPower =>
    if watt ≤ totalPower.value then
      (buyWattUnchecked ⟨direction isImport * watt, totalPower.source⟩ t, true)
    else if allowLess = true ∧ 0 < totalPower.value then
      (buyWattUnchecked ⟨direction isImport * totalPower.value, totalPower.source⟩ t, true)
    else (t, false)

/-! ## One or three phases -/

inductive Switch1ph3phMode where
  | never
  | oneway
  | both
deriving DecidableEq

inductive StickyNess where
  | singlePhase
  | threePhase
  | dontChange
deriving DecidableEq

structure BrokerConfig where
  switch1ph3phMode : Switch1ph3phMode := .never
  stickyness : StickyNess := .dontChange
  maxNrOfSwitchesPerSession : Int := 0
  powerHysteresisW : Int := 200
  timeHysteresisS : Int := 600
deriving DecidableEq

structure BrokerContext where
  number1ph3phCycles : Int := 0
  lastAcNumberOfActivePhasesImport : Int := 0
  ts1phOptimal : Int
deriving DecidableEq

def fallbackPhases : IntegerWithSource := ⟨3, "BrokerFastCharging_Fallback"⟩

namespace LimitsReq

variable (offer : LimitsReq)

/-- If not specified, three phases are assumed to be active. -/
def activePhases : Int := offer.acNumberOfActivePhases.getD 3

def maxPhases : IntegerWithSource := offer.acMaxPhaseCount.getD fallbackPhases

def minPhases : IntegerWithSource := offer.acMinPhaseCount.getD fallbackPhases

/-- The power needed to charge with the minimal current on all phases. -/
def minPower3ph (voltage : ℚ) : ℚ :=
  match offer.acMinCurrentA with
  | some minCurrent => minCurrent.value * offer.maxPhases.value * voltage
  | none => 0

end LimitsReq

/-- What a broker reads in one trade, for all slots. -/
structure TradeEnv where
  config : BrokerConfig
  voltage : ℚ
  startTime : Int
  sliceAmpere : ℚ
  sliceWatt : ℚ
  now : Int
deriving DecidableEq

section

variable (env : TradeEnv) (offer : LimitsReq)

def optimalPhases (totalPower : NumberWithSource) : IntegerWithSource :=
  if totalPower.value < offer.minPower3ph env.voltage then
    ⟨offer.minPhases.value, totalPower.source⟩
  else if env.config.switch1ph3phMode = .both ∧
      offer.minPower3ph env.voltage + env.config.powerHysteresisW < totalPower.value then
    offer.maxPhases
  else ⟨offer.activePhases, "BrokerFastCharging_KeepNrOfPhases"⟩

def switchingCyclesReached (context : BrokerContext) : Bool :=
  0 < env.config.maxNrOfSwitchesPerSession &&
    env.config.maxNrOfSwitchesPerSession < context.number1ph3phCycles

/-- The number of phases when no more switches are left. -/
def stickyPhases : IntegerWithSource :=
  match env.config.stickyness with
  | .singlePhase => offer.minPhases
  | .threePhase => offer.maxPhases
  | .dontChange => ⟨offer.activePhases, "BrokerFastCharging_KeepNrOfPhases"⟩

/-- The time since one phase was optimal, in seconds. -/
def stable3ph (context : BrokerContext) : Int :=
  (env.startTime - context.ts1phOptimal).tdiv nanosPerSecond

/-- The phases of the first trade when switching is possible: what is optimal, what
the number of switches allows, and what the time hysteresis allows. -/
def switchedPhases (active : Bool) (totalPower : NumberWithSource) (context : BrokerContext) :
    IntegerWithSource × BrokerContext :=
  let wanted := if switchingCyclesReached env context then stickyPhases env offer
    else optimalPhases env offer totalPower
  let context :=
    if wanted.value = offer.minPhases.value ∧ active = true then
      { context with ts1phOptimal := env.now }
    else context
  let granted :=
    if (0 < env.config.timeHysteresisS ∧ active = true) ∧
        stable3ph env context < env.config.timeHysteresisS ∧
        wanted.value = offer.maxPhases.value then offer.minPhases
    else wanted
  (granted, context)

/-- The number of phases for an import, whether the switches are used up, and the
context with the decision. -/
def decidePhases (active firstTrade : Bool) (context : BrokerContext) :
    IntegerWithSource × Bool × BrokerContext :=
  let (numberOfPhases, reached, context) : IntegerWithSource × Bool × BrokerContext :=
    if firstTrade then
      match offer.totalPowerW with
      | some totalPower =>
        if env.config.switch1ph3phMode ≠ .never ∧ 0 < offer.minPower3ph env.voltage then
          let r := switchedPhases env offer active totalPower context
          (r.1, switchingCyclesReached env context, r.2)
        else (offer.maxPhases, false, context)
      | none => (offer.maxPhases, false, context)
    else (⟨offer.activePhases, "BrokerFastCharging_Default"⟩, false, context)
  let cycles :=
    if offer.activePhases ≠ context.lastAcNumberOfActivePhasesImport then
      context.number1ph3phCycles + 1
    else context.number1ph3phCycles
  (numberOfPhases, reached,
    { context with
      number1ph3phCycles := cycles
      lastAcNumberOfActivePhasesImport := offer.activePhases })

end

/-! ## The fast charging broker -/

def LimitsReq.closed (offer : LimitsReq) : Bool :=
  offer.totalPowerW.any (·.value == 0) || offer.acMaxCurrentA.any (·.value == 0)

def decideSlotType (imp exp : LimitsReq) (slotType : SlotType) : SlotType :=
  if slotType = .undecided then
    if !imp.closed then .importing
    else if !exp.closed then .exporting
    else .undecided
  else slotType

/-- The minimal current of the first trade, if there is one to be bought. -/
def firstMinCurrent (firstTrade : Bool) (offer : LimitsReq) : Option ℚ :=
  if firstTrade then
    match offer.acMinCurrentA with
    | some minCurrent => if 0 < minCurrent.value then some minCurrent.value else none
    | none => none
  else none

variable (env : TradeEnv)

/-- Import with a current limit: the minimal current first, on one phase if it
cannot be had otherwise, and slices after that. -/
def tradeImportAmpere (active : Bool) (imp : LimitsReq) (slot : Slot)
    (context : BrokerContext) (t : SlotTrade) : Slot × BrokerContext × SlotTrade :=
  let (numberOfPhases, reached, context) := decidePhases env imp active slot.firstTrade context
  match firstMinCurrent slot.firstTrade imp with
  | some minCurrent =>
    let r := buyAmpere env.voltage imp minCurrent false true numberOfPhases t
    if r.2 = false ∧ env.config.switch1ph3phMode ≠ .never ∧ reached = false then
      let onePhase : IntegerWithSource := ⟨1, "BrokerFastCharging_Buy3phFailed"⟩
      ({ slot with numPhases := onePhase }, context,
        (buyAmpere env.voltage imp minCurrent false true onePhase r.1).1)
    else ({ slot with numPhases := numberOfPhases }, context, r.1)
  | none =>
    (slot, context, (buyAmpere env.voltage imp env.sliceAmpere true true slot.numPhases t).1)

def exportPhases : IntegerWithSource := ⟨3, "BrokerFastCharging_FixedValue"⟩

def tradeExport (exp : LimitsReq) (slot : Slot) (t : SlotTrade) : SlotTrade :=
  match exp.acMaxCurrentA, exp.totalPowerW with
  | some _, _ =>
    match firstMinCurrent slot.firstTrade exp with
    | some minCurrent => (buyAmpere env.voltage exp minCurrent false false exportPhases t).1
    | none => (buyAmpere env.voltage exp env.sliceAmpere true false exportPhases t).1
  | none, some _ => (buyWatt exp env.sliceWatt true false t).1
  | none, none => t

def noTrade (imp : LimitsReq) (firstTrade : Bool) : SlotTrade where
  trading :=
    { acMaxCurrentA := imp.acMaxCurrentA.map fun _ => ⟨0, ""⟩
      totalPowerW := imp.totalPowerW.map fun _ => ⟨0, ""⟩ }
  firstTrade := firstTrade

def Slot.ready (imp exp : LimitsReq) (slot : Slot) : Slot :=
  { slot with
    slotType := decideSlotType imp exp slot.slotType
    numPhases :=
      if slot.numPhases.value = 0 then ⟨imp.activePhases, "BrokerFastCharging_NumPhasesActive"⟩
      else slot.numPhases }

def tradeSlot (active : Bool) (imp exp : LimitsReq) (slot : Slot)
    (context : BrokerContext) : Slot × BrokerContext × SlotTrade :=
  let slot := slot.ready imp exp
  let t := noTrade imp slot.firstTrade
  let (slot, context, t) : Slot × BrokerContext × SlotTrade :=
    match slot.slotType with
    | .importing =>
      match imp.acMaxCurrentA, imp.totalPowerW with
      | some _, _ => tradeImportAmpere env active imp slot context t
      | none, some _ => (slot, context, (buyWatt imp env.sliceWatt true true t).1)
      | none, none => (slot, context, t)
    | .exporting => (slot, context, tradeExport env exp slot t)
    | .undecided => (slot, context, t)
  ({ slot with firstTrade := t.firstTrade }, context, t)

/-- The slot the start time falls into, searched between the first and the last. -/
def searchSlot (now : Int) (n : Nat) : List Int → Nat
  | t₁ :: t₂ :: rest => if t₁ < now ∧ now < t₂ then n else searchSlot now (n + 1) (t₂ :: rest)
  | _ => 0

def activeSlot (now : Int) (timestamps : List Int) : Nat :=
  match timestamps.head?, timestamps.getLast? with
  | some first, some last =>
    if now < first then 0
    else if last < now then timestamps.length - 1
    else searchSlot now 0 timestamps
  | _, _ => 0

def timeSlotActive (startTime : Int) (i : Nat) (offer : ScheduleReq) : Bool :=
  activeSlot startTime (offer.map (·.timestamp)) == i

def tradeSlots (env : TradeEnv) (active : Nat → Bool) (i : Nat) (context : BrokerContext) :
    List (ScheduleReqEntry × ScheduleReqEntry × Slot) →
      List Slot × BrokerContext × List (ScheduleResEntry × Bool)
  | [] => ([], context, [])
  | (imp, exp, slot) :: rest =>
    let r := tradeSlot env (active i) imp.limitsToRoot exp.limitsToRoot slot context
    let next := tradeSlots env active (i + 1) r.2.1 rest
    (r.1 :: next.1, next.2.1,
      (⟨imp.timestamp, r.2.2.trading⟩, r.2.2.traded) :: next.2.2)

structure Broker where
  path : List Nat
  uuid : String
  slots : List Slot
deriving DecidableEq

def Broker.tradeImpl (offer : Offer) (broker : Broker)
    (context : BrokerContext) : Broker × BrokerContext × ScheduleRes × Bool :=
  let r := tradeSlots env (timeSlotActive env.startTime · offer.importOffer) 0 context
    (offer.importOffer.zip (offer.exportOffer.zip broker.slots))
  ({ broker with slots := r.1 }, r.2.1, r.2.2.map (·.1), r.2.2.any (·.2))

end EverestCore.Energy
