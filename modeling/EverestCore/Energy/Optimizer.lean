import EverestCore.Energy.Broker

/-!
# The optimizer

One run of the energy manager: a market for the request, one broker for each EVSE,
and rounds in which every broker trades once, until nobody trades any more.
-/

namespace EverestCore.Energy

open EverestCore.Lib

/-- The contexts of all EVSEs, by uuid. -/
abbrev Contexts : Type := String → Option BrokerContext

/-- What one run is given: the configuration, the time slots, and the readings of
the clock, in the order they are taken. -/
structure Run where
  config : EnergyManagerConfig
  globals : Globals
  clock : Nat → Int

def toSwitch1ph3phMode (m : String) : Switch1ph3phMode :=
  if m = "Both" then .both else if m = "Oneway" then .oneway else .never

def toStickyness (m : String) : StickyNess :=
  if m = "DontChange" then .dontChange
  else if m = "SinglePhase" then .singlePhase
  else .threePhase

def toBrokerFastChargingConfig (config : EnergyManagerConfig) : BrokerConfig where
  maxNrOfSwitchesPerSession := config.switch3ph1phMaxNrOfSwitchesPerSession
  powerHysteresisW := config.switch3ph1phPowerHysteresisW
  switch1ph3phMode := toSwitch1ph3phMode config.switch3ph1phWhileChargingMode
  timeHysteresisS := config.switch3ph1phTimeHysteresisS
  stickyness := toStickyness config.switch3ph1phSwitchLimitStickyness

variable (run : Run)

def Run.tradeEnv (now : Int) : TradeEnv where
  config := toBrokerFastChargingConfig run.config
  voltage := run.config.nominalAcVoltage
  startTime := run.globals.startTime
  sliceAmpere := run.globals.sliceAmpere
  sliceWatt := run.globals.sliceWatt
  now := now

/-! ## Brokers -/

/-- Without a car the context is cleared; a context that is not there is created. -/
def prepareContext (now : Int) (node : EnergyFlowNode)
    (context : Option BrokerContext) : BrokerContext :=
  if node.evseState = some .unplugged ∨ node.evseState = some .finished then
    { ts1phOptimal :=
        run.globals.startTime - run.config.switch3ph1phTimeHysteresisS * nanosPerSecond }
  else context.getD { ts1phOptimal := now }

def Broker.create (globals : Globals) (path : List Nat) (node : EnergyFlowNode) : Broker where
  path := path
  uuid := node.uuid
  slots := List.replicate globals.scheduleLength {}

/-- The state between two trades. `trades` observes what has been bought so far, and
at which market place. -/
structure Optimizer where
  market : Market
  brokers : List Broker
  contexts : Contexts
  readings : Nat
  trades : List (List Nat × ScheduleRes) := []

def createBrokers (run : Run) (market : Market) :
    List (List Nat) → Contexts → Nat → List Broker × Contexts × Nat
  | [], contexts, readings => ([], contexts, readings)
  | path :: paths, contexts, readings =>
    match market.get? path with
    | some node =>
      let request := node.energyFlowRequest
      let context := prepareContext run (run.clock readings) request (contexts request.uuid)
      let next := createBrokers run market paths
        (Function.update contexts request.uuid (some context)) (readings + 1)
      (Broker.create run.globals path request :: next.1, next.2)
    | none => createBrokers run market paths contexts readings

def Optimizer.create (request : EnergyFlowRequest) (contexts : Contexts) : Optimizer :=
  let market := Market.create run.globals request
  let r := createBrokers run market market.getListOfEvses contexts 0
  { market := market, brokers := r.1, contexts := r.2.1, readings := r.2.2 }

/-! ## Trading -/

/-- One broker gets an offer at its market place and trades. -/
def tradeBroker (k : Nat) (o : Optimizer) : Optimizer × Bool :=
  match o.brokers[k]? with
  | some broker =>
    let now := run.clock o.readings
    let offer := Offer.create run.globals o.market broker.path
    let context := (o.contexts broker.uuid).getD { ts1phOptimal := now }
    let r := broker.tradeImpl (run.tradeEnv now) offer context
    ({ market := o.market.trade broker.path r.2.2.1
       brokers := o.brokers.set k r.1
       contexts := Function.update o.contexts broker.uuid (some r.2.1)
       readings := o.readings + 1
       trades := (broker.path, r.2.2.1) :: o.trades }, r.2.2.2)
  | none => (o, false)

/-- The states after each trade of a round, and whether anything was bought. -/
def tradeRound (run : Run) : List Nat → Optimizer → List (Optimizer × Bool)
  | [], _ => []
  | k :: ks, o => tradeBroker run k o :: tradeRound run ks (tradeBroker run k o).1

/-- The states after each trade of at most so many rounds; the last round is the
first one in which nothing is bought. -/
def tradeRounds (run : Run) : Nat → Optimizer → List Optimizer
  | 0, _ => []
  | rounds + 1, o =>
    let round := tradeRound run (List.range o.brokers.length) o
    let states := round.map (·.1)
    if round.any (·.2) then states ++ tradeRounds run rounds (states.getLastD o) else states

def maxNumberOfTradingRounds : Nat := 100

def tradingStates (request : EnergyFlowRequest) (contexts : Contexts) :
    List Optimizer :=
  tradeRounds run maxNumberOfTradingRounds (Optimizer.create run request contexts)

/-! ## The result -/

/-- The limits in force at the start time: the last entry that has begun. -/
def limitsRootSide (startTime : Int) (limits : LimitsRes) : ScheduleRes → LimitsRes
  | [] => limits
  | s :: rest =>
    if startTime < s.timestamp then limits else limitsRootSide startTime s.limitsToRoot rest

def enforcedLimits (node : MarketNode) : Option EnforcedLimits :=
  match node.soldRoot with
  | [] => none
  | first :: _ => some
      { uuid := node.energyFlowRequest.uuid
        validFor := run.config.updateInterval * 10
        schedule := node.soldRoot
        limitsRootSide := limitsRootSide run.globals.startTime first.limitsToRoot node.soldRoot }

def runOptimizer (request : EnergyFlowRequest) (contexts : Contexts) :
    List EnforcedLimits × Contexts :=
  let o := (tradingStates run request contexts).getLastD (Optimizer.create run request contexts)
  (o.brokers.filterMap fun broker => (o.market.get? broker.path).bind (enforcedLimits run),
    o.contexts)

end EverestCore.Energy
