import EverestCore.Energy.NoOversell

/-!
# One slot of one EVSE

Slots are traded independently of each other, and an EVSE with no other EVSE below it is
the only one that trades at its market place. So what a run does to one slot of such an
EVSE is a sequence of trades of this slot, each with some offer.
-/

namespace EverestCore.Energy

open EverestCore.Lib MarketNode RoseTree LimitsReq List Option

/-! ## Trades in a slot -/

/-- A slot that imports current. All other slots trade without a decision about phases. -/
def ImportsCurrent (imp exp : LimitsReq) (slot : Slot) : Prop :=
  (slot.ready imp exp).slotType = .importing ∧ imp.acMaxCurrentA.isSome
deriving Decidable

/-- What is bought without a decision about phases: power, or an export. -/
def tradeOther (env : TradeEnv) (imp exp : LimitsReq) (slot : Slot) : SlotTrade :=
  let t := noTrade imp slot.firstTrade
  match slot.slotType with
  | .importing => if imp.totalPowerW.isSome then (buyWatt imp env.sliceWatt true true t).1 else t
  | .exporting => tradeExport env exp slot t
  | .undecided => t

variable {slot : Slot}

/-- A slot that can import current trades in ampere. -/
theorem tradeSlot_of_importsCurrent {imp exp : LimitsReq} (h : ImportsCurrent imp exp slot)
    (env : TradeEnv) (active : Bool) (context : BrokerContext) :
    let r := tradeImportAmpere env active imp (slot.ready imp exp) context
      (noTrade imp slot.firstTrade)
    tradeSlot env active imp exp slot context =
      ({ r.1 with firstTrade := r.2.2.firstTrade }, r.2.1, r.2.2) := by
  obtain ⟨maxCurrent, hcurrent⟩ := isSome_iff_exists.mp h.2
  have hfirst : (slot.ready imp exp).firstTrade = slot.firstTrade := rfl
  unfold tradeSlot
  dsimp only
  rw [h.1, hcurrent, hfirst]

/-- Any other slot trades in watt, or exports. -/
theorem tradeSlot_of_not_importsCurrent {imp exp : LimitsReq} (h : ¬ ImportsCurrent imp exp slot)
    (env : TradeEnv) (active : Bool) (context : BrokerContext) :
    let t := tradeOther env imp exp (slot.ready imp exp)
    tradeSlot env active imp exp slot context =
      ({ slot.ready imp exp with firstTrade := t.firstTrade }, context, t) := by
  unfold ImportsCurrent at h
  unfold tradeSlot tradeOther
  generalize slot.ready imp exp = ready at h ⊢
  obtain ⟨firstTrade, slotType, numPhases⟩ := ready
  cases slotType with
  | undecided => rfl
  | exporting => rfl
  | importing =>
    have hnone : imp.acMaxCurrentA = none := not_isSome_iff_eq_none.mp fun hsome => h ⟨rfl, hsome⟩
    rw [hnone]
    cases imp.totalPowerW <;> rfl

variable (env : TradeEnv)

section

variable {run : Run} {request : EnergyFlowRequest} {o : Optimizer}

variable (h : Shaped run request o)

include h

/-- The limits of a node are those its request had at first. -/
theorem Shaped.node {path : List Nat} {node : MarketNode} (hget : o.market.get? path = some node) :
    ∃ r, request.get? path = some r ∧ node.energyFlowRequest = r ∧
      node.importMaxAvailable = (create run.globals r).importMaxAvailable ∧
      node.exportMaxAvailable = (create run.globals r).exportMaxAvailable := by
  have hmap : (o.market.map unsold).get? path =
      ((Market.create run.globals request).map unsold).get? path := by rw [h.market]
  rw [get?_map, get?_map, Market.create, get?_map, hget] at hmap
  obtain ⟨created, hcreated, heq⟩ := map_eq_some_iff.mp hmap.symm
  obtain ⟨r, hr, rfl⟩ := map_eq_some_iff.mp hcreated
  have hrequest := congrArg energyFlowRequest heq
  have himport := congrArg importMaxAvailable heq
  have hexport := congrArg exportMaxAvailable heq
  exact ⟨r, hr, hrequest.symm, himport.symm, hexport.symm⟩

theorem Shaped.sized {path : List Nat} {node : MarketNode}
    (hget : o.market.get? path = some node) : node.Sized run.globals.scheduleLength := by
  obtain ⟨r, -, -, himport, hexport⟩ := h.node hget
  have hcreated := create_sized run.globals r
  exact ⟨himport ▸ hcreated.importLength, hexport ▸ hcreated.exportLength, h.sold path node hget⟩

theorem Shaped.along_sized (path : List Nat) :
    ∀ node ∈ o.market.along path, node.Sized run.globals.scheduleLength := by
  intro node hnode
  obtain ⟨above, hget⟩ := get?_of_mem_along hnode
  exact h.sized hget

/-- An offer has an entry for every slot. -/
theorem Shaped.offer_length (path : List Nat) :
    (Offer.create run.globals o.market path).importOffer.length = run.globals.scheduleLength ∧
      (Offer.create run.globals o.market path).exportOffer.length =
        run.globals.scheduleLength := by
  have hsized := h.along_sized path
  exact ⟨(importOffer_view hsized).1, (exportOffer_view hsized).1⟩

omit h

/-- A trade is booked at the places on the way to the root, and nowhere else. -/
theorem get?_trade (market : Market) (path : List Nat) (traded : ScheduleRes) (q : List Nat) :
    (market.trade path traded).get? q =
      if q <+: path then (market.get? q).map fun node =>
        { node with soldRoot := scheduleAdd node.soldRoot traded }
      else market.get? q :=
  get?_modifyAlong _ market path q

/-- Trades keep the shape of the market. -/
theorem Shaped.tradeStep (h : Shaped run request o) (k : Nat) :
    Shaped run request (tradeStep run o k) := by
  unfold Energy.tradeStep tradeBroker
  cases hbroker : o.brokers[k]? with
  | none => exact h
  | some broker =>
    obtain ⟨himport, hexport⟩ := h.offer_length broker.path
    have hslots := h.slots broker (mem_of_getElem? hbroker)
    dsimp only
    generalize (o.contexts broker.uuid).getD { ts1phOptimal := run.clock o.readings } = context
    have hlength := tradeImpl_length (run.tradeEnv (run.clock o.readings)) himport hexport
      hslots context
    have hpath : (broker.tradeImpl (run.tradeEnv (run.clock o.readings))
        (Offer.create run.globals o.market broker.path) context).1.path = broker.path := rfl
    generalize broker.tradeImpl (run.tradeEnv (run.clock o.readings))
      (Offer.create run.globals o.market broker.path) context = r at hlength hpath ⊢
    constructor
    case market =>
      show (o.market.trade broker.path r.2.2.1).map unsold = _
      rw [Market.trade, map_modifyAlong]
      · exact h.market
      · exact fun _ => rfl
    case sold =>
      intro path node hget
      rw [get?_trade] at hget
      split_ifs at hget
      · obtain ⟨old, hold, rfl⟩ := map_eq_some_iff.mp hget
        have hsold := h.sold path old hold
        exact (scheduleAdd_length (hsold.trans hlength.2.symm)).trans hsold
      · exact h.sold path node hget
    case brokers =>
      obtain ⟨hk, rfl⟩ := List.getElem?_eq_some_iff.mp hbroker
      have hlt : k < (o.brokers.map Broker.path).length := by rw [List.length_map]; exact hk
      have hset := List.set_getElem_self hlt
      rw [getElem_map] at hset
      show (o.brokers.set k r.1).map Broker.path = _
      rw [map_set, hpath, hset]
      exact h.brokers
    case slots =>
      intro b hb
      rcases mem_or_eq_of_mem_set hb with hb | rfl
      · exact h.slots b hb
      · exact hlength.1

end

/-! ## Limits that do not change -/

/-- Limits that differ at most in how much current and power is left. -/
structure LimitsReq.Alike (a b : LimitsReq) : Prop where
  minCurrent : a.acMinCurrentA = b.acMinCurrentA
  maxPhaseCount : a.acMaxPhaseCount = b.acMaxPhaseCount
  minPhaseCount : a.acMinPhaseCount = b.acMinPhaseCount
  activePhaseCount : a.acNumberOfActivePhases = b.acNumberOfActivePhases
  current : a.acMaxCurrentA.isSome = b.acMaxCurrentA.isSome
  power : a.totalPowerW.isSome = b.totalPowerW.isSome

theorem LimitsReq.Alike.refl (a : LimitsReq) : a.Alike a := ⟨rfl, rfl, rfl, rfl, rfl, rfl⟩

theorem isSome_applyNumberIfSmaller (a b : Option NumberWithSource) :
    (applyNumberIfSmaller a b).isSome = (a.isSome || b.isSome) := by
  unfold applyNumberIfSmaller applyOneLimit
  cases b with
  | none => simp
  | some b =>
    cases a with
    | none => rfl
    | some a =>
      dsimp only
      split_ifs <;> rfl

/-- Merging keeps limits alike. -/
theorem LimitsReq.Alike.apply {a a' b b' : LimitsReq} (ha : a.Alike a') (hb : b.Alike b') :
    (a.apply b).Alike (a'.apply b') where
  minCurrent := by
    show applyNumberIfGreater _ _ = applyNumberIfGreater _ _
    rw [ha.minCurrent, hb.minCurrent]
  maxPhaseCount := by
    show applyIntegerIfSmaller _ _ = applyIntegerIfSmaller _ _
    rw [ha.maxPhaseCount, hb.maxPhaseCount]
  minPhaseCount := by
    show applyIntegerIfGreater _ _ = applyIntegerIfGreater _ _
    rw [ha.minPhaseCount, hb.minPhaseCount]
  activePhaseCount := hb.activePhaseCount
  current := by
    show (applyNumberIfSmaller _ _).isSome = (applyNumberIfSmaller _ _).isSome
    rw [isSome_applyNumberIfSmaller, isSome_applyNumberIfSmaller, ha.current, hb.current]
  power := by
    show (applyNumberIfSmaller _ _).isSome = (applyNumberIfSmaller _ _).isSome
    rw [isSome_applyNumberIfSmaller, isSome_applyNumberIfSmaller, ha.power, hb.power]

/-- What a broker keeps for a slot, and what is booked for it. -/
structure Ledger where
  slot : Slot := {}
  sold : LimitsRes := {}

/-- One trade of the slot. -/
def Ledger.trade (active : Bool) (imp exp : LimitsReq) (context : BrokerContext)
    (ledger : Ledger) : Ledger where
  slot := (tradeSlot env active imp exp ledger.slot context).1
  sold := ledger.sold.add (tradeSlot env active imp exp ledger.slot context).2.2.trading

/-- What the optimizer keeps of one slot of one EVSE. -/
def Optimizer.ledger (o : Optimizer) (k : Nat) (path : List Nat) (i : Nat) : Ledger where
  slot := (o.brokers[k]?.bind fun broker => broker.slots[i]?).getD {}
  sold := soldAt (((o.market.get? path).map soldRoot).getD []) i

/-- The EVSEs of a request. -/
def evsePaths (request : EnergyFlowRequest) : List (List Nat) :=
  request.pathsWhere fun node => node.nodeType == .evse

/-- What a run grants in one slot. -/
def granted (run : Run) (request : EnergyFlowRequest) (contexts : Contexts) (path : List Nat)
    (i : Nat) : LimitsRes :=
  soldAt ((((finalState run request contexts).market.get? path).map soldRoot).getD []) i

section

variable {run : Run} {request : EnergyFlowRequest} {o : Optimizer}

theorem getListOfEvses_create (globals : Globals) (request : EnergyFlowRequest) :
    (Market.create globals request).getListOfEvses = evsePaths request :=
  pathsWhere_map _ _ request

variable {path : List Nat}

theorem Shaped.evse (h : Shaped run request o) (hpath : path ∈ evsePaths request) :
    ∃ node, o.market.get? path = some node := by
  obtain ⟨r, hr, -⟩ := mem_pathsWhere.mp hpath
  have hmap : (o.market.map unsold).get? path =
      ((Market.create run.globals request).map unsold).get? path := by rw [h.market]
  rw [get?_map, get?_map, Market.create, get?_map, hr] at hmap
  obtain ⟨node, hnode, -⟩ := map_eq_some_iff.mp hmap
  exact ⟨node, hnode⟩

end

/-- **Every EVSE is answered once**, in the order of the tree, under its own uuid and with one
entry for each slot. -/
theorem every_evse_is_answered (run : Run) (request : EnergyFlowRequest) (contexts : Contexts)
    (hslots : run.globals.timestamps ≠ []) :
    ((runOptimizer run request contexts).1.map fun limits =>
        (limits.uuid, limits.schedule.length)) =
      (evsePaths request).filterMap fun path =>
        (request.get? path).map fun node => (node.uuid, run.globals.scheduleLength) := by
  set o := finalState run request contexts
  have hshaped : Shaped run request o :=
    invariant_finalState run request contexts (shaped_create run request contexts)
      fun _ k h => h.tradeStep k
  have hpaths := hshaped.brokers.trans (getListOfEvses_create run.globals request)
  show (o.brokers.filterMap fun b => (o.market.get? b.path).bind (enforcedLimits run)).map _ = _
  rw [map_filterMap, ← hpaths, filterMap_map]
  refine filterMap_congr fun broker hmem => ?_
  obtain ⟨node, hnode⟩ := hshaped.evse (hpaths ▸ mem_map_of_mem hmem)
  obtain ⟨r, hr, hrequest, -⟩ := hshaped.node hnode
  have hlength := hshaped.sold _ _ hnode
  subst hrequest
  cases hsold : node.soldRoot with
  | nil =>
    rw [hsold] at hlength
    exact absurd (length_eq_zero_iff.mp hlength.symm) hslots
  | cons first rest => simp [enforcedLimits, hnode, hr, hsold, ← hlength]

theorem two_evses_are_answered :
    ((runOptimizer (Run.default twoEvses) twoEvses fun _ => none).1.map
      fun limits => (limits.uuid, limits.schedule.length)) = [("evse1", 2), ("evse2", 2)] :=
  (every_evse_is_answered _ _ _ (by decide +kernel)).trans (by decide +kernel)

end EverestCore.Energy
