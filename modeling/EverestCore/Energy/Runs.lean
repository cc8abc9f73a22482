import EverestCore.Lib.Machine
import EverestCore.Energy.Optimizer

/-!
# Trades one after the other

The rounds of the optimizer are a sequence of trades, and each trade only changes what
is booked and what the broker keeps. Whatever every trade keeps holds after each trade
and at the end of the run.
-/

namespace EverestCore.Energy

open EverestCore.Lib List

def finalState (run : Run) (request : EnergyFlowRequest) (contexts : Contexts) : Optimizer :=
  (tradingStates run request contexts).getLastD (Optimizer.create run request contexts)

/-- One trade of one broker. -/
def tradeStep (run : Run) (o : Optimizer) (k : Nat) : Optimizer := (tradeBroker run k o).1

/-! ## Every state is reached by trades -/

section

variable (run : Run)

theorem tradeRound_run (ks : List Nat) {o : Optimizer} {r : Optimizer × Bool}
    (hr : r ∈ tradeRound run ks o) : ∃ ks', r.1 = Lib.run (tradeStep run) o ks' := by
  induction ks generalizing o with
  | nil => cases hr
  | cons k ks ih =>
    rcases mem_cons.mp hr with rfl | hr
    · exact ⟨[k], rfl⟩
    · obtain ⟨ks', heq⟩ := ih hr
      exact ⟨k :: ks', heq⟩

theorem getLastD_tradeRound (ks : List Nat) (o : Optimizer) :
    ((tradeRound run ks o).map (·.1)).getLastD o = Lib.run (tradeStep run) o ks := by
  induction ks generalizing o with
  | nil => rfl
  | cons k ks ih =>
    rw [tradeRound, map_cons, getLastD_cons, ih]
    rfl

theorem tradeRounds_run (rounds : Nat) {o o' : Optimizer} (ho' : o' ∈ tradeRounds run rounds o) :
    ∃ ks, o' = Lib.run (tradeStep run) o ks := by
  induction rounds generalizing o with
  | zero => cases ho'
  | succ rounds ih =>
    have hround : ∀ o' ∈ (tradeRound run (range o.brokers.length) o).map (·.1),
        ∃ ks, o' = Lib.run (tradeStep run) o ks := by
      intro o' ho'
      obtain ⟨r, hr, rfl⟩ := mem_map.mp ho'
      exact tradeRound_run run _ hr
    rw [tradeRounds] at ho'
    split_ifs at ho' with hbought
    · rcases mem_append.mp ho' with ho' | ho'
      · exact hround o' ho'
      · obtain ⟨ks, heq⟩ := ih ho'
        rw [getLastD_tradeRound] at heq
        exact ⟨range o.brokers.length ++ ks, heq.trans (run_append _ _ _).symm⟩
    · exact hround o' ho'

variable {run} {request : EnergyFlowRequest} {contexts : Contexts}

theorem tradingStates_run {o : Optimizer} (ho : o ∈ tradingStates run request contexts) :
    ∃ ks, o = Lib.run (tradeStep run) (Optimizer.create run request contexts) ks :=
  tradeRounds_run run _ ho

variable (run request contexts) in
/-- A run is a sequence of trades. -/
theorem finalState_run :
    ∃ ks, finalState run request contexts =
      Lib.run (tradeStep run) (Optimizer.create run request contexts) ks := by
  unfold finalState
  cases hstates : tradingStates run request contexts with
  | nil => exact ⟨[], rfl⟩
  | cons first rest =>
    rw [getLastD_cons]
    exact tradingStates_run (hstates ▸ getLastD_mem_cons)

variable (run request contexts) in
/-- **Whatever every trade keeps** holds at the end. -/
theorem invariant_finalState {I : Optimizer → Prop}
    (hcreate : I (Optimizer.create run request contexts))
    (hstep : ∀ o k, I o → I (tradeStep run o k)) : I (finalState run request contexts) := by
  obtain ⟨ks, heq⟩ := finalState_run run request contexts
  rw [heq]
  exact invariant_run hstep ks hcreate

end

/-! ## What a trade does not change -/

def MarketNode.unsold (node : MarketNode) : MarketNode := { node with soldRoot := [] }

/-- The market places and the brokers are those of the request, with one entry for each
slot. -/
structure Shaped (run : Run) (request : EnergyFlowRequest) (o : Optimizer) : Prop where
  market : o.market.map MarketNode.unsold =
    (Market.create run.globals request).map MarketNode.unsold
  sold : ∀ path node, o.market.get? path = some node →
    node.soldRoot.length = run.globals.scheduleLength
  brokers : o.brokers.map Broker.path = (Market.create run.globals request).getListOfEvses
  slots : ∀ broker ∈ o.brokers, broker.slots.length = run.globals.scheduleLength

variable {run : Run} {request : EnergyFlowRequest}

theorem createBrokers_paths (market : Market) {paths : List (List Nat)}
    (hpaths : ∀ path ∈ paths, ∃ node, market.get? path = some node) (contexts : Contexts)
    (readings : Nat) :
    ((createBrokers run market paths contexts readings).1).map Broker.path = paths := by
  induction paths generalizing contexts readings with
  | nil => rfl
  | cons path paths ih =>
    obtain ⟨node, hnode⟩ := hpaths path mem_cons_self
    rw [createBrokers, hnode]
    exact congrArg (path :: ·) (ih (fun p hp => hpaths p (mem_cons_of_mem _ hp)) _ _)

theorem createBrokers_slots (market : Market) (paths : List (List Nat)) (contexts : Contexts)
    (readings : Nat) :
    ∀ broker ∈ (createBrokers run market paths contexts readings).1,
      broker.slots = List.replicate run.globals.scheduleLength {} := by
  induction paths generalizing contexts readings with
  | nil => exact nofun
  | cons path paths ih =>
    rw [createBrokers]
    cases market.get? path with
    | none => exact ih contexts readings
    | some node => exact forall_mem_cons.mpr ⟨rfl, ih _ _⟩

theorem shaped_create (run : Run) (request : EnergyFlowRequest) (contexts : Contexts) :
    Shaped run request (Optimizer.create run request contexts) := by
  constructor
  case market => rfl
  case sold =>
    intro path node hget
    rw [Optimizer.create, Market.create, RoseTree.get?_map] at hget
    obtain ⟨r, -, rfl⟩ := Option.map_eq_some_iff.mp hget
    exact length_map _
  case brokers =>
    refine createBrokers_paths _ (fun path hpath => ?_) contexts 0
    obtain ⟨node, hnode, -⟩ := RoseTree.mem_pathsWhere.mp hpath
    exact ⟨node, hnode⟩
  case slots =>
    intro broker hbroker
    rw [createBrokers_slots _ _ contexts 0 broker hbroker, length_replicate]

end EverestCore.Energy
