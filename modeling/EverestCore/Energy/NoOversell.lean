import EverestCore.Energy.Runs
import EverestCore.Energy.Slots

/-!
# No market place is oversold

After every single trade of a run, what is booked at a market place stays within the
place's own limits, in both directions, and so does the sum of what the EVSEs below
it have been granted.
-/

namespace EverestCore.Energy

open EverestCore.Lib MarketNode LimitsReq List Option

/-! ## Limits of a market place -/

/-- An amount stays between what may be exported and what may be imported, as far as
that is limited. -/
def Within (imp exp : Option NumberWithSource) (x : ℚ) : Prop :=
  (∀ l ∈ imp, x ≤ max 0 l.value) ∧ ∀ l ∈ exp, -max 0 l.value ≤ x
deriving Decidable

def MarketNode.Within (node : MarketNode) (i : Nat) (current power : ℚ) : Prop :=
  Energy.Within (limitsAt node.importMaxAvailable i).acMaxCurrentA
      (limitsAt node.exportMaxAvailable i).acMaxCurrentA current ∧
    Energy.Within (limitsAt node.importMaxAvailable i).totalPowerW
      (limitsAt node.exportMaxAvailable i).totalPowerW power
deriving Decidable

/-- What the EVSEs below a place have been granted. -/
def grantedBelow (trades : List (List Nat × ScheduleRes)) (path : List Nat) (i : Nat)
    (quantity : LimitsRes → Option NumberWithSource) : ℚ :=
  ((trades.filter fun t => path.isPrefixOf t.1).map fun t => amount (quantity (soldAt t.2 i))).sum

/-! ## Offers stay below what is available -/

/-- If the second limit is set, the first one is set too and not above it. -/
def AtMost (a b : Option NumberWithSource) : Prop := ∀ l ∈ b, ∃ o ∈ a, o.value ≤ l.value

theorem AtMost.refl (a : Option NumberWithSource) : AtMost a a := fun l hl => ⟨l, hl, le_refl _⟩

theorem AtMost.trans {a b c : Option NumberWithSource} (hab : AtMost a b) (hbc : AtMost b c) :
    AtMost a c := by
  intro l hl
  obtain ⟨o, ho, hol⟩ := hbc l hl
  obtain ⟨o', ho', ho'o⟩ := hab o ho
  exact ⟨o', ho', ho'o.trans hol⟩

theorem applyNumberIfSmaller_atMost (a b : Option NumberWithSource) :
    AtMost (applyNumberIfSmaller a b) a ∧ AtMost (applyNumberIfSmaller a b) b := by
  unfold applyNumberIfSmaller applyOneLimit
  cases b with
  | none => exact ⟨.refl a, fun l hl => absurd hl (not_mem_none l)⟩
  | some b =>
    cases a with
    | none => exact ⟨fun l hl => absurd hl (not_mem_none l), .refl _⟩
    | some a =>
      dsimp only
      split_ifs with hsmaller hequal
      · have hlt : b.value < a.value := of_decide_eq_true hsmaller
        refine ⟨?_, .refl _⟩
        rintro l ⟨⟩
        exact ⟨b, rfl, hlt.le⟩
      · constructor <;> rintro l ⟨⟩
        · exact ⟨_, rfl, le_refl _⟩
        · exact ⟨_, rfl, hequal.le⟩
      · have hle : a.value ≤ b.value := by simpa using hsmaller
        refine ⟨.refl _, ?_⟩
        rintro l ⟨⟩
        exact ⟨a, rfl, hle⟩

/-- Current and power are both at most the other ones. -/
def LimitsReq.AtMost (a b : LimitsReq) : Prop :=
  Energy.AtMost a.acMaxCurrentA b.acMaxCurrentA ∧ Energy.AtMost a.totalPowerW b.totalPowerW

theorem LimitsReq.AtMost.refl (a : LimitsReq) : a.AtMost a :=
  ⟨Energy.AtMost.refl _, Energy.AtMost.refl _⟩

theorem LimitsReq.AtMost.trans {a b c : LimitsReq} (hab : a.AtMost b) (hbc : b.AtMost c) :
    a.AtMost c :=
  ⟨Energy.AtMost.trans hab.1 hbc.1, Energy.AtMost.trans hab.2 hbc.2⟩

theorem apply_atMost (a b : LimitsReq) : (a.apply b).AtMost a ∧ (a.apply b).AtMost b := by
  have hcurrent := applyNumberIfSmaller_atMost a.acMaxCurrentA b.acMaxCurrentA
  have hpower := applyNumberIfSmaller_atMost a.totalPowerW b.totalPowerW
  exact ⟨⟨hcurrent.1, hpower.1⟩, hcurrent.2, hpower.2⟩

/-- All limits applied one after the other; the induction carries what has been
applied so far. -/
theorem foldl_apply_atMost (limits : List LimitsReq) (start : LimitsReq) :
    (limits.foldl apply start).AtMost start ∧
      ∀ l ∈ limits, (limits.foldl apply start).AtMost l := by
  induction limits generalizing start with
  | nil => exact ⟨.refl _, nofun⟩
  | cons head rest ih =>
    obtain ⟨hstart, hrest⟩ := ih (start.apply head)
    have happly := apply_atMost start head
    exact ⟨hstart.trans happly.1, forall_mem_cons.mpr ⟨hstart.trans happly.2, hrest⟩⟩

variable {a b : Option IntegerWithSource}

theorem applyOneLimit_nonneg (better : Int → Int → Bool) (ha : ∀ n ∈ a, 0 ≤ n.value)
    (hb : ∀ n ∈ b, 0 ≤ n.value) :
    ∀ n ∈ applyOneLimit IntegerWithSource.value IntegerWithSource.addSource better a b,
      0 ≤ n.value := by
  unfold applyOneLimit
  cases b with
  | none => exact ha
  | some b =>
    cases a with
    | none => exact hb
    | some a =>
      dsimp only
      split_ifs
      · exact hb
      · rintro n ⟨⟩
        exact ha a rfl
      · exact ha

theorem nonnegPhases_apply {a b : LimitsReq} (ha : NonnegPhases a) (hb : NonnegPhases b) :
    NonnegPhases (a.apply b) :=
  ⟨applyOneLimit_nonneg (fun b a => decide (b < a)) ha.1 hb.1,
    applyOneLimit_nonneg (fun b a => decide (a < b)) ha.2.1 hb.2.1, hb.2.2⟩

variable {n : Nat}

/-! ## One market place -/

/-- All schedules of a market place have one entry for each slot, and its phase counts
are not negative. -/
structure MarketNode.Fits (n : Nat) (node : MarketNode) : Prop where
  importLength : node.importMaxAvailable.length = n
  exportLength : node.exportMaxAvailable.length = n
  soldLength : node.soldRoot.length = n
  phases : PhasesOk node.importMaxAvailable

variable {node : MarketNode}

theorem MarketNode.Fits.sized (h : node.Fits n) : node.Sized n :=
  { h with }

theorem soldIn_eq (addSold : Bool) (sold : Option NumberWithSource) :
    soldIn addSold sold = min ((if addSold then 1 else -1) * amount sold) 0 := by
  cases sold with
  | none => simp [soldIn]
  | some n => rfl

theorem within_add {imp exp sold offerImp offerExp : Option NumberWithSource} {x : ℚ}
    (hwithin : Within imp exp (amount sold)) (hcovered : Covered offerImp offerExp x)
    (himp : AtMost offerImp (addTo imp (soldIn false sold)))
    (hexp : AtMost offerExp (addTo exp (soldIn true sold))) :
    Within imp exp (amount sold + x) := by
  constructor
  · intro l hl
    rcases le_or_gt x 0 with hx | hx
    · exact (by linarith : amount sold + x ≤ amount sold).trans (hwithin.1 l hl)
    · obtain ⟨o, ho, hle⟩ := hcovered.of_import hx
      obtain ⟨o', ho', hle'⟩ := himp _ (mem_map_of_mem _ hl)
      obtain rfl : o' = o := mem_unique ho' ho
      rw [soldIn_eq] at hle'
      have hsold := min_le_left ((if false then 1 else -1) * amount sold) 0
      simp only [Bool.false_eq_true, if_false] at hle' hsold
      exact le_max_of_le_right (by linarith)
  · intro l hl
    rcases le_or_gt 0 x with hx | hx
    · exact (hwithin.2 l hl).trans (by linarith)
    · obtain ⟨o, ho, hle⟩ := hcovered.of_export hx
      obtain ⟨o', ho', hle'⟩ := hexp _ (mem_map_of_mem _ hl)
      obtain rfl : o' = o := mem_unique ho' ho
      rw [soldIn_eq] at hle'
      have hsold := min_le_left ((if true then 1 else -1) * amount sold) 0
      simp only [if_true] at hle' hsold
      have hmax := le_max_right 0 l.value
      linarith

theorem amount_addNumber (a b : Option NumberWithSource) :
    amount (addNumber a b) = amount a + amount b := by
  cases b with
  | none => simp [addNumber]
  | some b => exact add_comm _ _

theorem add_amounts (a b : LimitsRes) :
    amount (a.add b).acMaxCurrentA = amount a.acMaxCurrentA + amount b.acMaxCurrentA ∧
      amount (a.add b).totalPowerW = amount a.totalPowerW + amount b.totalPowerW :=
  ⟨amount_addNumber _ _, amount_addNumber _ _⟩

/-! ## The request -/

/-- No phase count of the request is negative. -/
def NonnegPhaseCounts (request : EnergyFlowRequest) : Prop :=
  ∀ node ∈ request.toList, ∀ e ∈ node.scheduleImport,
    NonnegPhases e.limitsToRoot ∧ NonnegPhases e.limitsToLeaves
deriving Decidable

theorem mem_minOptional {α β : Type} [LinearOrder β] {value : α → β} {a b : Option α} {n : α}
    (h : n ∈ minOptional value a b) : n ∈ a ∨ n ∈ b := by
  cases a with
  | none => exact .inr h
  | some a =>
    cases b with
    | none => exact .inl h
    | some b =>
      rw [minOptional] at h
      split_ifs at h
      · exact .inl h
      · exact .inr h

theorem entryAt_mem {α : Type} {timestamp : α → Int} {t : Int} {begin : Bool} {entries : List α}
    {e : α} (h : entryAt timestamp t begin entries = some e) : e ∈ entries := by
  induction entries generalizing begin with
  | nil => cases h
  | cons entry rest ih =>
    cases rest with
    | nil =>
      cases h
      exact mem_singleton.mpr rfl
    | cons next rest =>
      rw [entryAt] at h
      split_ifs at h with hin
      · cases h
        exact mem_cons_self
      · exact mem_cons_of_mem _ (ih h)

variable (globals : Globals)

theorem nonnegPhases_empty : NonnegPhases {} := by decide

theorem emptyScheduleReq_phasesOk : PhasesOk globals.emptyScheduleReq := by
  intro e he
  obtain ⟨t, -, rfl⟩ := mem_map.mp he
  exact nonnegPhases_empty

theorem maxAvailable_phasesOk {schedule : ScheduleReq}
    (h : ∀ e ∈ schedule, NonnegPhases e.limitsToRoot ∧ NonnegPhases e.limitsToLeaves) :
    PhasesOk (maxAvailable globals schedule) := by
  unfold maxAvailable
  split_ifs
  · intro e he
    obtain ⟨t, -, rfl⟩ := mem_map.mp he
    exact nonnegPhases_empty
  · intro e he
    obtain ⟨a, ha, rfl⟩ := mem_map.mp he
    cases hentry : entryAt ScheduleReqEntry.timestamp a.timestamp true schedule with
    | none => exact emptyScheduleReq_phasesOk globals a ha
    | some r =>
      have hr := h r (entryAt_mem hentry)
      exact -- the greater one is the smaller one in the reversed order
        ⟨fun n hn => (mem_minOptional hn).elim (hr.1.1 n) (hr.2.1 n),
        fun n hn => (mem_minOptional (β := ℤᵒᵈ) hn).elim (hr.1.2.1 n) (hr.2.2.1 n), hr.1.2.2⟩

theorem applySetpoints_phasesOk {imp : ScheduleReq} (hok : PhasesOk imp) (exp : ScheduleReq)
    (setpoints : ScheduleSetpoints) (freq : Option ℚ) :
    PhasesOk (applySetpoints imp exp setpoints freq).1 := by
  unfold applySetpoints
  split_ifs with h₁ h₂
  · exact hok
  · exact hok
  · rw [unzip_eq_map]
    intro e he
    obtain ⟨p, hp, rfl⟩ := mem_map.mp he
    obtain ⟨s, hs, rfl⟩ := mem_map.mp hp
    have himport : s.1.1 ∈ imp := (of_mem_zip (of_mem_zip hs).1).1
    unfold applySetpointEntry
    cases s.2.setpoint with
    | none => exact hok _ himport
    | some sp =>
      dsimp only [applySetpoint, applySetpointPower]
      split <;> exact hok _ himport

theorem create_fits {node : EnergyFlowNode}
    (h : ∀ e ∈ node.scheduleImport, NonnegPhases e.limitsToRoot ∧ NonnegPhases e.limitsToLeaves) :
    (create globals node).Fits globals.scheduleLength := by
  refine { create_sized globals node with phases := ?_ }
  exact applySetpoints_phasesOk (maxAvailable_phasesOk globals h) _ _ _

/-! ## The invariant -/

/-- What is booked at a market place, in current and in power. -/
def MarketNode.WithinSold (node : MarketNode) : Prop :=
  ∀ i, node.Within i (amount (soldAt node.soldRoot i).acMaxCurrentA)
    (amount (soldAt node.soldRoot i).totalPowerW)

variable (run : Run)

/-- The invariant of the trading loop. The books of a market place are the sum of the
trades at it and below it. -/
structure Sound (o : Optimizer) : Prop where
  fits : ∀ path node, o.market.get? path = some node → node.Fits run.globals.scheduleLength
  within : ∀ path node, o.market.get? path = some node → node.WithinSold
  booked : ∀ path node, o.market.get? path = some node → ∀ i,
    amount (soldAt node.soldRoot i).acMaxCurrentA =
        grantedBelow o.trades path i LimitsRes.acMaxCurrentA ∧
      amount (soldAt node.soldRoot i).totalPowerW =
        grantedBelow o.trades path i LimitsRes.totalPowerW
  brokers : ∀ broker ∈ o.brokers, broker.Fits run.globals.scheduleLength

theorem createBrokers_fits (market : Market) (paths : List (List Nat))
    (contexts : Contexts) (readings : Nat) :
    ∀ broker ∈ (createBrokers run market paths contexts readings).1,
      broker.Fits run.globals.scheduleLength := by
  intro broker hbroker
  have hslots := createBrokers_slots market paths contexts readings broker hbroker
  refine ⟨by rw [hslots, length_replicate], fun slot hslot => ?_⟩
  rw [hslots] at hslot
  rw [eq_of_mem_replicate hslot]

theorem soldAt_empty (i : Nat) : soldAt globals.emptyScheduleRes i = {} := by
  unfold soldAt Globals.emptyScheduleRes
  rw [getElem?_map]
  cases globals.timestamps[i]? <;> rfl

theorem within_zero (imp exp : Option NumberWithSource) : Within imp exp 0 :=
  ⟨fun l _ => le_max_left 0 l.value, fun l _ => neg_nonpos.mpr (le_max_left 0 l.value)⟩

theorem sound_create {request : EnergyFlowRequest} (h : NonnegPhaseCounts request)
    (contexts : Contexts) : Sound run (Optimizer.create run request contexts) := by
  have hnode : ∀ path node, (Optimizer.create run request contexts).market.get? path = some node →
      ∃ r ∈ request.toList, node = create run.globals r := by
    intro path node hget
    rw [Optimizer.create, Market.create, RoseTree.get?_map] at hget
    obtain ⟨r, hr, rfl⟩ := map_eq_some_iff.mp hget
    exact ⟨r, RoseTree.mem_toList_of_get? hr, rfl⟩
  constructor
  case fits =>
    intro path node hget
    obtain ⟨r, hr, rfl⟩ := hnode path node hget
    exact create_fits run.globals (h r hr)
  case within =>
    intro path node hget i
    obtain ⟨r, hr, rfl⟩ := hnode path node hget
    rw [create, soldAt_empty]
    exact ⟨within_zero _ _, within_zero _ _⟩
  case booked =>
    intro path node hget i
    obtain ⟨r, hr, rfl⟩ := hnode path node hget
    rw [create, soldAt_empty]
    exact ⟨rfl, rfl⟩
  case brokers => exact createBrokers_fits run _ _ contexts 0

/-! ## One trade -/

/-- What slices and the voltage of a run are. -/
structure Run.Positive : Prop where
  voltage : 0 < run.config.nominalAcVoltage
  sliceAmpere : 0 < run.globals.sliceAmpere
  sliceWatt : 0 < run.globals.sliceWatt

theorem Run.Positive.tradeEnv {run : Run} (h : run.Positive) (now : Int) :
    (run.tradeEnv now).Positive :=
  { h with }

section

variable {run : Run} {o : Optimizer} (hsound : Sound run o) (path : List Nat)

include hsound

theorem along_fits : ∀ node ∈ o.market.along path, node.Fits run.globals.scheduleLength := by
  intro node hnode
  obtain ⟨above, hget⟩ := RoseTree.get?_of_mem_along hnode
  exact hsound.fits above node hget

theorem along_sized : ∀ node ∈ o.market.along path, node.Sized run.globals.scheduleLength :=
  fun node hnode => (along_fits hsound path node hnode).sized

theorem importOffer_phasesOk : PhasesOk (Offer.create run.globals o.market path).importOffer := by
  intro e he
  obtain ⟨i, hi⟩ := mem_iff_getElem?.mp he
  have hlimits : limitsAt (Offer.create run.globals o.market path).importOffer i =
      e.limitsToRoot := by
    rw [limitsAt, hi]
    rfl
  rw [← hlimits, (importOffer_view (along_sized hsound path)).2]
  refine foldlRecOn _ _ nonnegPhases_empty fun sofar hsofar limits hlimits => ?_
  obtain ⟨node, hnode, rfl⟩ := mem_map.mp hlimits
  exact nonnegPhases_apply hsofar ((along_fits hsound path node hnode).phases.limitsAt i)

/-- A trade that the offer covers stays within the limits. -/
theorem withinSold_trade (hnode : node ∈ o.market.along path)
    (hwithin : node.WithinSold) {traded : ScheduleRes}
    (hlength : traded.length = run.globals.scheduleLength)
    (hcovers : ∀ i, Covers (limitsAt (Offer.create run.globals o.market path).importOffer i)
      (limitsAt (Offer.create run.globals o.market path).exportOffer i) (soldAt traded i)) :
    MarketNode.WithinSold { node with soldRoot := scheduleAdd node.soldRoot traded } := by
  intro i
  have hsized := along_sized hsound path
  have himport : (limitsAt (Offer.create run.globals o.market path).importOffer i).AtMost
      (node.importAt i) := by
    rw [(importOffer_view hsized).2]
    exact (foldl_apply_atMost _ _).2 _ (mem_map_of_mem hnode)
  have hexport : (limitsAt (Offer.create run.globals o.market path).exportOffer i).AtMost
      (node.exportAt i) := by
    rw [(exportOffer_view hsized).2]
    exact (foldl_apply_atMost _ _).2 _ (mem_map_of_mem hnode)
  show node.Within i (amount (soldAt (scheduleAdd node.soldRoot traded) i).acMaxCurrentA)
    (amount (soldAt (scheduleAdd node.soldRoot traded) i).totalPowerW)
  rw [soldAt_add ((hsized node hnode).soldLength.trans hlength.symm), (add_amounts _ _).1,
    (add_amounts _ _).2]
  exact ⟨within_add (hwithin i).1 (hcovers i).current himport.1 hexport.1,
    within_add (hwithin i).2 (hcovers i).power himport.2 hexport.2⟩

end

theorem grantedBelow_cons (trades : List (List Nat × ScheduleRes)) (place : List Nat)
    (traded : ScheduleRes) (path : List Nat) (i : Nat)
    (quantity : LimitsRes → Option NumberWithSource) :
    grantedBelow ((place, traded) :: trades) path i quantity =
      (if path <+: place then amount (quantity (soldAt traded i)) else 0) +
        grantedBelow trades path i quantity := by
  unfold grantedBelow
  rw [filter_cons]
  by_cases h : path <+: place
  · rw [if_pos ( isPrefixOf_iff_prefix.mpr h), if_pos h]
    rfl
  · rw [if_neg (fun hp => h ( isPrefixOf_iff_prefix.mp hp)), if_neg h, zero_add]

/-- **One trade** keeps the invariant: the market places on the way to the broker stay
within their limits, and the others are not touched. -/
theorem sound_tradeBroker {run : Run} (hrun : run.Positive) {o : Optimizer} (hsound : Sound run o)
    (k : Nat) : Sound run (tradeBroker run k o).1 := by
  unfold tradeBroker
  cases hbroker : o.brokers[k]? with
  | none => exact hsound
  | some broker =>
    have hfits := hsound.brokers broker (mem_of_getElem? hbroker)
    dsimp only
    generalize (o.contexts broker.uuid).getD { ts1phOptimal := run.clock o.readings } = context
    obtain ⟨hcovers, hlength, hnext⟩ := tradeImpl_covers (hrun.tradeEnv (run.clock o.readings))
      (importOffer_view (along_sized hsound broker.path)).1
      (exportOffer_view (along_sized hsound broker.path)).1
      (importOffer_phasesOk hsound broker.path) hfits context
    generalize broker.tradeImpl (run.tradeEnv (run.clock o.readings))
      (Offer.create run.globals o.market broker.path) context = r at hcovers hlength hnext ⊢
    -- a market place after the trade is one before it, with more in its books if it is
    -- on the way to the broker
    have hnode : ∀ path node, (o.market.trade broker.path r.2.2.1).get? path = some node →
        (∃ old, o.market.get? path = some old ∧ old ∈ o.market.along broker.path ∧
          path <+: broker.path ∧
          node = { old with soldRoot := scheduleAdd old.soldRoot r.2.2.1 }) ∨
        (¬ path <+: broker.path ∧ o.market.get? path = some node) := by
      intro path node hget
      rw [Market.trade, RoseTree.get?_modifyAlong] at hget
      split_ifs at hget with habove
      · obtain ⟨old, hold, rfl⟩ := map_eq_some_iff.mp hget
        exact .inl ⟨old, hold, RoseTree.mem_along hold habove, habove, rfl⟩
      · exact .inr ⟨habove, hget⟩
    constructor
    case fits =>
      intro path node hget
      rcases hnode path node hget with ⟨old, hold, -, -, rfl⟩ | ⟨-, hold⟩
      · have h := hsound.fits path old hold
        refine { h with soldLength := ?_ }
        exact (scheduleAdd_length (h.soldLength.trans hlength.symm)).trans h.soldLength
      · exact hsound.fits path node hold
    case within =>
      intro path node hget
      rcases hnode path node hget with ⟨old, hold, halong, -, rfl⟩ | ⟨-, hold⟩
      · exact withinSold_trade hsound broker.path halong (hsound.within path old hold) hlength
          hcovers
      · exact hsound.within path node hold
    case booked =>
      intro path node hget i
      rw [grantedBelow_cons, grantedBelow_cons]
      rcases hnode path node hget with ⟨old, hold, -, habove, rfl⟩ | ⟨habove, hold⟩
      · have hold' := (hsound.fits path old hold).soldLength.trans hlength.symm
        have hbooked := hsound.booked path old hold i
        rw [if_pos habove, if_pos habove, soldAt_add hold', (add_amounts _ _).1,
          (add_amounts _ _).2, hbooked.1, hbooked.2]
        exact ⟨add_comm _ _, add_comm _ _⟩
      · rw [if_neg habove, if_neg habove, zero_add, zero_add]
        exact hsound.booked path node hold i
    case brokers =>
      intro b hb
      rcases mem_or_eq_of_mem_set hb with hb | rfl
      · exact hsound.brokers b hb
      · exact hnext

/-! ## The whole run -/

def Run.start (config : EnergyManagerConfig) (startTime leapSeconds : Int) (clock : Nat → Int)
    (request : EnergyFlowRequest) : Run where
  config := config
  globals := Globals.init config startTime leapSeconds request
  clock := clock

/-- **No market place is oversold.** After every single trade, what is booked at a
market place and what was granted below it stay within its limits. -/
theorem no_node_oversold (config : EnergyManagerConfig) (startTime leapSeconds : Int)
    (clock : Nat → Int) (request : EnergyFlowRequest) (contexts : Contexts)
    (hvoltage : 0 < config.nominalAcVoltage) (hampere : 0 < config.sliceAmpere)
    (hwatt : 0 < config.sliceWatt) (hphases : NonnegPhaseCounts request) :
    ∀ o ∈ tradingStates (Run.start config startTime leapSeconds clock request) request contexts,
      ∀ path node, o.market.get? path = some node → ∀ i,
        node.Within i (amount (soldAt node.soldRoot i).acMaxCurrentA)
            (amount (soldAt node.soldRoot i).totalPowerW) ∧
          node.Within i (grantedBelow o.trades path i LimitsRes.acMaxCurrentA)
            (grantedBelow o.trades path i LimitsRes.totalPowerW) := by
  intro o ho path node hget i
  have hrun : (Run.start config startTime leapSeconds clock request).Positive :=
    ⟨hvoltage, hampere, hwatt⟩
  obtain ⟨ks, rfl⟩ := tradingStates_run ho
  have hsound : Sound _ (run (tradeStep _) _ ks) := invariant_run (I := Sound _)
    (fun _ k h => sound_tradeBroker hrun h k) ks (sound_create _ hphases contexts)
  have hwithin := hsound.within path node hget i
  have hbooked := hsound.booked path node hget i
  refine ⟨hwithin, ?_⟩
  rw [← hbooked.1, ← hbooked.2]
  exact hwithin

def acEvse (uuid : String) (ampere : ℚ) (phases : Int) : EnergyFlowRequest :=
  .node
    { uuid
      nodeType := .evse
      scheduleImport :=
        [{ timestamp := 0
           limitsToRoot :=
             { acMaxCurrentA := some ⟨ampere, "fuse"⟩
               acMinCurrentA := some ⟨6, "car"⟩
               totalPowerW := some ⟨11000, "fuse"⟩
               acMaxPhaseCount := some ⟨phases, "fuse"⟩ } }] }
    []

/-- Two EVSEs below a connection with 20 A, and with 10 A after half an hour. -/
def twoEvses : EnergyFlowRequest :=
  .node
    { uuid := "fuse"
      scheduleImport :=
        [{ timestamp := 0, limitsToRoot.acMaxCurrentA := some ⟨20, "grid"⟩ },
          { timestamp := 30 * nanosPerMinute, limitsToRoot.acMaxCurrentA := some ⟨10, "grid"⟩ }] }
    [acEvse "evse1" 16 3, acEvse "evse2" 7 1]

def Run.default (request : EnergyFlowRequest) : Run := Run.start {} 0 0 (fun _ => 0) request

theorem two_evses_not_oversold :
    NonnegPhaseCounts twoEvses ∧
      ∀ o ∈ tradingStates (Run.default twoEvses) twoEvses fun _ => none,
        ∀ path node, o.market.get? path = some node → ∀ i,
          node.Within i (amount (soldAt node.soldRoot i).acMaxCurrentA)
              (amount (soldAt node.soldRoot i).totalPowerW) ∧
            node.Within i (grantedBelow o.trades path i LimitsRes.acMaxCurrentA)
              (grantedBelow o.trades path i LimitsRes.totalPowerW) :=
  ⟨by decide, no_node_oversold {} 0 0 (fun _ => 0) twoEvses (fun _ => none) (by decide)
    (one_half_pos : (0 : ℚ) < 1 / 2) (by decide) (by decide)⟩

/-- With a negative phase count a current is bought with a negative power, which is
booked as an export although nothing may be exported. -/
theorem negative_phases_oversell :
    ∃ o ∈ tradingStates (Run.default (acEvse "evse" 6 (-1))) (acEvse "evse" 6 (-1)) fun _ => none,
      ∃ node ∈ o.market.get? [], ¬ node.Within 0 (amount (soldAt node.soldRoot 0).acMaxCurrentA)
        (amount (soldAt node.soldRoot 0).totalPowerW) := by
  decide +kernel

end EverestCore.Energy
