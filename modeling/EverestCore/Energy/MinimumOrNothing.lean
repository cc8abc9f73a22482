import EverestCore.Energy.SlotView

/-!
# Nothing, or at least the minimum

The first current that an EVSE buys in a slot is its minimal current, and everything
after that is bought on the same number of phases. So an EVSE gets nothing or at least
its minimum, and its power is that of its current.
-/

namespace EverestCore.Energy

open EverestCore.Lib

/-! ## The minimal current on the way to the root -/

theorem Asks.bought {sliceAmpere : ℚ} (hslice : 0 ≤ sliceAmpere) {offer : LimitsReq}
    {firstTrade : Bool} {ampere : ℚ} {allowLess : Bool}
    (hasks : Asks sliceAmpere offer firstTrade ampere allowLess) {bought : ℚ}
    (hbought : bought = ampere ∨ allowLess = true ∧ 0 < bought) :
    0 ≤ bought ∧ (firstTrade = true → amount offer.acMinCurrentA ≤ bought) := by
  rcases hasks with ⟨hmin, rfl⟩ | ⟨hmin, rfl, rfl⟩
  · obtain rfl : bought = ampere := hbought.resolve_right fun h => Bool.noConfusion h.1
    refine ⟨(firstMinCurrent_pos hmin).le, fun hfirst => ?_⟩
    unfold firstMinCurrent at hmin
    rw [if_pos hfirst] at hmin
    cases hcurrent : offer.acMinCurrentA with
    | none =>
      rw [hcurrent] at hmin
      cases hmin
    | some minCurrent =>
      rw [hcurrent] at hmin
      dsimp only at hmin
      split_ifs at hmin
      exact (Option.some.inj hmin).le
  · have hnonneg : 0 ≤ bought := by
      rcases hbought with rfl | ⟨-, hpos⟩
      · exact hslice
      · exact hpos.le
    refine ⟨hnonneg, fun hfirst => le_trans ?_ hnonneg⟩
    unfold firstMinCurrent at hmin
    rw [if_pos hfirst] at hmin
    cases hcurrent : offer.acMinCurrentA with
    | none => exact le_refl 0
    | some minCurrent =>
      rw [hcurrent] at hmin
      dsimp only at hmin
      split_ifs at hmin with hpos
      exact not_lt.mp hpos

/-! ## Books of one slot -/

/-- Nothing has been bought yet. -/
structure Untouched (ledger : Ledger) : Prop where
  firstTrade : ledger.slot.firstTrade = true
  blank : Blank ledger.sold
  phaseCount : ledger.sold.acMaxPhaseCount = none

variable (voltage : ℚ)

/-- What is booked in one direction, on some number of phases. -/
structure Booked (isImport : Bool) (phases : Int) (offer : LimitsReq)
    (sold : LimitsRes) : Prop where
  current : ∃ a, 0 ≤ a ∧ amount offer.acMinCurrentA ≤ a ∧
    amount sold.acMaxCurrentA = direction isImport * a
  power : amount sold.totalPowerW =
    if offer.totalPowerW.isSome then amount sold.acMaxCurrentA * phases * voltage else 0
  phaseCount : sold.acMaxPhaseCount.map IntegerWithSource.value = some phases

/-- Trades of one direction with a current limit. -/
def BookedOrUntouched (isImport : Bool) (phases : Int) (offer : LimitsReq)
    (ledger : Ledger) : Prop :=
  Untouched ledger ∨
    ledger.slot.firstTrade = false ∧ 1 ≤ phases ∧ Booked voltage isImport phases offer ledger.sold

/-- The books of a slot: nothing while its direction is not decided, and afterwards trades of
its direction on one number of phases. Without a current limit only power is traded. -/
def Balanced (imp exp : LimitsReq) (ledger : Ledger) : Prop :=
  0 ≤ ledger.slot.numPhases.value ∧
    match ledger.slot.slotType with
    | .undecided => Untouched ledger
    | .importing =>
      if imp.acMaxCurrentA.isSome then
        BookedOrUntouched voltage true ledger.slot.numPhases.value imp ledger
      else amount ledger.sold.acMaxCurrentA = 0
    | .exporting =>
      if exp.acMaxCurrentA.isSome then
        BookedOrUntouched voltage false exportPhases.value exp ledger
      else amount ledger.sold.acMaxCurrentA = 0

theorem add_blank (sold : LimitsRes) {trading : LimitsRes} (hblank : Blank trading)
    (hphases : trading.acMaxPhaseCount = none) :
    amount (sold.add trading).acMaxCurrentA = amount sold.acMaxCurrentA ∧
      amount (sold.add trading).totalPowerW = amount sold.totalPowerW ∧
      (sold.add trading).acMaxPhaseCount = sold.acMaxPhaseCount := by
  obtain ⟨hcurrent, hpower⟩ := add_amounts sold trading
  rw [hcurrent, hpower, hblank.current, hblank.power, add_zero, add_zero]
  refine ⟨rfl, rfl, ?_⟩
  show addPhaseCount sold.acMaxPhaseCount trading.acMaxPhaseCount = _
  rw [hphases]
  cases sold.acMaxPhaseCount <;> rfl

/-- A trade that has not bought anything. -/
structure SlotTrade.Idle (firstTrade : Bool) (t : SlotTrade) : Prop where
  blank : Blank t.trading
  phaseCount : t.trading.acMaxPhaseCount = none
  firstTrade : t.firstTrade = firstTrade

theorem noTrade_idle (imp : LimitsReq) (firstTrade : Bool) :
    (noTrade imp firstTrade).Idle firstTrade :=
  ⟨blank_noTrade imp firstTrade, rfl, rfl⟩

section

variable {voltage : ℚ} {isImport : Bool} {phases : Int} {offer : LimitsReq} {ledger : Ledger}
  {t : SlotTrade}

variable {slot : Slot}

theorem Untouched.idle (h : Untouched ledger) (ht : t.Idle ledger.slot.firstTrade)
    (hslot : slot.firstTrade = t.firstTrade) : Untouched ⟨slot, ledger.sold.add t.trading⟩ := by
  obtain ⟨hcurrent, hpower, hphases⟩ := add_blank ledger.sold ht.blank ht.phaseCount
  refine ⟨hslot.trans (ht.firstTrade.trans h.firstTrade), ⟨?_, ?_⟩, ?_⟩
  · exact hcurrent.trans h.blank.current
  · exact hpower.trans h.blank.power
  · exact hphases.trans h.phaseCount

theorem BookedOrUntouched.idle (h : BookedOrUntouched voltage isImport phases offer ledger)
    (ht : t.Idle ledger.slot.firstTrade) (hslot : slot.firstTrade = t.firstTrade) :
    BookedOrUntouched voltage isImport phases offer ⟨slot, ledger.sold.add t.trading⟩ := by
  rcases h with h | ⟨hfirst, hpos, hbooked⟩
  · exact .inl (h.idle ht hslot)
  · obtain ⟨hcurrent, hpower, hphases⟩ := add_blank ledger.sold ht.blank ht.phaseCount
    refine .inr ⟨hslot.trans (ht.firstTrade.trans hfirst), hpos, ?_, ?_, ?_⟩
    · obtain ⟨a, hnonneg, hmin, heq⟩ := hbooked.current
      exact ⟨a, hnonneg, hmin, hcurrent.trans heq⟩
    · show amount (ledger.sold.add t.trading).totalPowerW = _
      rw [hpower, hcurrent]
      exact hbooked.power
    · show (ledger.sold.add t.trading).acMaxPhaseCount.map _ = _
      rw [hphases]
      exact hbooked.phaseCount

theorem BookedOrUntouched.bought {phaseCount : IntegerWithSource}
    (h : BookedOrUntouched voltage isImport phases offer ledger)
    (hphases : ledger.slot.firstTrade = false → phaseCount.value = phases)
    (hpos : 1 ≤ phaseCount.value) (ht : t.Idle ledger.slot.firstTrade) {bought : ℚ}
    (hnonneg : 0 ≤ bought)
    (hmin : ledger.slot.firstTrade = true → amount offer.acMinCurrentA ≤ bought)
    (source : String) (hslot : slot.firstTrade = false) :
    BookedOrUntouched voltage isImport phaseCount.value offer
      ⟨slot, ledger.sold.add (bookedTrade isImport voltage bought phaseCount source
        offer.totalPowerW.isSome t).trading⟩ := by
  obtain ⟨hcurrent, hpower⟩ := add_amounts ledger.sold
    (bookedTrade isImport voltage bought phaseCount source offer.totalPowerW.isSome t).trading
  have hbookedPower : amount (bookedTrade isImport voltage bought phaseCount source
      offer.totalPowerW.isSome t).trading.totalPowerW =
        if offer.totalPowerW.isSome then direction isImport * bought * phaseCount.value * voltage
        else 0 := by
    unfold bookedTrade
    split_ifs
    · rfl
    · exact ht.blank.power
  refine .inr ⟨hslot, hpos, ?_⟩
  rcases h with h | ⟨hfirst, -, hbooked⟩
  · rw [h.blank.current, zero_add] at hcurrent
    rw [h.blank.power, zero_add, hbookedPower] at hpower
    refine ⟨⟨bought, hnonneg, hmin h.firstTrade, hcurrent⟩, ?_, ?_⟩
    · rw [hpower, hcurrent]
      rfl
    · show (addPhaseCount ledger.sold.acMaxPhaseCount (some phaseCount)).map _ = _
      rw [h.phaseCount]
      rfl
  · obtain ⟨a, ha, hleast, heq⟩ := hbooked.current
    obtain rfl := hphases hfirst
    rw [hbookedPower, hbooked.power] at hpower
    refine ⟨⟨a + bought, add_nonneg ha hnonneg, by linarith, ?_⟩, ?_, ?_⟩
    · rw [hcurrent, heq, mul_add]
      rfl
    · rw [hpower, hcurrent]
      split_ifs
      · show _ + direction isImport * bought * phaseCount.value * voltage =
          (_ + direction isImport * bought) * phaseCount.value * voltage
        ring
      · exact add_zero 0
    · -- the greater of two equal phase counts
      obtain ⟨n, hn, hvalue⟩ := Option.map_eq_some_iff.mp hbooked.phaseCount
      show (addPhaseCount ledger.sold.acMaxPhaseCount (some phaseCount)).map _ = _
      rw [hn]
      unfold addPhaseCount
      dsimp only
      split_ifs
      · rfl
      · exact congrArg some hvalue

theorem BookedOrUntouched.buyAmpere {sliceAmpere : ℚ} (hslice : 0 ≤ sliceAmpere)
    {phaseCount : IntegerWithSource} (h : BookedOrUntouched voltage isImport phases offer ledger)
    (hphases : ledger.slot.firstTrade = false → phaseCount.value = phases)
    (hpos : 1 ≤ phaseCount.value) (ht : t.Idle ledger.slot.firstTrade) {current : LimitsReq}
    (halike : current.Alike offer) {ampere : ℚ} {allowLess : Bool}
    (hasks : Asks sliceAmpere current ledger.slot.firstTrade ampere allowLess)
    (hslot : slot.firstTrade =
      (buyAmpere voltage current ampere allowLess isImport phaseCount t).1.firstTrade) :
    BookedOrUntouched voltage isImport phaseCount.value offer
      ⟨slot, ledger.sold.add
        (buyAmpere voltage current ampere allowLess isImport phaseCount t).1.trading⟩ := by
  rcases buyAmpere_cases voltage current ampere allowLess isImport phaseCount t with
    hnothing | ⟨bought, source, hbought, -, -, heq⟩
  · rw [hnothing] at hslot ⊢
    rcases h with h | hbooked
    · exact .inl (h.idle ht hslot)
    · rw [hphases hbooked.1]
      exact BookedOrUntouched.idle (.inr hbooked) ht hslot
  · rw [heq] at hslot ⊢
    have hamount := hasks.bought hslice hbought
    rw [halike.minCurrent] at hamount
    rw [halike.power]
    exact h.bought hphases hpos ht hamount.1 hamount.2 source hslot

end

/-! ## One trade of a slot -/

def PositivePhases (limits : LimitsReq) : Prop :=
  1 ≤ limits.maxPhases.value ∧ 1 ≤ limits.minPhases.value ∧ 1 ≤ limits.activePhases
deriving Decidable

theorem LimitsReq.Alike.phases {a b : LimitsReq} (h : a.Alike b) :
    a.maxPhases = b.maxPhases ∧ a.minPhases = b.minPhases ∧ a.activePhases = b.activePhases := by
  unfold LimitsReq.maxPhases LimitsReq.minPhases LimitsReq.activePhases
  rw [h.maxPhaseCount, h.minPhaseCount, h.activePhaseCount]
  exact ⟨rfl, rfl, rfl⟩

theorem PositivePhases.chosen {offer : LimitsReq} (h : PositivePhases offer) {phases : Int}
    (hchoice : offer.Chooses phases) : 1 ≤ phases := by
  rcases hchoice with rfl | rfl | rfl
  · exact h.2.1
  · exact h.1
  · exact h.2.2

variable {imp : LimitsReq}

theorem ImportPhases.pos {env : TradeEnv} {active : Bool} {slot : Slot} {context : BrokerContext}
    {phases : IntegerWithSource} (h : ImportPhases env active imp slot context phases)
    (hpos : PositivePhases imp) (hslot : 1 ≤ slot.numPhases.value) : 1 ≤ phases.value :=
  h.of_choices hpos.chosen (le_refl 1) hslot

theorem ImportPhases.stay {env : TradeEnv} {active : Bool} {slot : Slot} {context : BrokerContext}
    {phases : IntegerWithSource} (h : ImportPhases env active imp slot context phases)
    (hfirst : slot.firstTrade = false) :
    phases = slot.numPhases := by
  unfold ImportPhases firstMinCurrent at h
  rw [hfirst] at h
  exact h

section

variable {voltage : ℚ} {imp exp imp₀ exp₀ : LimitsReq} {ledger : Ledger}

theorem Balanced.ready (h : Balanced voltage imp₀ exp₀ ledger) (hactive : 1 ≤ imp.activePhases)
    (exp : LimitsReq) :
    Balanced voltage imp₀ exp₀ { ledger with slot := ledger.slot.ready imp exp } ∧
      1 ≤ (ledger.slot.ready imp exp).numPhases.value := by
  obtain ⟨hnonneg, hbooks⟩ := h
  have hphases : 1 ≤ (ledger.slot.ready imp exp).numPhases.value := by
    show 1 ≤ (if ledger.slot.numPhases.value = 0 then _ else _ : IntegerWithSource).value
    split_ifs
    · exact hactive
    · omega
  have hkept : 1 ≤ ledger.slot.numPhases.value →
      (ledger.slot.ready imp exp).numPhases = ledger.slot.numPhases :=
    fun hpos => if_neg (by omega)
  refine ⟨⟨le_trans zero_le_one hphases, ?_⟩, hphases⟩
  have huntouched : Untouched ledger →
      Untouched { ledger with slot := ledger.slot.ready imp exp } :=
    fun h => { h with }
  have hready : ledger.slot.slotType ≠ .undecided →
      (ledger.slot.ready imp exp).slotType = ledger.slot.slotType := fun h => if_neg h
  cases htype : ledger.slot.slotType with
  | undecided =>
    rw [htype] at hbooks
    split
    · exact huntouched hbooks
    · split_ifs
      · exact .inl (huntouched hbooks)
      · exact hbooks.blank.current
    · split_ifs
      · exact .inl (huntouched hbooks)
      · exact hbooks.blank.current
  | importing =>
    rw [htype] at hbooks
    rw [hready (by simp [htype]), htype]
    dsimp only at hbooks ⊢
    split_ifs at hbooks ⊢
    · rcases hbooks with h | ⟨hfirst, hpos, hbooked⟩
      · exact .inl (huntouched h)
      · rw [hkept hpos]
        exact .inr ⟨hfirst, hpos, hbooked⟩
    · exact hbooks
  | exporting =>
    rw [htype] at hbooks
    rw [hready (by simp [htype]), htype]
    dsimp only at hbooks ⊢
    split_ifs at hbooks ⊢
    · exact hbooks.imp huntouched id
    · exact hbooks

theorem buyWatt_current (offer : LimitsReq) (watt : ℚ) (allowLess isImport : Bool) (t : SlotTrade) :
    (buyWatt offer watt allowLess isImport t).1.trading.acMaxCurrentA =
      t.trading.acMaxCurrentA := by
  unfold buyWatt
  cases offer.totalPowerW with
  | none => rfl
  | some totalPower =>
    dsimp only
    split_ifs <;> rfl

variable {env : TradeEnv}

theorem Balanced.tradeImport (hslice : 0 ≤ env.sliceAmpere) (himp : imp.Alike imp₀)
    (hpos : PositivePhases imp) (h : Balanced env.voltage imp₀ exp₀ ledger)
    (htype : ledger.slot.slotType = .importing) (hphases : 1 ≤ ledger.slot.numPhases.value)
    (hcurrent : imp.acMaxCurrentA.isSome) (active : Bool) (context : BrokerContext)
    {t : SlotTrade} (ht : t.Idle ledger.slot.firstTrade) :
    let r := tradeImportAmpere env active imp ledger.slot context t
    Balanced env.voltage imp₀ exp₀
      ⟨{ r.1 with firstTrade := r.2.2.firstTrade }, ledger.sold.add r.2.2.trading⟩ := by
  obtain ⟨phases, ampere, allowLess, hasks, hchosen, hslot, htrade⟩ :=
    tradeImportAmpere_eq env active imp ledger.slot context t
  have hone := hchosen.pos hpos hphases
  have hbooks := h.2
  rw [htype] at hbooks
  dsimp only at hbooks ⊢
  rw [if_pos (himp.current ▸ hcurrent)] at hbooks
  rw [hslot, htrade]
  refine ⟨le_trans zero_le_one hone, ?_⟩
  rw [htype]
  rw [if_pos (himp.current ▸ hcurrent)]
  exact hbooks.buyAmpere hslice (fun hfirst => by rw [hchosen.stay hfirst]) hone ht himp hasks rfl

theorem Balanced.tradeExport (hslice : 0 ≤ env.sliceAmpere) (hexp : exp.Alike exp₀)
    (h : Balanced env.voltage imp₀ exp₀ ledger) (htype : ledger.slot.slotType = .exporting)
    {t : SlotTrade} (ht : t.Idle ledger.slot.firstTrade) :
    let r := tradeExport env exp ledger.slot t
    Balanced env.voltage imp₀ exp₀
      ⟨{ ledger.slot with firstTrade := r.firstTrade }, ledger.sold.add r.trading⟩ := by
  have hbooks := h.2
  rw [htype] at hbooks
  refine ⟨h.1, ?_⟩
  dsimp only at hbooks ⊢
  rw [htype]
  dsimp only
  split_ifs at hbooks ⊢ with hcurrent
  · obtain ⟨ampere, allowLess, hasks, htrade⟩ :=
      tradeExport_eq env (hexp.current.trans hcurrent) ledger.slot t
    rw [htrade]
    exact hbooks.buyAmpere hslice (fun _ => rfl) (by decide) ht hexp hasks rfl
  · have hnone : exp.acMaxCurrentA = none := by
      rw [← Option.not_isSome_iff_eq_none, hexp.current]
      exact hcurrent
    have hsame : (Energy.tradeExport env exp ledger.slot t).trading.acMaxCurrentA =
        t.trading.acMaxCurrentA := by
      unfold Energy.tradeExport
      rw [hnone]
      cases exp.totalPowerW with
      | none => rfl
      | some totalPower => exact buyWatt_current exp _ _ _ t
    rw [(add_amounts _ _).1, hbooks, hsame, ht.blank.current, add_zero]

theorem Balanced.tradeOther (hslice : 0 ≤ env.sliceAmpere) (himp : imp.Alike imp₀)
    (hexp : exp.Alike exp₀) (h : Balanced env.voltage imp₀ exp₀ ledger)
    (hnot : ¬ (ledger.slot.slotType = .importing ∧ imp.acMaxCurrentA.isSome)) :
    let t := tradeOther env imp exp ledger.slot
    Balanced env.voltage imp₀ exp₀
      ⟨{ ledger.slot with firstTrade := t.firstTrade }, ledger.sold.add t.trading⟩ := by
  have ht := noTrade_idle imp ledger.slot.firstTrade
  unfold Energy.tradeOther
  dsimp only
  cases htype : ledger.slot.slotType with
  | undecided =>
    have huntouched := h.2
    rw [htype] at huntouched
    exact ⟨h.1, Untouched.idle huntouched ht rfl⟩
  | exporting =>
    have hexport := h.tradeExport hslice hexp htype ht
    dsimp only at hexport
    rw [htype] at hexport
    exact hexport
  | importing =>
    have hnone : ¬ imp₀.acMaxCurrentA.isSome := fun hsome =>
      hnot ⟨htype, himp.current.trans hsome⟩
    have hbooks := h.2
    rw [htype] at hbooks
    rw [if_neg hnone] at hbooks
    refine ⟨h.1, ?_⟩
    dsimp only
    rw [if_neg hnone, (add_amounts _ _).1, hbooks, zero_add]
    split_ifs
    · rw [buyWatt_current]
      exact ht.blank.current
    · exact ht.blank.current

/-- One trade. -/
theorem Balanced.trade (env : TradeEnv) (hslice : 0 ≤ env.sliceAmpere) (himp : imp.Alike imp₀)
    (hexp : exp.Alike exp₀) (hpos : PositivePhases imp)
    (h : Balanced env.voltage imp₀ exp₀ ledger) (active : Bool) (context : BrokerContext) :
    Balanced env.voltage imp₀ exp₀ (ledger.trade env active imp exp context) := by
  obtain ⟨hready, hphases⟩ := h.ready hpos.2.2 exp
  unfold Ledger.trade
  by_cases hcurrent : ImportsCurrent imp exp ledger.slot
  · rw [tradeSlot_of_importsCurrent hcurrent]
    exact hready.tradeImport hslice himp hpos hcurrent.1 hphases hcurrent.2 active context
      (noTrade_idle imp ledger.slot.firstTrade)
  · rw [tradeSlot_of_not_importsCurrent hcurrent]
    exact hready.tradeOther hslice himp hexp hcurrent

end

/-! ## The whole run -/

section

variable {voltage : ℚ} {imp exp : LimitsReq}

variable (hvoltage : 0 ≤ voltage) {ledger : Ledger}

include hvoltage

end

end EverestCore.Energy
