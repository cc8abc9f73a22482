import EverestCore.Energy.Optimizer

/-!
# What a slot buys

Whatever a broker buys in a slot is covered by the offer of the direction it buys
in, in current and in power, as long as phase counts are not negative. Schedules and offers are
read slot by slot.
-/

namespace EverestCore.Energy

/-- A number that is not set counts as zero. -/
def amount (n : Option NumberWithSource) : ℚ := (n.map (·.value)).getD 0

@[simp] theorem amount_none : amount none = 0 := rfl

@[simp] theorem amount_some (n : NumberWithSource) : amount (some n) = n.value := rfl

/-! ## Phase counts -/

/-- None of the phase counts is negative. -/
def NonnegPhases (limits : LimitsReq) : Prop :=
  (∀ n ∈ limits.acMaxPhaseCount, 0 ≤ n.value) ∧ (∀ n ∈ limits.acMinPhaseCount, 0 ≤ n.value) ∧
    ∀ n ∈ limits.acNumberOfActivePhases, 0 ≤ n
deriving Decidable

section

variable {offer : LimitsReq}

theorem activePhases_nonneg (h : NonnegPhases offer) : 0 ≤ offer.activePhases := by
  unfold LimitsReq.activePhases
  cases hactive : offer.acNumberOfActivePhases with
  | none => decide
  | some n => exact h.2.2 n hactive

def LimitsReq.Chooses (offer : LimitsReq) (phases : Int) : Prop :=
  phases = offer.minPhases.value ∨ phases = offer.maxPhases.value ∨ phases = offer.activePhases

theorem LimitsReq.Chooses.nonneg (h : NonnegPhases offer) {phases : Int}
    (hchoice : offer.Chooses phases) : 0 ≤ phases := by
  rcases hchoice with rfl | rfl | rfl
  · unfold LimitsReq.minPhases
    cases hmin : offer.acMinPhaseCount with
    | none => decide
    | some n => exact h.2.1 n hmin
  · unfold LimitsReq.maxPhases
    cases hmax : offer.acMaxPhaseCount with
    | none => decide
    | some n => exact h.1 n hmax
  · exact activePhases_nonneg h

variable (env : TradeEnv) (offer)

theorem optimalPhases_chooses (totalPower : NumberWithSource) :
    offer.Chooses (optimalPhases env offer totalPower).value := by
  unfold optimalPhases
  split_ifs
  · exact .inl rfl
  · exact .inr (.inl rfl)
  · exact .inr (.inr rfl)

theorem stickyPhases_chooses : offer.Chooses (stickyPhases env offer).value := by
  unfold stickyPhases
  cases env.config.stickyness with
  | singlePhase => exact .inl rfl
  | threePhase => exact .inr (.inl rfl)
  | dontChange => exact .inr (.inr rfl)

theorem decidePhases_chooses (active firstTrade : Bool) (context : BrokerContext) :
    offer.Chooses (decidePhases env offer active firstTrade context).1.value := by
  unfold decidePhases
  cases firstTrade with
  | false => exact .inr (.inr rfl)
  | true =>
    cases offer.totalPowerW with
    | none => exact .inr (.inl rfl)
    | some totalPower =>
      rw [if_pos rfl]
      split_ifs
      · unfold switchedPhases
        dsimp only
        split_ifs
        all_goals first
          | exact .inl rfl
          | exact stickyPhases_chooses offer env
          | exact optimalPhases_chooses offer env totalPower
      · exact .inr (.inl rfl)

end

/-! ## Buying in one direction -/

variable (isImport : Bool)

/-- An amount bought in a direction, no more than the limit of that direction. -/
def Bought (limit : Option NumberWithSource) (x : ℚ) : Prop :=
  ∃ y, x = direction isImport * y ∧ 0 ≤ y ∧ (0 < y → ∃ o ∈ limit, y ≤ o.value)

theorem bought_zero (limit : Option NumberWithSource) : Bought isImport limit 0 :=
  ⟨0, (mul_zero _).symm, le_refl 0, fun h => absurd h (lt_irrefl 0)⟩

theorem bought_of_le {limit : Option NumberWithSource} {o : NumberWithSource}
    (ho : limit = some o) {y : ℚ} (hy : 0 ≤ y) (hle : y ≤ o.value) :
    Bought isImport limit (direction isImport * y) :=
  ⟨y, rfl, hy, fun _ => ⟨o, ho, hle⟩⟩

/-- Current and power that were bought in a direction. -/
structure Affordable (offer : LimitsReq) (trading : LimitsRes) : Prop where
  current : Bought isImport offer.acMaxCurrentA (amount trading.acMaxCurrentA)
  power : Bought isImport offer.totalPowerW (amount trading.totalPowerW)

/-- Nothing is bought. -/
structure Blank (trading : LimitsRes) : Prop where
  current : amount trading.acMaxCurrentA = 0
  power : amount trading.totalPowerW = 0

section

variable {offer : LimitsReq} {t : SlotTrade}

theorem Blank.affordable (h : Blank t.trading) (isImport : Bool) (offer : LimitsReq) :
    Affordable isImport offer t.trading where
  current := by rw [h.current]; exact bought_zero isImport _
  power := by rw [h.power]; exact bought_zero isImport _

variable {phases : IntegerWithSource} {voltage ampere : ℚ}

theorem reduced_ampere {current power phases voltage : ℚ} (hcurrent : 0 < current)
    (hpower : 0 < power) (hshort : power < current * phases * voltage) :
    0 < power / phases / voltage ∧ power / phases / voltage ≤ current ∧
      power / phases / voltage * phases * voltage ≤ power := by
  have hproduct : 0 < phases * voltage := by
    rw [mul_assoc] at hshort
    exact pos_of_mul_pos_right (hpower.trans hshort) hcurrent.le
  rw [div_div]
  refine ⟨div_pos hpower hproduct, ?_, ?_⟩
  · rw [div_le_iff₀ hproduct, ← mul_assoc]
    exact hshort.le
  · rw [mul_assoc, div_mul_cancel₀ _ hproduct.ne']

/-- What is booked when a current is bought. -/
def bookedTrade (voltage amount : ℚ) (phases : IntegerWithSource)
    (source : String) (hasPower : Bool) (t : SlotTrade) : SlotTrade where
  trading :=
    { acMaxCurrentA := some ⟨direction isImport * amount, source⟩
      acMaxPhaseCount := some phases
      totalPowerW :=
        if hasPower then some ⟨direction isImport * amount * phases.value * voltage, source⟩
        else t.trading.totalPowerW }
  traded := true
  firstTrade := false

/-- **Everything a purchase of current can do**: nothing, or some current within the offer is
booked. It is the current asked for, or, where less is allowed, a part of it. -/
theorem buyAmpere_cases (voltage : ℚ) (offer : LimitsReq) (ampere : ℚ) (allowLess isImport : Bool)
    (phases : IntegerWithSource) (t : SlotTrade) :
    buyAmpere voltage offer ampere allowLess isImport phases t = (t, false) ∨
      ∃ bought source, (bought = ampere ∨ allowLess = true ∧ 0 < bought) ∧
        (∃ o, offer.acMaxCurrentA = some o ∧ bought ≤ o.value) ∧
        (∀ o, offer.totalPowerW = some o → bought * phases.value * voltage ≤ o.value) ∧
        buyAmpere voltage offer ampere allowLess isImport phases t =
          (bookedTrade isImport voltage bought phases source offer.totalPowerW.isSome t, true) := by
  unfold buyAmpere
  cases hmax : offer.acMaxCurrentA with
  | none => exact .inl rfl
  | some maxCurrent =>
    cases hpower : offer.totalPowerW with
    | none =>
      dsimp only
      split_ifs with henough hless
      · exact .inr ⟨ampere, _, .inl rfl, ⟨_, rfl, henough⟩, nofun, rfl⟩
      · exact .inr ⟨maxCurrent.value, _, .inr hless, ⟨_, rfl, le_refl _⟩, nofun, rfl⟩
      · exact .inl rfl
    | some totalPower =>
      have hwithin : ∀ {bought : ℚ}, bought * phases.value * voltage ≤ totalPower.value →
          ∀ o, some totalPower = some o → bought * phases.value * voltage ≤ o.value := by
        rintro bought hle o ⟨⟩
        exact hle
      dsimp only
      split_ifs with henough hwatt hless hpos hall hless hpos hall
      · exact .inr ⟨ampere, _, .inl rfl, ⟨_, rfl, henough⟩, hwithin hwatt, rfl⟩
      -- the leftovers, once for too little power and once for too little current
      · exact .inr ⟨_, _, .inr hless, ⟨_, rfl, le_refl _⟩, hwithin hall, rfl⟩
      · obtain ⟨h₁, h₂, h₃⟩ := reduced_ampere hless.2 hpos (not_le.mp hall)
        exact .inr ⟨_, _, .inr ⟨hless.1, h₁⟩, ⟨_, rfl, h₂⟩, hwithin h₃, rfl⟩
      · exact .inl rfl
      · exact .inl rfl
      · exact .inr ⟨_, _, .inr hless, ⟨_, rfl, le_refl _⟩, hwithin hall, rfl⟩
      · obtain ⟨h₁, h₂, h₃⟩ := reduced_ampere hless.2 hpos (not_le.mp hall)
        exact .inr ⟨_, _, .inr ⟨hless.1, h₁⟩, ⟨_, rfl, h₂⟩, hwithin h₃, rfl⟩
      · exact .inl rfl
      · exact .inl rfl

theorem buyAmpere_affordable (hblank : Blank t.trading) (hv : 0 < voltage)
    (hphases : 0 ≤ phases.value) (ha : 0 < ampere) (allowLess isImport : Bool) :
    Affordable isImport offer
      (buyAmpere voltage offer ampere allowLess isImport phases t).1.trading := by
  rcases buyAmpere_cases voltage offer ampere allowLess isImport phases t with
    hnothing | ⟨bought, source, hbought, ⟨maxCurrent, hmax, hcurrent⟩, hwatt, heq⟩
  · rw [hnothing]
    exact hblank.affordable isImport offer
  · have hpos : 0 < bought := by
      rcases hbought with rfl | ⟨-, hpos⟩
      · exact ha
      · exact hpos
    rw [heq]
    refine ⟨bought_of_le isImport hmax hpos.le hcurrent, ?_⟩
    unfold bookedTrade
    cases hpower : offer.totalPowerW with
    | none => exact hblank.power ▸ bought_zero isImport none
    | some totalPower =>
      have hnonneg : (0 : ℚ) ≤ bought * phases.value * voltage := by
        have : (0 : ℚ) ≤ phases.value := by exact_mod_cast hphases
        positivity
      have hassoc : direction isImport * bought * phases.value * voltage =
          direction isImport * (bought * phases.value * voltage) := by ring
      show Bought isImport (some totalPower) (direction isImport * bought * phases.value * voltage)
      rw [hassoc]
      exact bought_of_le isImport rfl hnonneg (hwatt totalPower hpower)

theorem buyAmpere_failed {allowLess isImport : Bool}
    (h : (buyAmpere voltage offer ampere allowLess isImport phases t).2 = false) :
    (buyAmpere voltage offer ampere allowLess isImport phases t).1 = t := by
  rcases buyAmpere_cases voltage offer ampere allowLess isImport phases t with
    hnothing | ⟨_, _, -, -, -, heq⟩
  · rw [hnothing]
  · rw [heq] at h
    cases h

theorem buyWatt_affordable (hblank : Blank t.trading) {watt : ℚ} (hw : 0 < watt)
    (allowLess isImport : Bool) :
    Affordable isImport offer (buyWatt offer watt allowLess isImport t).1.trading := by
  have hnothing := hblank.affordable isImport offer
  unfold buyWatt
  cases hpower : offer.totalPowerW with
  | none => exact hnothing
  | some totalPower =>
    dsimp only
    split_ifs with henough hless
    · exact ⟨hnothing.current, bought_of_le isImport hpower hw.le henough⟩
    · exact ⟨hnothing.current, bought_of_le isImport hpower hless.2.le (le_refl _)⟩
    · exact hnothing

end

/-! ## One slot -/

/-- What is bought does not exceed the offer of its direction. -/
structure Covered (imp exp : Option NumberWithSource) (x : ℚ) : Prop where
  of_import : 0 < x → ∃ o ∈ imp, x ≤ o.value
  of_export : x < 0 → ∃ o ∈ exp, -x ≤ o.value

/-- Current and power are covered. -/
structure Covers (imp exp : LimitsReq) (trading : LimitsRes) : Prop where
  current : Covered imp.acMaxCurrentA exp.acMaxCurrentA (amount trading.acMaxCurrentA)
  power : Covered imp.totalPowerW exp.totalPowerW (amount trading.totalPowerW)

theorem Bought.import_covered {imp : Option NumberWithSource} {x : ℚ} (h : Bought true imp x)
    (exp : Option NumberWithSource) : Covered imp exp x := by
  obtain ⟨y, rfl, hy, hle⟩ := h
  have hsign : direction true * y = y := one_mul y
  rw [hsign]
  exact ⟨hle, fun hneg => absurd hneg (not_lt.mpr hy)⟩

theorem Bought.export_covered {exp : Option NumberWithSource} {x : ℚ} (h : Bought false exp x)
    (imp : Option NumberWithSource) : Covered imp exp x := by
  obtain ⟨y, rfl, hy, hle⟩ := h
  have hsign : direction false * y = -y := neg_one_mul y
  rw [hsign]
  refine ⟨fun hpos => ?_, fun hneg => ?_⟩
  · exact absurd hpos (not_lt.mpr (neg_nonpos.mpr hy))
  · rw [neg_neg]
    exact hle (neg_lt_zero.mp hneg)

theorem Affordable.import_covers {imp : LimitsReq} {trading : LimitsRes}
    (h : Affordable true imp trading) (exp : LimitsReq) : Covers imp exp trading :=
  ⟨h.current.import_covered _, h.power.import_covered _⟩

theorem Affordable.export_covers {exp : LimitsReq} {trading : LimitsRes}
    (h : Affordable false exp trading) (imp : LimitsReq) : Covers imp exp trading :=
  ⟨h.current.export_covered _, h.power.export_covered _⟩

theorem blank_noTrade (imp : LimitsReq) (firstTrade : Bool) :
    Blank (noTrade imp firstTrade).trading where
  current := by cases h : imp.acMaxCurrentA <;> simp [noTrade, h]
  power := by cases h : imp.totalPowerW <;> simp [noTrade, h]

variable (env : TradeEnv)

/-- What a run promises its brokers: slices and the voltage are positive. -/
structure TradeEnv.Positive : Prop where
  voltage : 0 < env.voltage
  sliceAmpere : 0 < env.sliceAmpere
  sliceWatt : 0 < env.sliceWatt

theorem firstMinCurrent_pos {firstTrade : Bool} {offer : LimitsReq} {minCurrent : ℚ}
    (h : firstMinCurrent firstTrade offer = some minCurrent) : 0 < minCurrent := by
  unfold firstMinCurrent at h
  split at h
  · split at h
    · split_ifs at h with hpos
      cases h
      exact hpos
    · cases h
  · cases h

/-- What the strategy asks for: the minimal current in the first trade, if there is one, and
otherwise a slice or less. -/
def Asks (sliceAmpere : ℚ) (offer : LimitsReq) (firstTrade : Bool) (ampere : ℚ)
    (allowLess : Bool) : Prop :=
  firstMinCurrent firstTrade offer = some ampere ∧ allowLess = false ∨
    firstMinCurrent firstTrade offer = none ∧ ampere = sliceAmpere ∧ allowLess = true

/-- The phases of an import: in a first trade with a minimal current they are chosen or one
phase is tried instead, and later they stay as they are. -/
def ImportPhases (active : Bool) (imp : LimitsReq) (slot : Slot)
    (context : BrokerContext) (phases : IntegerWithSource) : Prop :=
  match firstMinCurrent slot.firstTrade imp with
  | some _ =>
    phases = (decidePhases env imp active slot.firstTrade context).1 ∨
      phases.value = 1 ∧ env.config.switch1ph3phMode ≠ .never
  | none => phases = slot.numPhases

theorem ImportPhases.of_choices {env : TradeEnv} {active : Bool} {imp : LimitsReq} {slot : Slot}
    {context : BrokerContext} {phases : IntegerWithSource} {P : Int → Prop}
    (h : ImportPhases env active imp slot context phases) (hchosen : ∀ {n}, imp.Chooses n → P n)
    (hone : P 1) (hslot : P slot.numPhases.value) : P phases.value := by
  unfold ImportPhases at h
  split at h
  · rcases h with rfl | ⟨hvalue, -⟩
    · exact hchosen (decidePhases_chooses imp env active slot.firstTrade context)
    · exact hvalue ▸ hone
  · exact h ▸ hslot

theorem tradeImportAmpere_eq (active : Bool) (imp : LimitsReq) (slot : Slot)
    (context : BrokerContext) (t : SlotTrade) :
    ∃ phases ampere allowLess, Asks env.sliceAmpere imp slot.firstTrade ampere allowLess ∧
      ImportPhases env active imp slot context phases ∧
      (tradeImportAmpere env active imp slot context t).1 = { slot with numPhases := phases } ∧
      (tradeImportAmpere env active imp slot context t).2.2 =
        (buyAmpere env.voltage imp ampere allowLess true phases t).1 := by
  unfold tradeImportAmpere Asks ImportPhases
  cases hmin : firstMinCurrent slot.firstTrade imp with
  | none => exact ⟨slot.numPhases, _, _, .inr ⟨rfl, rfl, rfl⟩, rfl, rfl, rfl⟩
  | some minCurrent =>
    dsimp only
    split_ifs with hfailed
    · -- nothing was bought on all phases, so one phase starts from nothing
      rw [buyAmpere_failed hfailed.1]
      exact ⟨_, _, _, .inl ⟨rfl, rfl⟩, .inr ⟨rfl, hfailed.2.1⟩, rfl, rfl⟩
    · exact ⟨_, _, _, .inl ⟨rfl, rfl⟩, .inl rfl, rfl, rfl⟩

theorem tradeExport_eq {exp : LimitsReq} (hcurrent : exp.acMaxCurrentA.isSome)
    (slot : Slot) (t : SlotTrade) :
    ∃ ampere allowLess, Asks env.sliceAmpere exp slot.firstTrade ampere allowLess ∧
      tradeExport env exp slot t =
        (buyAmpere env.voltage exp ampere allowLess false exportPhases t).1 := by
  obtain ⟨maxCurrent, hmax⟩ := Option.isSome_iff_exists.mp hcurrent
  unfold tradeExport Asks
  rw [hmax]
  cases hmin : firstMinCurrent slot.firstTrade exp with
  | none => exact ⟨_, _, .inr ⟨rfl, rfl, rfl⟩, rfl⟩
  | some minCurrent => exact ⟨_, _, .inl ⟨rfl, rfl⟩, rfl⟩

theorem Asks.pos {sliceAmpere : ℚ} (hslice : 0 < sliceAmpere) {offer : LimitsReq}
    {firstTrade : Bool} {ampere : ℚ} {allowLess : Bool}
    (h : Asks sliceAmpere offer firstTrade ampere allowLess) : 0 < ampere := by
  rcases h with ⟨hmin, -⟩ | ⟨-, rfl, -⟩
  · exact firstMinCurrent_pos hmin
  · exact hslice

section

variable {env : TradeEnv} (henv : env.Positive)

include henv

/-- An import is covered by the offer. -/
theorem tradeImportAmpere_affordable {imp : LimitsReq} {slot : Slot} {t : SlotTrade}
    (hblank : Blank t.trading) (hphases : NonnegPhases imp) (hslot : 0 ≤ slot.numPhases.value)
    (active : Bool) (context : BrokerContext) :
    Affordable true imp (tradeImportAmpere env active imp slot context t).2.2.trading ∧
      0 ≤ (tradeImportAmpere env active imp slot context t).1.numPhases.value := by
  obtain ⟨phases, ampere, allowLess, hasks, hchosen, hslot', htrade⟩ :=
    tradeImportAmpere_eq env active imp slot context t
  have hnonneg : 0 ≤ phases.value :=
    hchosen.of_choices (fun h => h.nonneg hphases) zero_le_one hslot
  rw [hslot', htrade]
  exact ⟨buyAmpere_affordable hblank henv.voltage hnonneg (hasks.pos henv.sliceAmpere) allowLess
    true, hnonneg⟩

/-- So is an export. -/
theorem tradeExport_affordable {exp : LimitsReq} {t : SlotTrade} (hblank : Blank t.trading)
    (slot : Slot) : Affordable false exp (tradeExport env exp slot t).trading := by
  cases hmax : exp.acMaxCurrentA with
  | some maxCurrent =>
    obtain ⟨ampere, allowLess, hasks, htrade⟩ :=
      tradeExport_eq env (Option.isSome_iff_exists.mpr ⟨maxCurrent, hmax⟩) slot t
    rw [htrade]
    exact buyAmpere_affordable hblank henv.voltage (by decide) (hasks.pos henv.sliceAmpere)
      allowLess false
  | none =>
    unfold tradeExport
    rw [hmax]
    cases hpower : exp.totalPowerW with
    | some totalPower => exact buyWatt_affordable hblank henv.sliceWatt true false
    | none => exact hblank.affordable false exp

/-- **One slot.** What is bought is covered by what was offered. -/
theorem tradeSlot_covers {imp : LimitsReq} (exp : LimitsReq) {slot : Slot}
    (hphases : NonnegPhases imp) (hslot : 0 ≤ slot.numPhases.value) (active : Bool)
    (context : BrokerContext) :
    Covers imp exp (tradeSlot env active imp exp slot context).2.2.trading ∧
      0 ≤ (tradeSlot env active imp exp slot context).1.numPhases.value := by
  have hready : 0 ≤ (slot.ready imp exp).numPhases.value := by
    show 0 ≤ (if slot.numPhases.value = 0 then _ else _ : IntegerWithSource).value
    split_ifs
    · exact activePhases_nonneg hphases
    · exact hslot
  unfold tradeSlot
  generalize slot.ready imp exp = ready at hready ⊢
  dsimp only
  have hblank := blank_noTrade imp ready.firstTrade
  cases hdir : ready.slotType with
  | undecided => exact ⟨(hblank.affordable true imp).import_covers exp, hready⟩
  | exporting => exact ⟨(tradeExport_affordable henv hblank ready).export_covers imp, hready⟩
  | importing =>
    cases hmax : imp.acMaxCurrentA with
    | some maxCurrent =>
      have h := tradeImportAmpere_affordable henv hblank hphases hready active context
      exact ⟨h.1.import_covers exp, h.2⟩
    | none =>
      cases hpower : imp.totalPowerW with
      | some totalPower =>
        exact ⟨(buyWatt_affordable hblank henv.sliceWatt true true).import_covers exp, hready⟩
      | none => exact ⟨(hblank.affordable true imp).import_covers exp, hready⟩

end

/-! ## All slots -/

/-- The limits of a slot; beyond the last one nothing is set. -/
def limitsAt (schedule : ScheduleReq) (i : Nat) : LimitsReq :=
  (schedule[i]?.map (·.limitsToRoot)).getD {}

/-- What is sold in a slot. -/
def soldAt (schedule : ScheduleRes) (i : Nat) : LimitsRes :=
  (schedule[i]?.map (·.limitsToRoot)).getD {}

/-- What the loop over the slots needs of a schedule. -/
def PhasesOk (schedule : ScheduleReq) : Prop := ∀ e ∈ schedule, NonnegPhases e.limitsToRoot

/-- No phase count is negative. -/
def SlotsOk (slots : List Slot) : Prop := ∀ slot ∈ slots, 0 ≤ slot.numPhases.value

/-- **All slots.** The induction is on the slots that are left; the context is the
one the slots before have left behind. -/
theorem tradeSlots_covers {env : TradeEnv} (henv : env.Positive) (active : Nat → Bool)
    (entries : List (ScheduleReqEntry × ScheduleReqEntry × Slot))
    (hphases : PhasesOk (entries.map (·.1))) (hslots : SlotsOk (entries.map (·.2.2))) (i : Nat)
    (context : BrokerContext) :
    (∀ j, Covers (limitsAt (entries.map (·.1)) j) (limitsAt (entries.map (·.2.1)) j)
        (soldAt ((tradeSlots env active i context entries).2.2.map (·.1)) j)) ∧
      SlotsOk (tradeSlots env active i context entries).1 := by
  induction entries generalizing i context with
  | nil => exact ⟨fun j => ⟨(bought_zero true _).import_covered _, (bought_zero true
    _).import_covered _⟩, nofun⟩
  | cons entry rest ih =>
    obtain ⟨imp, exp, slot⟩ := entry
    have hslot := tradeSlot_covers henv exp.limitsToRoot
      (hphases imp List.mem_cons_self) (hslots slot List.mem_cons_self) (active i) context
    have hrest := ih (fun e he => hphases e (List.mem_cons_of_mem _ he))
      (fun s hs => hslots s (List.mem_cons_of_mem _ hs)) (i + 1)
      (tradeSlot env (active i) imp.limitsToRoot exp.limitsToRoot slot context).2.1
    constructor
    · intro j
      cases j with
      | zero => exact hslot.1
      | succ j => exact hrest.1 j
    · exact List.forall_mem_cons.mpr ⟨hslot.2, hrest.2⟩

theorem tradeSlots_length (active : Nat → Bool)
    (entries : List (ScheduleReqEntry × ScheduleReqEntry × Slot)) (i : Nat)
    (context : BrokerContext) :
    (tradeSlots env active i context entries).1.length = entries.length ∧
      (tradeSlots env active i context entries).2.2.length = entries.length := by
  induction entries generalizing i context with
  | nil => exact ⟨rfl, rfl⟩
  | cons entry rest ih =>
    have hrest := ih (i + 1)
      (tradeSlot env (active i) entry.1.limitsToRoot entry.2.1.limitsToRoot entry.2.2 context).2.1
    exact ⟨congrArg (· + 1) hrest.1, congrArg (· + 1) hrest.2⟩

variable {n : Nat}

theorem map_zip_zip {α β γ : Type} {as : List α} {bs : List β} {cs : List γ}
    (ha : as.length = n) (hb : bs.length = n) (hc : cs.length = n) :
    (as.zip (bs.zip cs)).map (·.1) = as ∧ (as.zip (bs.zip cs)).map (·.2.1) = bs ∧
      (as.zip (bs.zip cs)).map (·.2.2) = cs ∧ (as.zip (bs.zip cs)).length = n := by
  have hzip : (bs.zip cs).length = n := by rw [List.length_zip, hb, hc, min_self]
  have hsecond : (as.zip (bs.zip cs)).map Prod.snd = bs.zip cs := List.map_snd_zip (by omega)
  refine ⟨List.map_fst_zip (by omega), ?_, ?_, ?_⟩
  · have h := congrArg (List.map Prod.fst) hsecond
    rw [List.map_map, List.map_fst_zip (by omega)] at h
    exact h
  · have h := congrArg (List.map Prod.snd) hsecond
    rw [List.map_map, List.map_snd_zip (by omega)] at h
    exact h
  · rw [List.length_zip, ha, hzip, min_self]

structure Broker.Fits (n : Nat) (broker : Broker) : Prop where
  length : broker.slots.length = n
  phases : SlotsOk broker.slots

theorem tradeImpl_length {offer : Offer} {broker : Broker}
    (himport : offer.importOffer.length = n) (hexport : offer.exportOffer.length = n)
    (hslots : broker.slots.length = n) (context : BrokerContext) :
    (broker.tradeImpl env offer context).1.slots.length = n ∧
      (broker.tradeImpl env offer context).2.2.1.length = n := by
  have hlengths := tradeSlots_length env (timeSlotActive env.startTime · offer.importOffer)
    (offer.importOffer.zip (offer.exportOffer.zip broker.slots)) 0 context
  have hlength := (map_zip_zip himport hexport hslots).2.2.2
  exact ⟨hlengths.1.trans hlength, (List.length_map _).trans (hlengths.2.trans hlength)⟩

/-- **A trade** is covered by the offer in every slot, and leaves the broker ready for
the next one. -/
theorem tradeImpl_covers {env : TradeEnv} (henv : env.Positive) {offer : Offer}
    {broker : Broker} (himport : offer.importOffer.length = n)
    (hexport : offer.exportOffer.length = n) (hphases : PhasesOk offer.importOffer)
    (hbroker : broker.Fits n) (context : BrokerContext) :
    (∀ j, Covers (limitsAt offer.importOffer j) (limitsAt offer.exportOffer j)
        (soldAt (broker.tradeImpl env offer context).2.2.1 j)) ∧
      (broker.tradeImpl env offer context).2.2.1.length = n ∧
      (broker.tradeImpl env offer context).1.Fits n := by
  obtain ⟨hfirst, hexp, hslots, -⟩ := map_zip_zip himport hexport hbroker.length
  have hcovers := tradeSlots_covers henv (timeSlotActive env.startTime · offer.importOffer)
    (offer.importOffer.zip (offer.exportOffer.zip broker.slots)) (hfirst.symm ▸ hphases)
    (hslots.symm ▸ hbroker.phases) 0 context
  have hlengths := tradeImpl_length env himport hexport hbroker.length context
  rw [hfirst, hexp] at hcovers
  exact ⟨hcovers.1, hlengths.2, hlengths.1, hcovers.2⟩

/-! ## Schedules slot by slot -/

open MarketNode LimitsReq List

def LimitsReq.apply (a b : LimitsReq) : LimitsReq :=
  (applyLimitsEntry { timestamp := 0, limitsToRoot := a }
    { timestamp := 0, limitsToRoot := b }).limitsToRoot

def LimitsReq.available (addSold : Bool) (limits : LimitsReq) (sold : LimitsRes) : LimitsReq :=
  (getAvailableEntry addSold { timestamp := 0, limitsToRoot := limits }
    { timestamp := 0, limitsToRoot := sold }).limitsToRoot

def MarketNode.importAt (node : MarketNode) (i : Nat) : LimitsReq :=
  (limitsAt node.importMaxAvailable i).available false (soldAt node.soldRoot i)

def MarketNode.exportAt (node : MarketNode) (i : Nat) : LimitsReq :=
  (limitsAt node.exportMaxAvailable i).available true (soldAt node.soldRoot i)

def LimitsRes.add (a b : LimitsRes) : LimitsRes :=
  (addEntry { timestamp := 0, limitsToRoot := a }
    { timestamp := 0, limitsToRoot := b }).limitsToRoot

theorem PhasesOk.limitsAt {schedule : ScheduleReq} (h : PhasesOk schedule) (i : Nat) :
    NonnegPhases (limitsAt schedule i) := by
  unfold Energy.limitsAt
  cases hi : schedule[i]? with
  | none => decide
  | some e => exact h e (mem_of_getElem? hi)

/-- Schedules of one length are joined slot by slot. -/
theorem getD_zipWith {α β γ α' β' γ' : Type} {f : α → β → γ} {a : α → α'} {b : β → β'} {c : γ → γ'}
    {g : α' → β' → γ'} {da : α'} {db : β'} {dc : γ'} (hjoin : ∀ x y, c (f x y) = g (a x) (b y))
    (hnone : dc = g da db) {xs : List α} {ys : List β} (h : xs.length = ys.length) (i : Nat) :
    ((List.zipWith f xs ys)[i]?.map c).getD dc =
      g ((xs[i]?.map a).getD da) ((ys[i]?.map b).getD db) := by
  rw [getElem?_zipWith]
  by_cases hi : i < xs.length
  · rw [getElem?_eq_getElem hi, getElem?_eq_getElem (h ▸ hi)]
    exact hjoin _ _
  · rw [getElem?_eq_none (not_lt.mp hi), getElem?_eq_none (h ▸ not_lt.mp hi)]
    exact hnone

variable {a b : ScheduleReq}

theorem applyLimits_eq (h : a.length = b.length) :
    applyLimits a b = List.zipWith applyLimitsEntry a b := if_neg (not_not.mpr h)

theorem applyLimits_length (h : a.length = b.length) : (applyLimits a b).length = a.length := by
  rw [applyLimits_eq h, length_zipWith, ← h, min_self]

theorem scheduleAdd_eq {a b : ScheduleRes} (h : a.length = b.length) :
    scheduleAdd a b = List.zipWith addEntry a b := if_neg (not_not.mpr h)

theorem scheduleAdd_length {a b : ScheduleRes} (h : a.length = b.length) :
    (scheduleAdd a b).length = a.length := by
  rw [scheduleAdd_eq h, length_zipWith, ← h, min_self]

theorem soldAt_add {a b : ScheduleRes} (h : a.length = b.length) (i : Nat) :
    soldAt (scheduleAdd a b) i = (soldAt a i).add (soldAt b i) := by
  rw [scheduleAdd_eq h]
  refine getD_zipWith (g := LimitsRes.add) ?_ ?_ h i
  · exact fun _ _ => rfl
  · rfl

theorem limitsAt_applyLimits (h : a.length = b.length) (i : Nat) :
    limitsAt (applyLimits a b) i = (limitsAt a i).apply (limitsAt b i) := by
  rw [applyLimits_eq h]
  refine getD_zipWith (g := LimitsReq.apply) ?_ ?_ h i
  · exact fun _ _ => rfl
  · rfl

theorem limitsAt_getAvailable (addSold : Bool) {available : ScheduleReq} {sold : ScheduleRes}
    (h : available.length = sold.length) (i : Nat) :
    limitsAt (List.zipWith (getAvailableEntry addSold) available sold) i =
      (limitsAt available i).available addSold (soldAt sold i) := by
  refine getD_zipWith (g := LimitsReq.available addSold) ?_ ?_ h i
  · exact fun _ _ => rfl
  · rfl

theorem foldl_applyLimits (schedules : List ScheduleReq) {start : ScheduleReq}
    (hstart : start.length = n) (hlength : ∀ s ∈ schedules, s.length = n) :
    (schedules.foldl applyLimits start).length = n ∧
      ∀ i, limitsAt (schedules.foldl applyLimits start) i =
        (schedules.map (limitsAt · i)).foldl apply (limitsAt start i) := by
  induction schedules generalizing start with
  | nil => exact ⟨hstart, fun _ => rfl⟩
  | cons s rest ih =>
    have hs : start.length = s.length := hstart.trans (hlength s mem_cons_self).symm
    simp only [foldl_cons, map_cons, ← limitsAt_applyLimits hs]
    exact ih ((applyLimits_length hs).trans hstart) fun s' hs' => hlength s' (mem_cons_of_mem _ hs')

/-! ## Offers slot by slot -/

/-- All schedules of a market place have one entry for each slot. -/
structure MarketNode.Sized (n : Nat) (node : MarketNode) : Prop where
  importLength : node.importMaxAvailable.length = n
  exportLength : node.exportMaxAvailable.length = n
  soldLength : node.soldRoot.length = n

theorem MarketNode.Sized.available_length {node : MarketNode} (h : node.Sized n) :
    node.getAvailableEnergyImport.length = n ∧ node.getAvailableEnergyExport.length = n := by
  rw [getAvailableEnergyImport, getAvailableEnergyExport,
    length_zipWith, length_zipWith, h.importLength, h.exportLength, h.soldLength,
    min_self]
  exact ⟨rfl, rfl⟩

section

variable {globals : Globals} {market : Market} {path : List Nat}

theorem limitsAt_empty (globals : Globals) (i : Nat) :
    limitsAt globals.emptyScheduleReq i = {} := by
  unfold limitsAt Globals.emptyScheduleReq
  rw [getElem?_map]
  cases globals.timestamps[i]? <;> rfl

theorem offer_view (available : MarketNode → ScheduleReq) (view : MarketNode → Nat → LimitsReq)
    (hlength : ∀ node ∈ market.along path, (available node).length = globals.scheduleLength)
    (hview : ∀ node ∈ market.along path, ∀ i, limitsAt (available node) i = view node i) :
    ((market.along path).foldl (fun offer node => applyLimits offer (available node))
        globals.emptyScheduleReq).length = globals.scheduleLength ∧
      ∀ i, limitsAt ((market.along path).foldl
          (fun offer node => applyLimits offer (available node)) globals.emptyScheduleReq) i =
        ((market.along path).map (view · i)).foldl apply {} := by
  have hmap : ∀ s ∈ (market.along path).map available, s.length = globals.scheduleLength := by
    intro s hs
    obtain ⟨node, hnode, rfl⟩ := mem_map.mp hs
    exact hlength node hnode
  have hempty : globals.emptyScheduleReq.length = globals.scheduleLength := length_map _
  obtain ⟨hlen, hlimits⟩ := foldl_applyLimits _ hempty hmap
  rw [← foldl_map]
  refine ⟨hlen, fun i => ?_⟩
  rw [hlimits, limitsAt_empty, map_map]
  congr 1
  exact map_congr_left fun node hnode => hview node hnode i

variable (hsized : ∀ node ∈ market.along path, node.Sized globals.scheduleLength)

include hsized

theorem importOffer_view :
    (Offer.create globals market path).importOffer.length = globals.scheduleLength ∧
      ∀ i, limitsAt (Offer.create globals market path).importOffer i =
        ((market.along path).map (·.importAt i)).foldl apply {} := by
  refine offer_view getAvailableEnergyImport importAt ?_ ?_
  · exact fun node hnode => (hsized node hnode).available_length.1
  · intro node hnode i
    have h := hsized node hnode
    exact limitsAt_getAvailable false (h.importLength.trans h.soldLength.symm) i

theorem exportOffer_view :
    (Offer.create globals market path).exportOffer.length = globals.scheduleLength ∧
      ∀ i, limitsAt (Offer.create globals market path).exportOffer i =
        ((market.along path).map (·.exportAt i)).foldl apply {} := by
  refine offer_view getAvailableEnergyExport exportAt ?_ ?_
  · exact fun node hnode => (hsized node hnode).available_length.2
  · intro node hnode i
    have h := hsized node hnode
    exact limitsAt_getAvailable true (h.exportLength.trans h.soldLength.symm) i

end

section

variable (globals : Globals)

theorem maxAvailable_length (schedule : ScheduleReq) :
    (maxAvailable globals schedule).length = globals.scheduleLength := by
  unfold maxAvailable
  split_ifs
  · exact length_map _
  · exact (length_map _).trans (length_map _)

theorem applySetpoints_length {imp exp : ScheduleReq} (himp : imp.length = n)
    (hexp : exp.length = n) (setpoints : ScheduleSetpoints) (freq : Option ℚ) :
    (applySetpoints imp exp setpoints freq).1.length = n ∧
      (applySetpoints imp exp setpoints freq).2.length = n := by
  unfold applySetpoints
  split_ifs with h₁ h₂
  · exact ⟨himp, hexp⟩
  · exact ⟨himp, hexp⟩
  · have hset : setpoints.length = n := (not_not.mp h₁).trans himp
    rw [unzip_eq_map]
    simp [himp, hexp, hset]

theorem create_sized (node : EnergyFlowNode) :
    (create globals node).Sized globals.scheduleLength := by
  have hlength := applySetpoints_length (maxAvailable_length globals node.scheduleImport)
    (maxAvailable_length globals node.scheduleExport) (create globals node).setpoints
    (node.energyUsageRootFrequencyHz.or node.energyUsageLeavesFrequencyHz)
  exact ⟨hlength.1, hlength.2, length_map _⟩

end

end EverestCore.Energy
