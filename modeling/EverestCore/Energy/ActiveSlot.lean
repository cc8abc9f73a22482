import EverestCore.Energy.Slots

/-!
# The active slot

A broker asks which slot is active while it decides on phases; the optimizer enforces
the limits of the last slot that has begun. The two agree unless the start time is one
of the later time stamps: the broker compares strictly on both sides, and a start time
at which a slot begins lies in none of its slots, so that it takes the first one.
-/

namespace EverestCore.Energy

open List

/-- The index of the last time stamp that is not in the future, or zero. -/
def lastBegun (startTime : Int) (timestamps : List Int) : Nat :=
  (timestamps.takeWhile (· ≤ startTime)).length - 1

/-! ## The enforced slot -/

variable (startTime : Int)

theorem limitsRootSide_eq_getLastD (limits : LimitsRes) (schedule : ScheduleRes) :
    limitsRootSide startTime limits schedule =
      ((schedule.takeWhile fun s => s.timestamp ≤ startTime).map
        ScheduleResEntry.limitsToRoot).getLastD limits := by
  induction schedule generalizing limits with
  | nil => rfl
  | cons s rest ih =>
    rw [limitsRootSide]
    by_cases hfuture : startTime < s.timestamp
    · rw [if_pos hfuture, takeWhile_cons_of_neg (by simpa using hfuture)]
      rfl
    · rw [if_neg hfuture, ih, takeWhile_cons_of_pos (by simpa using hfuture), map_cons,
        getLastD_cons]

/-- **The enforced limits** are those of the last slot that has begun. -/
theorem limitsRootSide_eq (schedule : ScheduleRes) :
    limitsRootSide startTime (soldAt schedule 0) schedule =
      soldAt schedule (lastBegun startTime (schedule.map ScheduleResEntry.timestamp)) := by
  rw [limitsRootSide_eq_getLastD, lastBegun, takeWhile_map, Function.comp_def, length_map]
  have hprefix := takeWhile_prefix (l := schedule) fun s => decide (s.timestamp ≤ startTime)
  generalize (schedule.takeWhile fun s => decide (s.timestamp ≤ startTime)) = begun at hprefix
  cases hlast : begun.getLast? with
  | none =>
    rw [getLast?_eq_none_iff.mp hlast]
    rfl
  | some last =>
    have hbegun : begun[begun.length - 1]? = some last := by
      rw [← List.getLast?_eq_getElem?]
      exact hlast
    have hlength : begun.length - 1 < begun.length := (List.getElem?_eq_some_iff.mp hbegun).1
    obtain ⟨rest, rfl⟩ := hprefix
    rw [List.getLastD_eq_getLast?, List.getLast?_map, hlast]
    unfold soldAt
    rw [getElem?_append_left hlength, hbegun]
    rfl

/-! ## The slot of the broker -/

section

variable {now : Int} {timestamps : List Int}

theorem searchSlot_of_le (n : Nat) (h : ∀ t ∈ timestamps, now ≤ t) :
    searchSlot now n timestamps = 0 := by
  induction timestamps generalizing n with
  | nil => rfl
  | cons t₁ tail ih =>
    cases tail with
    | nil => rfl
    | cons t₂ rest =>
      have hnot : ¬ (t₁ < now ∧ now < t₂) := by
        have := h t₁ mem_cons_self
        omega
      rw [searchSlot, if_neg hnot]
      exact ih (n + 1) fun t ht => h t (mem_cons_of_mem t₁ ht)

theorem searchSlot_of_mem (n : Nat) (hgrid : timestamps.Pairwise (· < ·))
    (hmem : now ∈ timestamps) : searchSlot now n timestamps = 0 := by
  induction timestamps generalizing n with
  | nil => rfl
  | cons t₁ tail ih =>
    cases tail with
    | nil => rfl
    | cons t₂ rest =>
      obtain ⟨hfirst, hrest⟩ := pairwise_cons.mp hgrid
      rcases mem_cons.mp hmem with rfl | htail
      · have hnot : ¬ (now < now ∧ now < t₂) := fun h => lt_irrefl _ h.1
        rw [searchSlot, if_neg hnot]
        exact searchSlot_of_le (n + 1) fun t ht => (hfirst t ht).le
      · have hnot : ¬ (t₁ < now ∧ now < t₂) := by
          rintro ⟨-, hlt⟩
          rcases mem_cons.mp htail with rfl | h
          · exact lt_irrefl _ hlt
          · exact lt_asymm hlt ((pairwise_cons.mp hrest).1 now h)
        rw [searchSlot, if_neg hnot]
        exact ih (n + 1) hrest htail

/-- Strictly between the first and the last time stamp, and at none of them, the search
stops at the last slot that has begun. -/
theorem searchSlot_of_not_mem (n : Nat) {first last : Int}
    (hlast : (first :: timestamps).getLast? = some last) (hmem : now ∉ first :: timestamps)
    (hfirst : first < now) (hend : now < last) :
    searchSlot now n (first :: timestamps) = n + lastBegun now (first :: timestamps) := by
  induction timestamps generalizing first n with
  | nil =>
    cases hlast
    exact absurd hfirst (lt_asymm hend)
  | cons t₂ rest ih =>
    have hbegun : (first :: t₂ :: rest).takeWhile (· ≤ now) =
        first :: (t₂ :: rest).takeWhile (· ≤ now) :=
      takeWhile_cons_of_pos (by simpa using hfirst.le)
    rw [searchSlot, lastBegun, hbegun]
    by_cases hnext : now < t₂
    · rw [if_pos ⟨hfirst, hnext⟩, takeWhile_cons_of_neg (by simpa using hnext)]
      rfl
    · have hne : t₂ ≠ now := by
        rintro rfl
        exact hmem (by simp)
      have hbegun₂ : (t₂ :: rest).takeWhile (· ≤ now) = t₂ :: rest.takeWhile (· ≤ now) :=
        takeWhile_cons_of_pos (by simpa using hnext)
      rw [if_neg fun h => hnext h.2,
        ih (n + 1) (by simpa using hlast) (fun h => hmem (mem_cons_of_mem _ h)) (by omega),
        lastBegun, hbegun₂]
      simp only [length_cons]
      omega

end

section

variable {startTime : Int} {timestamps : List Int} (hgrid : timestamps.Pairwise (· < ·))

include hgrid

theorem le_of_getLast? {last : Int} (hlast : timestamps.getLast? = some last) :
    ∀ t ∈ timestamps, t ≤ last := by
  obtain ⟨init, rfl⟩ := getLast?_eq_some_iff.mp hlast
  intro t ht
  rcases mem_append.mp ht with hinit | hend
  · exact ((pairwise_append.mp hgrid).2.2 t hinit last mem_cons_self).le
  · exact (mem_singleton.mp hend).le

theorem activeSlot_of_mem_tail (hmem : startTime ∈ timestamps.tail) :
    activeSlot startTime timestamps = 0 := by
  cases timestamps with
  | nil => rfl
  | cons first rest =>
    have hmem' : startTime ∈ first :: rest := mem_cons_of_mem first hmem
    cases hlast : (first :: rest).getLast? with
    | none => exact absurd (getLast?_eq_none_iff.mp hlast) (cons_ne_nil first rest)
    | some last =>
      have hend : ¬ last < startTime := not_lt.mpr (le_of_getLast? hgrid hlast startTime hmem')
      unfold activeSlot
      rw [hlast]
      dsimp only [head?_cons]
      rw [if_neg hend]
      split_ifs
      · rfl
      · exact searchSlot_of_mem 0 hgrid hmem'

theorem activeSlot_of_not_mem_tail (hmem : startTime ∉ timestamps.tail) :
    activeSlot startTime timestamps = lastBegun startTime timestamps := by
  cases timestamps with
  | nil => rfl
  | cons first rest =>
    cases hlast : (first :: rest).getLast? with
    | none => exact absurd (getLast?_eq_none_iff.mp hlast) (cons_ne_nil first rest)
    | some last =>
      have hle := le_of_getLast? hgrid hlast
      unfold activeSlot
      rw [hlast]
      dsimp only [head?_cons]
      split_ifs with hbefore hafter
      · -- nothing has begun
        rw [lastBegun, takeWhile_cons_of_neg (by simpa using hbefore)]
        rfl
      · -- everything has begun
        have hall : (first :: rest).takeWhile (· ≤ startTime) = first :: rest := by
          rw [takeWhile_eq_self_iff]
          intro t ht
          have := hle t ht
          exact decide_eq_true (by omega)
        rw [lastBegun, hall]
      · by_cases hfirst : startTime = first
        · -- the first slot begins
          subst hfirst
          rw [searchSlot_of_mem 0 hgrid mem_cons_self, lastBegun, takeWhile_cons_of_pos (by simp)]
          have hnone : rest.takeWhile (· ≤ startTime) = [] := by
            rw [takeWhile_eq_nil_iff]
            intro hpos
            have hlater := (pairwise_cons.mp hgrid).1 _ (getElem_mem hpos)
            simpa using hlater
          rw [hnone]
          rfl
        · have hnot : startTime ∉ first :: rest := not_mem_cons_of_ne_of_not_mem hfirst hmem
          have hne : last ≠ startTime := by
            rintro rfl
            exact hnot (mem_of_getLast? hlast)
          rw [searchSlot_of_not_mem 0 hlast hnot (by omega) (by omega), zero_add]

theorem lastBegun_pos_of_mem_tail (hmem : startTime ∈ timestamps.tail) :
    0 < lastBegun startTime timestamps := by
  cases timestamps with
  | nil => cases hmem
  | cons first rest =>
    obtain ⟨hfirst, hrest⟩ := pairwise_cons.mp hgrid
    have hlt := hfirst startTime hmem
    cases rest with
    | nil => cases hmem
    | cons second rest =>
      have hsecond : second ≤ startTime := by
        rcases mem_cons.mp hmem with rfl | h
        · exact le_refl _
        · exact ((pairwise_cons.mp hrest).1 startTime h).le
      rw [lastBegun, takeWhile_cons_of_pos (by simpa using hlt.le),
        takeWhile_cons_of_pos (by simpa using hsecond)]
      simp

/-- **When the broker finds the slot that is enforced.** -/
theorem activeSlot_eq_lastBegun_iff :
    activeSlot startTime timestamps = lastBegun startTime timestamps ↔
      startTime ∉ timestamps.tail := by
  constructor
  · intro heq hmem
    have hpos := lastBegun_pos_of_mem_tail hgrid hmem
    rw [← heq, activeSlot_of_mem_tail hgrid hmem] at hpos
    exact lt_irrefl 0 hpos
  · exact activeSlot_of_not_mem_tail hgrid

end

theorem activeSlot_lt {timestamps : List Int} (hgrid : timestamps.Pairwise (· < ·))
    (hne : timestamps ≠ []) :
    activeSlot startTime timestamps < timestamps.length := by
  by_cases hmem : startTime ∈ timestamps.tail
  · rw [activeSlot_of_mem_tail hgrid hmem]
    exact length_pos_iff.mpr hne
  · rw [activeSlot_of_not_mem_tail hgrid hmem]
    have hle := ( takeWhile_prefix (l := timestamps) (· ≤ startTime)).length_le
    have hpos := length_pos_iff.mpr hne
    unfold lastBegun
    omega

theorem timeSlotActive_iff (i : Nat) (offer : ScheduleReq) :
    timeSlotActive startTime i offer = true ↔
      i = activeSlot startTime (offer.map (·.timestamp)) := by
  rw [timeSlotActive, beq_iff_eq, eq_comm]

theorem limitsRootSide_enforcedLimits {run : Run} {node : MarketNode} {limits : EnforcedLimits}
    (henforced : enforcedLimits run node = some limits) :
    limits.limitsRootSide = soldAt node.soldRoot
      (lastBegun run.globals.startTime (node.soldRoot.map (·.timestamp))) := by
  rw [← limitsRootSide_eq]
  unfold enforcedLimits at henforced
  split at henforced
  · cases henforced
  · rename_i first rest hsold
    cases henforced
    rw [hsold]
    rfl

/-- **The active slot.** For the broker one slot is active. The limits enforced are those of
the last slot that has begun, and this is the active one unless the start time is a time
stamp after the first. -/
theorem active_slot_is_enforced_iff (run : Run) (offer : ScheduleReq)
    (hgrid : (offer.map (·.timestamp)).Pairwise (· < ·)) (hne : offer ≠ []) :
    (∃ i < offer.length, ∀ j, timeSlotActive run.globals.startTime j offer = true ↔ j = i) ∧
      (∀ (node : MarketNode) (limits : EnforcedLimits),
        node.soldRoot.map (·.timestamp) = offer.map (·.timestamp) →
          enforcedLimits run node = some limits →
            limits.limitsRootSide = soldAt node.soldRoot
              (lastBegun run.globals.startTime (offer.map (·.timestamp)))) ∧
      (timeSlotActive run.globals.startTime
          (lastBegun run.globals.startTime (offer.map (·.timestamp))) offer = true ↔
        run.globals.startTime ∉ (offer.map (·.timestamp)).tail) := by
  refine ⟨⟨activeSlot run.globals.startTime (offer.map (·.timestamp)), ?_, fun j => ?_⟩, ?_, ?_⟩
  · have hlt := activeSlot_lt run.globals.startTime hgrid (by simpa using hne)
    rwa [length_map] at hlt
  · exact timeSlotActive_iff run.globals.startTime j offer
  · intro node limits hsame henforced
    rw [limitsRootSide_enforcedLimits henforced, hsame]
  · rw [timeSlotActive_iff, eq_comm]
    exact activeSlot_eq_lastBegun_iff hgrid

def threeSlots : ScheduleReq := [{ timestamp := 0 }, { timestamp := 60 }, { timestamp := 120 }]

def runAt : Run where
  config := {}
  globals := { startTime, timestamps := [0, 60, 120], sliceAmpere := 1 / 2, sliceWatt := 500 }
  clock := fun _ => startTime

theorem active_slot_inside_second :
    (threeSlots.map (·.timestamp)).Pairwise (· < ·) ∧ threeSlots ≠ [] ∧
      (timeSlotActive 90 (lastBegun 90 (threeSlots.map (·.timestamp))) threeSlots = true ↔
        (90 : Int) ∉ (threeSlots.map (·.timestamp)).tail) :=
  ⟨by decide, by decide,
    (active_slot_is_enforced_iff (runAt 90) threeSlots (by decide) (by decide)).2.2⟩

/-- What was sold: nothing in the first slot, six ampere in the second. -/
def soldLater : MarketNode where
  energyFlowRequest := {}
  importMaxAvailable := threeSlots
  exportMaxAvailable := threeSlots
  setpoints := []
  soldRoot :=
    [{ timestamp := 0 },
     { timestamp := 60, limitsToRoot := { acMaxCurrentA := some ⟨6, "fuse"⟩ } },
     { timestamp := 120 }]

/-- When the second slot begins its limits are enforced, but the broker takes the first one
for the active one. -/
theorem slot_that_begins_is_not_active :
    ((enforcedLimits (runAt 60) soldLater).map EnforcedLimits.limitsRootSide =
        some (soldAt soldLater.soldRoot 1)) ∧
      soldAt soldLater.soldRoot 1 ≠ soldAt soldLater.soldRoot 0 ∧
      timeSlotActive 60 1 threeSlots = false ∧ timeSlotActive 60 0 threeSlots = true := by
  decide

end EverestCore.Energy
