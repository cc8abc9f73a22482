import EverestCore.Energy.Resampling

/-!
# Prices of an energy node

An energy node walks over the schedule and the prices at once and joins them. At a time stamp
that both lists have, neither comparison holds and the loop does not move on. And the joined
schedule is a local variable: the schedule of the caller stays as it is.
-/

namespace EverestCore.Energy

open List

/-- What is left of the schedule and of the prices, the entries that are valid, and what has
been joined. Inside the loop the next entries are the first of those left. -/
structure PriceMerge where
  schedule : ScheduleReq
  price : List PricePerkWh
  validSchedule : ScheduleReqEntry
  validPrice : PricePerkWh
  joined : ScheduleReq := []

/-- One turn of the loop, as long as both lists have entries. -/
def PriceMerge.step (m : PriceMerge) : Option PriceMerge :=
  match m.schedule, m.price with
  | entry :: schedule, next :: price =>
    if entry.timestamp < next.timestamp then
      some { m with
        schedule
        validSchedule := entry
        joined := m.joined ++ [{ entry with pricePerKwh := some m.validPrice }] }
    else if next.timestamp < entry.timestamp then
      some { m with
        price
        validPrice := next
        joined := m.joined ++ [{ m.validSchedule with
          pricePerKwh := some next
          timestamp := next.timestamp }] }
    else some m
  | _, _ => none

/-- The loop, if it ends within so many turns. -/
def PriceMerge.loop : Nat → PriceMerge → Option PriceMerge
  | 0, _ => none
  | fuel + 1, m =>
    match m.step with
    | none => some m
    | some m' => loop fuel m'

/-- `merge_price_into_schedule`: the schedule afterwards. -/
def mergePriceIntoSchedule (fuel : Nat) (schedule : ScheduleReq) (price : List PricePerkWh) :
    Option ScheduleReq :=
  match schedule.head?, price.head? with
  | some validSchedule, some validPrice =>
    (PriceMerge.loop fuel { schedule, price, validSchedule, validPrice }).map fun _ => schedule
  | _, _ => none

/-- No entry of the schedule has the time stamp of a price. -/
def NoCommonTime (schedule : ScheduleReq) (price : List PricePerkWh) : Prop :=
  ∀ entry ∈ schedule, ∀ next ∈ price, entry.timestamp ≠ next.timestamp
deriving Decidable

namespace PriceMerge

/-- Without a common time stamp every turn moves on in one of the lists. -/
theorem exists_loop (fuel : Nat) (m : PriceMerge)
    (hfuel : m.schedule.length + m.price.length < fuel)
    (h : NoCommonTime m.schedule m.price) : ∃ m', loop fuel m = some m' := by
  induction fuel generalizing m with
  | zero => exact absurd hfuel (Nat.not_lt_zero _)
  | succ fuel ih =>
    obtain ⟨schedule, price, validSchedule, validPrice, joined⟩ := m
    rw [loop]
    cases schedule with
    | nil => exact ⟨_, rfl⟩
    | cons entry schedule =>
      cases price with
      | nil => exact ⟨_, rfl⟩
      | cons next price =>
        have hne := h entry mem_cons_self next mem_cons_self
        simp only [length_cons] at hfuel
        unfold step
        dsimp only
        split_ifs with hlt hgt
        · refine ih _ (by simp only [length_cons]; omega) ?_
          exact fun e he => h e (mem_cons_of_mem _ he)
        · refine ih _ (by simp only [length_cons]; omega) ?_
          exact fun e he p hp => h e he p (mem_cons_of_mem _ hp)
        · exact absurd (le_antisymm (not_lt.mp hgt) (not_lt.mp hlt)) hne

/-- With a common time stamp the loop gets to it in both lists, and stays there. -/
theorem loop_eq_none (fuel : Nat) (m : PriceMerge)
    (hschedule : (m.schedule.map (·.timestamp)).Pairwise (· ≤ ·))
    (hprice : (m.price.map (·.timestamp)).Pairwise (· ≤ ·)) {e : ScheduleReqEntry}
    (he : e ∈ m.schedule) {p : PricePerkWh} (hp : p ∈ m.price) (heq : e.timestamp = p.timestamp) :
    loop fuel m = none := by
  induction fuel generalizing m with
  | zero => rfl
  | succ fuel ih =>
    obtain ⟨schedule, price, validSchedule, validPrice, joined⟩ := m
    obtain _ | ⟨entry, schedule⟩ := schedule
    · cases he
    obtain _ | ⟨next, price⟩ := price
    · cases hp
    rw [map_cons, pairwise_cons] at hschedule hprice
    have hentry : ∀ x ∈ entry :: schedule, entry.timestamp ≤ x.timestamp :=
      forall_mem_cons.mpr ⟨le_rfl, fun x hx => hschedule.1 _ (mem_map_of_mem hx)⟩
    have hnext : ∀ x ∈ next :: price, next.timestamp ≤ x.timestamp :=
      forall_mem_cons.mpr ⟨le_rfl, fun x hx => hprice.1 _ (mem_map_of_mem hx)⟩
    rw [loop, step]
    dsimp only
    split_ifs with hlt hgt
    · refine ih _ hschedule.2 (pairwise_cons.mpr hprice) ?_ hp
      refine mem_of_ne_of_mem ?_ he
      rintro rfl
      exact not_le.mpr hlt (heq ▸ hnext p hp)
    · refine ih _ (pairwise_cons.mpr hschedule) hprice.2 he ?_
      refine mem_of_ne_of_mem ?_ hp
      rintro rfl
      exact not_le.mpr hgt (heq ▸ hentry e he)
    · exact ih _ (pairwise_cons.mpr hschedule) (pairwise_cons.mpr hprice) he hp

end PriceMerge

section

variable {schedule : ScheduleReq} {price : List PricePerkWh}
  (hne : schedule ≠ []) (hne' : price ≠ [])

include hne hne'

theorem mergePriceIntoSchedule_eq (fuel : Nat) : ∃ validSchedule validPrice,
    mergePriceIntoSchedule fuel schedule price = (PriceMerge.loop fuel
      { schedule, price, validSchedule, validPrice }).map fun _ => schedule := by
  obtain ⟨entry, rest, rfl⟩ := exists_cons_of_ne_nil hne
  obtain ⟨next, rest', rfl⟩ := exists_cons_of_ne_nil hne'
  exact ⟨entry, next, rfl⟩

theorem merge_ends (h : NoCommonTime schedule price) :
    mergePriceIntoSchedule (schedule.length + price.length + 1) schedule price = some schedule := by
  obtain ⟨entry, next, heq⟩ :=
    mergePriceIntoSchedule_eq hne hne' (schedule.length + price.length + 1)
  obtain ⟨m, hm⟩ := PriceMerge.exists_loop (schedule.length + price.length + 1)
    { schedule, price, validSchedule := entry, validPrice := next } (Nat.lt_succ_self _) h
  rw [heq, hm]
  rfl

/-- **Merging prices ends** exactly if no price has the time stamp of an entry. -/
theorem merging_prices_ends_iff
    (hschedule : (schedule.map ScheduleReqEntry.timestamp).Pairwise (· ≤ ·))
    (hprice : (price.map PricePerkWh.timestamp).Pairwise (· ≤ ·)) :
    (∃ fuel, (mergePriceIntoSchedule fuel schedule price).isSome) ↔
      NoCommonTime schedule price := by
  constructor
  · rintro ⟨fuel, hsome⟩ e he p hp heq
    obtain ⟨entry, next, hmerge⟩ := mergePriceIntoSchedule_eq hne hne' fuel
    rw [hmerge, PriceMerge.loop_eq_none fuel _ hschedule hprice he hp heq] at hsome
    cases hsome
  · intro h
    exact ⟨_, by rw [merge_ends hne hne' h]; rfl⟩

end

/-- Two prices that begin with, and after, an entry at 0. -/
theorem merging_two_prices_ends :
    ∃ fuel, (mergePriceIntoSchedule fuel [{ timestamp := 0 }]
      [⟨1, 30, "EUR"⟩, ⟨2, 40, "EUR"⟩]).isSome :=
  (merging_prices_ends_iff (by decide) (by decide) (by decide) (by decide)).mpr (by decide)

/-- A price that begins with an entry: no number of turns is enough. -/
theorem equal_timestamps_never_end :
    ¬ ∃ fuel, (mergePriceIntoSchedule fuel [{ timestamp := 0 }] [⟨0, 30, "EUR"⟩]).isSome := by
  rintro ⟨fuel, hsome⟩
  have hnone : mergePriceIntoSchedule fuel [{ timestamp := 0 }] [⟨0, 30, "EUR"⟩] = none :=
    congrArg (Option.map _) (PriceMerge.loop_eq_none fuel _ (by decide) (by decide)
      mem_cons_self mem_cons_self rfl)
  rw [hnone] at hsome
  cases hsome

structure PricesMerged (schedule : ScheduleReq) (price : List PricePerkWh) (merged : ScheduleReq) :
    Prop where
  sorted : (merged.map ScheduleReqEntry.timestamp).Pairwise (· < ·)
  entries : ∀ entry ∈ schedule, ∃ m ∈ merged, m.timestamp = entry.timestamp
  prices : ∀ next ∈ price, ∃ m ∈ merged, m.timestamp = next.timestamp
  inForce : ∀ t, ∃ m entry next, entryInForce ScheduleReqEntry.timestamp t merged = some m ∧
    entryInForce ScheduleReqEntry.timestamp t schedule = some entry ∧
    entryInForce PricePerkWh.timestamp t price = some next ∧
    m.limitsToRoot = entry.limitsToRoot ∧ m.limitsToLeaves = entry.limitsToLeaves ∧
    m.pricePerKwh = some next

/-- **The merged prices are dropped**: merging ends with the schedule it was given, in which no
price has an entry. -/
theorem merged_prices_are_dropped {schedule : ScheduleReq} {price : List PricePerkWh}
    (hne : schedule ≠ []) (hne' : price ≠ []) (hcommon : NoCommonTime schedule price) :
    (∃ fuel, mergePriceIntoSchedule fuel schedule price = some schedule) ∧
      ∀ fuel merged, mergePriceIntoSchedule fuel schedule price = some merged →
        merged = schedule ∧ ¬ PricesMerged schedule price merged := by
  refine ⟨⟨_, merge_ends hne hne' hcommon⟩, fun fuel merged hmerged => ?_⟩
  obtain ⟨entry, next, hmerge⟩ := mergePriceIntoSchedule_eq hne hne' fuel
  rw [hmerge] at hmerged
  obtain ⟨m, -, rfl⟩ := Option.map_eq_some_iff.mp hmerged
  refine ⟨rfl, fun h => ?_⟩
  obtain ⟨first, rest, rfl⟩ := exists_cons_of_ne_nil hne'
  obtain ⟨e, he, heq⟩ := h.prices first mem_cons_self
  exact hcommon e he first mem_cons_self heq

/-- A price that begins a minute after the only entry. -/
theorem later_price_dropped :
    ∃ fuel, mergePriceIntoSchedule fuel [{ timestamp := 0 }] [⟨60, 30, "EUR"⟩] =
      some [{ timestamp := 0 }] :=
  (merged_prices_are_dropped (by decide) (by decide) (by decide)).1

/-- The merged schedule has no entry for the price, and the entry in force has none. -/
theorem later_price_not_merged :
    mergePriceIntoSchedule 3 [{ timestamp := 0 }] [⟨60, 30, "EUR"⟩] = some [{ timestamp := 0 }] ∧
      ¬ PricesMerged [{ timestamp := 0 }] [⟨60, 30, "EUR"⟩] [{ timestamp := 0 }] := by
  refine ⟨by decide, fun h => ?_⟩
  obtain ⟨m, hm, heq⟩ := h.prices _ mem_cons_self
  rw [mem_singleton.mp hm] at heq
  exact absurd heq (by decide)

end EverestCore.Energy
