import EverestCore.Energy.Market

/-!
# Time slots, resampling and frequency tables

The common time slots contain the time stamps of every schedule of the request. So between
two of them no schedule changes, and the limits of a slot are those of the entry that is in
force at any of its times.

The slots that are predefined begin late by the leap seconds elapsed so far, and between two
points of a frequency table the slope is not divided by their distance.
-/

namespace EverestCore.Energy

open EverestCore.Lib ScheduleReqEntry NumberWithSource List

/-! ## Time slots -/

/-- The slots begin at a full interval, late by the leap seconds. -/
def firstSlot (startTime intervalDuration leapSeconds : Int) : Int :=
  startTime - startTime.tmod intervalDuration + leapSeconds

theorem createTimestamps_eq (startTime intervalDuration leapSeconds : Int) (scheduleLength : Nat)
    (request : EnergyFlowRequest) :
    createTimestamps startTime intervalDuration leapSeconds scheduleLength request =
      ((((List.range scheduleLength).map fun i : Nat =>
          firstSlot startTime intervalDuration leapSeconds + i * intervalDuration) ++
        request.toList.flatMap EnergyFlowNode.timestamps).insertionSort (· ≤ ·)).dedup := by
  have hcast : (do let a ← range scheduleLength; pure (a : Int)) =
      (range scheduleLength).map Nat.cast := flatMap_pure_eq_map _ _
  simp only [createTimestamps, firstSlot, hcast, map_map]
  exact (pairwise_insertionSort (α := Int) (· ≤ ·) _).destutter_eq_dedup

/-- Slots begin as predefined, and at every time stamp of a schedule. -/
theorem mem_createTimestamps {startTime intervalDuration leapSeconds t : Int}
    {scheduleLength : Nat} {request : EnergyFlowRequest} :
    t ∈ createTimestamps startTime intervalDuration leapSeconds scheduleLength request ↔
      (∃ i : Nat, i < scheduleLength ∧
        t = firstSlot startTime intervalDuration leapSeconds + i * intervalDuration) ∨
      ∃ node ∈ request.toList, t ∈ node.timestamps := by
  rw [createTimestamps_eq, mem_dedup, mem_insertionSort, mem_append, mem_map, mem_flatMap]
  simp only [mem_range, eq_comm]

/-- **Where the slots begin**: the first predefined slot contains the start time exactly if the
leap seconds are not more than what has passed of the interval. -/
theorem first_slot_contains_start_iff (startTime leapSeconds : Int) {intervalDuration : Int}
    (hinterval : 0 < intervalDuration) (hleap : 0 ≤ leapSeconds) (scheduleLength : Nat)
    (request : EnergyFlowRequest) :
    let first := firstSlot startTime intervalDuration leapSeconds
    (0 < scheduleLength → first ∈
      createTimestamps startTime intervalDuration leapSeconds scheduleLength request) ∧
    (first ≤ startTime ∧ startTime < first + intervalDuration ↔
      leapSeconds ≤ startTime.tmod intervalDuration) := by
  have hlt := Int.tmod_lt_of_pos startTime hinterval
  refine ⟨fun hpos => mem_createTimestamps.mpr (.inl ⟨0, hpos, by simp⟩), ?_⟩
  unfold firstSlot
  constructor
  · rintro ⟨hle, -⟩
    linarith
  · intro hle
    constructor <;> linarith

/-- Half past the hour, 500000 hours after the epoch, with slots of an hour. -/
theorem half_hour_slot_contains_start :
    let hour := 60 * nanosPerMinute
    let start := 500000 * hour + 30 * nanosPerMinute
    let first := firstSlot start hour (27 * nanosPerSecond)
    first ≤ start ∧ start < first + hour :=
  (first_slot_contains_start_iff (500000 * (60 * nanosPerMinute) + 30 * nanosPerMinute)
    (27 * nanosPerSecond) (by decide) (by decide) 1 (.node {} [])).2.mpr (by decide)

/-- At a full hour after 2017 the first slot is still to come. -/
theorem full_hour_before_first_slot :
    let hour := 60 * nanosPerMinute
    500000 * hour < firstSlot (500000 * hour) hour (27 * nanosPerSecond) := by
  decide

/-! ## Resampling -/

/-- The entry in force at a time: the last one whose time has come, or else the first. -/
def entryInForce {α : Type} (timestamp : α → Int) (t : Int) (schedule : List α) : Option α :=
  ((schedule.filter fun entry => timestamp entry ≤ t).getLast?).or schedule.head?

section

variable {α β : Type} {timestamp : α → Int} {t : Int}

end

/-- A slope over `x` of a distance `y` with and without the division by `y`. -/
theorem slope_eq_interpolation_iff {p q x y : ℚ} (hx : 0 < x) (hy : 0 < y) :
    p + x * (q - p) = p + x / y * (q - p) ↔ y = 1 ∨ p = q := by
  rw [add_right_inj, mul_eq_mul_right_iff, eq_div_iff hy.ne', mul_eq_left₀ hx.ne', sub_eq_zero,
    eq_comm (a := q)]

theorem slope_mem_uIcc_iff {p q x : ℚ} (hx : 0 < x) :
    p + x * (q - p) ∈ Set.uIcc p q ↔ x ≤ 1 ∨ p = q := by
  rcases lt_trichotomy p q with h | rfl | h
  · rw [Set.uIcc_of_le h.le, Set.mem_Icc, or_iff_left h.ne]
    constructor
    · rintro ⟨-, hle⟩
      by_contra hlt
      nlinarith
    · intro hle
      constructor <;> nlinarith
  · simp
  · rw [Set.uIcc_of_ge h.le, Set.mem_Icc, or_iff_left h.ne']
    constructor
    · rintro ⟨hle, -⟩
      by_contra hlt
      nlinarith
    · intro hle
      constructor <;> nlinarith

section

variable {freq : ℚ} {a b : FrequencyWattPoint} {before : List FrequencyWattPoint}

/-- The loop up to a point that is not above the frequency. -/
theorem freqTableLoop_append
    (hbefore : ∀ e ∈ before, e.frequencyHz ≤ freq) (ha : a.frequencyHz ≤ freq)
    (watt1 freq1 watt2 : ℚ) (rest : List FrequencyWattPoint) :
    freqTableLoop freq watt1 freq1 watt2 (before ++ a :: rest) =
      freqTableLoop freq a.totalPowerW a.frequencyHz a.totalPowerW rest := by
  induction before generalizing watt1 freq1 watt2 with
  | nil => exact if_neg (not_lt.mpr ha)
  | cons e before ih =>
    rw [cons_append, freqTableLoop, if_neg (not_lt.mpr (hbefore e mem_cons_self))]
    exact ih (fun e he => hbefore e (mem_cons_of_mem _ he)) _ _ _

theorem getWattFromFreqTable_cons (e : FrequencyWattPoint) (rest : List FrequencyWattPoint) :
    getWattFromFreqTable (e :: rest) freq =
      let r := freqTableLoop freq e.totalPowerW 0 0 (e :: rest)
      r.1 + (freq - r.2.1) * (r.2.2 - r.1) := by
  cases rest with
  | nil =>
    unfold getWattFromFreqTable freqTableLoop freqTableLoop
    split_ifs <;> simp
  | cons next rest => rfl

/-- The power at or after a point, with what comes next in the table. -/
theorem getWattFromFreqTable_after {rest : List FrequencyWattPoint}
    (hsorted : ((before ++ a :: rest).map FrequencyWattPoint.frequencyHz).Pairwise (· < ·))
    (ha : a.frequencyHz ≤ freq) :
    getWattFromFreqTable (before ++ a :: rest) freq =
      let r := freqTableLoop freq a.totalPowerW a.frequencyHz a.totalPowerW rest
      r.1 + (freq - r.2.1) * (r.2.2 - r.1) := by
  rw [map_append, pairwise_append] at hsorted
  have hbefore : ∀ x ∈ before, x.frequencyHz ≤ freq := fun x hx =>
    (hsorted.2.2 _ (mem_map_of_mem hx) _ mem_cons_self).le.trans ha
  cases before with
  | nil => rw [nil_append, getWattFromFreqTable_cons, freqTableLoop, if_neg (not_lt.mpr ha)]
  | cons e before =>
    rw [cons_append, getWattFromFreqTable_cons, ← cons_append, freqTableLoop_append hbefore ha]

/-- **Frequency tables**: the power is right at the points and outside the table; between two
points it is the interpolation exactly if they are 1 Hz apart or of equal power. -/
theorem frequency_table_interpolates_iff (table : List FrequencyWattPoint)
    (hsorted : (table.map FrequencyWattPoint.frequencyHz).Pairwise (· < ·)) (freq : ℚ) :
    (∀ e ∈ table, getWattFromFreqTable table e.frequencyHz = e.totalPowerW) ∧
    (∀ e ∈ table.head?, freq < e.frequencyHz → getWattFromFreqTable table freq = e.totalPowerW) ∧
    (∀ e ∈ table.getLast?, e.frequencyHz < freq →
      getWattFromFreqTable table freq = e.totalPowerW) ∧
    ∀ before a b after, table = before ++ a :: b :: after → a.frequencyHz < freq →
      freq < b.frequencyHz →
        (getWattFromFreqTable table freq = a.totalPowerW +
            (freq - a.frequencyHz) / (b.frequencyHz - a.frequencyHz) *
              (b.totalPowerW - a.totalPowerW) ↔
          b.frequencyHz - a.frequencyHz = 1 ∨ a.totalPowerW = b.totalPowerW) ∧
        (getWattFromFreqTable table freq ∈ Set.uIcc a.totalPowerW b.totalPowerW ↔
          freq - a.frequencyHz ≤ 1 ∨ a.totalPowerW = b.totalPowerW) := by
  refine ⟨fun e he => ?_, fun e he hlt => ?_, fun e he hlt => ?_, ?_⟩
  · obtain ⟨before, rest, rfl⟩ := append_of_mem he
    rw [getWattFromFreqTable_after hsorted le_rfl]
    cases rest with
    | nil => simp [freqTableLoop]
    | cons next rest =>
      rw [map_append, map_cons, pairwise_append, pairwise_cons] at hsorted
      rw [freqTableLoop, if_pos (hsorted.2.1.1 _ mem_cons_self)]
      ring
  · cases table with
    | nil => cases he
    | cons first rest =>
      obtain rfl := Option.some.inj he
      rw [getWattFromFreqTable_cons, freqTableLoop, if_pos hlt]
      ring
  · obtain ⟨before, rfl⟩ := getLast?_eq_some_iff.mp he
    rw [getWattFromFreqTable_after hsorted hlt.le]
    simp [freqTableLoop]
  · rintro before a b after rfl ha hb
    rw [getWattFromFreqTable_after hsorted ha.le, freqTableLoop, if_pos hb]
    exact ⟨slope_eq_interpolation_iff (sub_pos.mpr ha) (sub_pos.mpr (ha.trans hb)),
      slope_mem_uIcc_iff (sub_pos.mpr ha)⟩

end

/-- Points 1 Hz apart. -/
theorem table_of_one_hertz_interpolates :
    getWattFromFreqTable [⟨49, 0⟩, ⟨50, 1000⟩] (99 / 2) =
      0 + (99 / 2 - 49) / (50 - 49) * (1000 - 0) :=
  (((frequency_table_interpolates_iff [⟨49, 0⟩, ⟨50, 1000⟩] (by simp; norm_num) (99 / 2)).2.2.2
    [] ⟨49, 0⟩ ⟨50, 1000⟩ [] rfl (by norm_num) (by norm_num)).1).mpr (.inl (by norm_num))

/-- Points 2 Hz apart: half way between 0 W and 1000 W the power is 1000 W, and after that it is
above both. -/
theorem table_of_two_hertz_overshoots :
    getWattFromFreqTable [⟨49, 0⟩, ⟨51, 1000⟩] 50 = 1000 ∧
      getWattFromFreqTable [⟨49, 0⟩, ⟨51, 1000⟩] (101 / 2) = 1500 := by
  decide +kernel

end EverestCore.Energy
