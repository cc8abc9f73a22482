import Mathlib.Data.List.GetD
import Mathlib.Tactic.Ring
import EverestCore.V2G.IsoMessages

/-!
# ISO 15118-2: the EV's charging profile

`check_iso2_charging_profile_values` looks for the schedule interval in which a profile entry
starts. Nothing resets the flag that one has been found, so only the first entry of a profile is
checked; and behind the last interval the loop goes on without a next one.
-/

namespace EverestCore.V2G.Iso

/-- An entry of the profile, which starts that long after the one before. -/
structure ProfileEntry where
  start : Nat
  maxPower : PhysicalValue

/-- An interval of the schedule, which starts that long after the one before. -/
structure PMaxScheduleEntry where
  start : Nat := 0
  durationIsUsed : Nat := 1
  duration : Nat := 0
  pMax : PhysicalValue := { value := 0 }

/-! ## The loops -/

/-- The variables of the check. -/
structure ProfileCheck where
  evTimeSum : Nat := 0
  evseTimeSum : Nat := 0
  evseIdx : Nat := 0
  evTimeIsWithinProfileEntry : Bool := false
  responseCode : ResponseCode := .ok

variable (schedule : List PMaxScheduleEntry) (s : ProfileCheck)

def ProfileCheck.entry : PMaxScheduleEntry := schedule.getD s.evseIdx {}

/-- A pass that finds no interval. At the last one the index stays. -/
def ProfileCheck.skip : ProfileCheck :=
  { s with
    evseTimeSum := (s.evseTimeSum + (s.entry schedule).start) % 2 ^ 32
    evseIdx := if s.evseIdx = schedule.length - 1 then s.evseIdx else s.evseIdx + 1 }

/-- The test of a pass: does the EV's entry start in the interval at hand? -/
def ProfileCheck.fits : Bool :=
  let sum := (s.skip schedule).evseTimeSum
  sum ≤ s.evTimeSum &&
    if s.evseIdx < schedule.length - 1 then
      s.evTimeSum < (sum + (schedule.getD (s.evseIdx + 1) {}).start) % 2 ^ 32
    else
      s.evTimeSum ≤
        (sum + (s.entry schedule).durationIsUsed * (s.entry schedule).duration) % 2 ^ 32

/-- The profile asks for more than the interval allows. -/
def ProfileCheck.exceeds (ev : ProfileEntry) : Bool :=
  (s.entry schedule).pMax.amount < ev.maxPower.amount

/-- The search for the interval of one entry. -/
def whileLoop (ev : ProfileEntry) : Nat → ProfileCheck → Option ProfileCheck
  | 0, _ => none
  | fuel + 1, s =>
    if s.evseIdx < schedule.length ∧ s.evTimeIsWithinProfileEntry = false then
      if s.fits schedule then
        let found := { s with
          evseTimeSum := (s.skip schedule).evseTimeSum, evTimeIsWithinProfileEntry := true }
        if s.exceeds schedule ev then
          some { found with responseCode := .failedChargingProfileInvalid }
        else whileLoop ev fuel found
      else whileLoop ev fuel (s.skip schedule)
    else some s

def ProfileCheck.enter (ev : ProfileEntry) : ProfileCheck :=
  { s with evTimeSum := (s.evTimeSum + ev.start) % 2 ^ 32 }

/-- The entries of the profile, until one is found invalid. -/
def forLoop (fuel : Nat) : List ProfileEntry → ProfileCheck → Option ProfileCheck
  | [], s => some s
  | ev :: rest, s =>
    if s.responseCode = .ok then
      (whileLoop schedule ev fuel (s.enter ev)).bind (forLoop fuel rest)
    else some s

variable (chargingProfile : Option (List ProfileEntry))

/-- `check_iso2_charging_profile_values`; every loop may make `fuel` passes. -/
def checkIso2ChargingProfileValues
    (responseCode : ResponseCode) (fuel : Nat) : Option ProfileCheck :=
  forLoop schedule fuel (chargingProfile.getD []) { responseCode }

/-! ## Sums of the schedule -/

/-- The entry that pass `k` of the search looks at: the last one over and over again. -/
def passEntry (k : Nat) : PMaxScheduleEntry :=
  schedule.getD (min k (schedule.length - 1)) {}

/-- The sum of the first `k + 1` start values. Behind the last interval each further pass adds
its start value once more. -/
def intervalStart (k : Nat) : Nat :=
  ((schedule.take (k + 1)).map (·.start)).sum +
    (k + 1 - schedule.length) * (passEntry schedule k).start

/-- Interval `k` contains the time `t`, with sums that are wrapped as `wrap` does. It ends where
the next one begins; the last one ends with its duration. -/
def Covers (wrap : Nat → Nat) (k t : Nat) : Prop :=
  wrap (intervalStart schedule k) ≤ t ∧
    if k < schedule.length - 1 then t < wrap (intervalStart schedule (k + 1))
    else t ≤ wrap (intervalStart schedule k +
      (passEntry schedule k).durationIsUsed * (passEntry schedule k).duration)
deriving Decidable

/-- The sums of the code. -/
def wrap32 (n : Nat) : Nat := n % 2 ^ 32

/-- The first interval to contain the time. -/
def FirstCovers (k t : Nat) : Prop :=
  Covers schedule wrap32 k t ∧ ∀ j < k, ¬ Covers schedule wrap32 j t

variable {schedule}

theorem FirstCovers.unique {j k t : Nat} (hj : FirstCovers schedule j t)
    (hk : FirstCovers schedule k t) : j = k := by
  rcases Nat.lt_trichotomy j k with h | h | h
  · exact absurd hj.1 (hk.2 j h)
  · exact h
  · exact absurd hk.1 (hj.2 k h)

/-- From the last interval on, all passes look at the same entry. -/
theorem passEntry_eq {j k : Nat} (hj : schedule.length ≤ j + 1) (hk : schedule.length ≤ k + 1) :
    passEntry schedule j = passEntry schedule k := by
  unfold passEntry
  congr 1
  omega

theorem intervalStart_succ (k : Nat) : intervalStart schedule (k + 1) =
    intervalStart schedule k + (passEntry schedule (k + 1)).start := by
  unfold intervalStart
  by_cases hk : k + 1 < schedule.length
  · have hentry : passEntry schedule (k + 1) = schedule[k + 1] := by
      rw [passEntry, Nat.min_eq_left (by omega), List.getD_eq_getElem _ _ hk]
    rw [List.take_succ_eq_append_getElem hk, hentry, List.map_append, List.sum_append]
    simp [-List.map_take, show k + 1 - schedule.length = 0 by omega,
      show k + 1 + 1 - schedule.length = 0 by omega]
  · rw [passEntry_eq (j := k + 1) (k := k) (by omega) (by omega),
      List.take_of_length_le (by omega), List.take_of_length_le (by omega),
      show k + 1 + 1 - schedule.length = k + 1 - schedule.length + 1 by omega]
    ring

theorem intervalStart_zero (hne : schedule ≠ []) :
    intervalStart schedule 0 = (passEntry schedule 0).start := by
  obtain ⟨entry, rest, rfl⟩ := List.exists_cons_of_ne_nil hne
  simp [intervalStart, passEntry]

theorem intervalStart_mono {j k : Nat} (h : j ≤ k) :
    intervalStart schedule j ≤ intervalStart schedule k := by
  induction h with
  | refl => exact le_rfl
  | step _ ih => exact ih.trans (intervalStart_succ _ ▸ Nat.le_add_right _ _)

/-! ## Passes -/

variable {ev : ProfileEntry} {s s' : ProfileCheck}

/-- The loop is running. -/
abbrev ProfileCheck.Searches (schedule : List PMaxScheduleEntry) (s : ProfileCheck) : Prop :=
  s.evseIdx < schedule.length ∧ s.evTimeIsWithinProfileEntry = false

/-- Pass `k` of the search is next. -/
structure ProfileCheck.AtPass (schedule : List PMaxScheduleEntry) (k : Nat) (s : ProfileCheck) :
    Prop where
  searches : s.Searches schedule
  evseIdx : s.evseIdx = min k (schedule.length - 1)
  evseTimeSum : (s.evseTimeSum + (s.entry schedule).start) % 2 ^ 32 =
    wrap32 (intervalStart schedule k)

theorem ProfileCheck.AtPass.entry {k : Nat} (h : s.AtPass schedule k) :
    s.entry schedule = passEntry schedule k := by
  rw [ProfileCheck.entry, h.evseIdx, passEntry]

theorem ProfileCheck.AtPass.skip {k : Nat} (h : s.AtPass schedule k) :
    (s.skip schedule).AtPass schedule (k + 1) := by
  have hidx : (s.skip schedule).evseIdx = min (k + 1) (schedule.length - 1) := by
    have hlt := h.searches.1
    have hbefore := h.evseIdx
    simp only [ProfileCheck.skip]
    split <;> omega
  refine ⟨⟨?_, h.searches.2⟩, hidx, ?_⟩
  · have hlt := h.searches.1
    omega
  · have hentry : (s.skip schedule).entry schedule = passEntry schedule (k + 1) := by
      rw [ProfileCheck.entry, hidx, passEntry]
    rw [hentry, intervalStart_succ, wrap32, Nat.add_mod (intervalStart schedule k)]
    have hsum : (s.skip schedule).evseTimeSum = wrap32 (intervalStart schedule k) := h.evseTimeSum
    rw [hsum, wrap32, Nat.add_mod (_ % _), Nat.mod_mod]

theorem ProfileCheck.AtPass.fits_iff {k : Nat} (h : s.AtPass schedule k) :
    s.fits schedule = true ↔ Covers schedule wrap32 k s.evTimeSum := by
  have hsum : (s.skip schedule).evseTimeSum = wrap32 (intervalStart schedule k) := h.evseTimeSum
  have hlast : s.evseIdx < schedule.length - 1 ↔ k < schedule.length - 1 := by
    rw [h.evseIdx]
    omega
  simp only [ProfileCheck.fits, Covers, hsum, h.entry, Bool.and_eq_true, decide_eq_true_eq, hlast]
  refine and_congr_right fun _ => ?_
  split_ifs with hk
  · have hnext : schedule.getD (s.evseIdx + 1) {} = passEntry schedule (k + 1) := by
      rw [passEntry, h.evseIdx, Nat.min_eq_left hk.le, Nat.min_eq_left (by omega)]
    rw [hnext, intervalStart_succ, decide_eq_true_eq]
    simp only [wrap32, Nat.mod_add_mod]
  · rw [decide_eq_true_eq]
    simp only [wrap32, Nat.mod_add_mod]

/-- The search from pass `k` on ends at the first interval that contains the time, and compares
the power with that interval's. -/
theorem whileLoop_some {fuel k : Nat} (hs : s.AtPass schedule k)
    (h : whileLoop schedule ev fuel s = some s') :
    s'.evTimeIsWithinProfileEntry = true ∧ ∃ j ≥ k, Covers schedule wrap32 j s.evTimeSum ∧
      (∀ i, k ≤ i → i < j → ¬ Covers schedule wrap32 i s.evTimeSum) ∧
      s'.responseCode =
        if (passEntry schedule j).pMax.amount < ev.maxPower.amount
        then .failedChargingProfileInvalid else s.responseCode := by
  induction fuel generalizing s k with
  | zero => cases h
  | succ fuel ih =>
    rw [whileLoop, if_pos hs.searches] at h
    split at h
    · rename_i hfits
      have hcovers := hs.fits_iff.mp hfits
      have hfound : s'.evTimeIsWithinProfileEntry = true ∧ s'.responseCode =
          if s.exceeds schedule ev then .failedChargingProfileInvalid else s.responseCode := by
        split at h
        · rename_i hexceeds
          cases h
          exact ⟨rfl, (if_pos hexceeds).symm⟩
        · rename_i hexceeds
          cases fuel with
          | zero => cases h
          | succ fuel =>
            rw [whileLoop, if_neg (by simp)] at h
            cases h
            exact ⟨rfl, (if_neg hexceeds).symm⟩
      refine ⟨hfound.1, k, le_rfl, hcovers, fun i hi hlt => absurd hi (by omega), ?_⟩
      simpa only [ProfileCheck.exceeds, hs.entry, decide_eq_true_eq] using hfound.2
    · rename_i hfits
      obtain ⟨hdone, j, hj, hcovers, hbefore, hcode⟩ := ih hs.skip h
      refine ⟨hdone, j, by omega, hcovers, fun i hi hlt => ?_, hcode⟩
      rcases hi.eq_or_lt with rfl | hgt
      · exact fun hcovered => hfits (hs.fits_iff.mpr hcovered)
      · exact hbefore i hgt hlt

theorem whileLoop_idle (h : ¬ s.Searches schedule) (fuel : Nat) :
    whileLoop schedule ev (fuel + 1) s = some s := by
  rw [whileLoop, if_neg h]

/-- The search ends if an interval contains the time. -/
theorem whileLoop_ends {j k : Nat} (hs : s.AtPass schedule k)
    (hcovers : Covers schedule wrap32 (k + j) s.evTimeSum) :
    ∃ s', whileLoop schedule ev (j + 2) s = some s' := by
  induction j generalizing s k with
  | zero =>
    have hnow := hs.fits_iff.mpr hcovers
    by_cases hexceeds : s.exceeds schedule ev = true <;>
      simp [whileLoop, hs.searches, hnow, hexceeds]
  | succ j ih =>
    rw [whileLoop, if_pos hs.searches]
    by_cases hnow : s.fits schedule = true
    · by_cases hexceeds : s.exceeds schedule ev = true <;> simp [whileLoop, hnow, hexceeds]
    · rw [if_neg hnow]
      refine ih hs.skip ?_
      rwa [show k + 1 + j = k + (j + 1) by omega]

/-- Once an interval has been found, the other entries change nothing. -/
theorem forLoop_idle (h : ¬ s.Searches schedule) (fuel : Nat) (rest : List ProfileEntry) :
    ∃ s', forLoop schedule (fuel + 1) rest s = some s' ∧ s'.responseCode = s.responseCode := by
  induction rest generalizing s with
  | nil => exact ⟨s, rfl, rfl⟩
  | cons ev rest ih =>
    rw [forLoop]
    split
    · rw [whileLoop_idle (s := s.enter ev) h]
      exact ih h
    · exact ⟨s, rfl, rfl⟩

theorem atPass_enter (hne : schedule ≠ []) (first : ProfileEntry) :
    (ProfileCheck.enter {} first).AtPass schedule 0 := by
  refine ⟨⟨List.length_pos_iff.mpr hne, rfl⟩, rfl, ?_⟩
  rw [intervalStart_zero hne, wrap32]
  simp [ProfileCheck.entry, ProfileCheck.enter, passEntry]

theorem evTimeSum_enter (first : ProfileEntry) :
    (ProfileCheck.enter {} first).evTimeSum = wrap32 first.start := by
  simp [ProfileCheck.enter, wrap32]

variable {fuel : Nat} {chargingProfile : Option (List ProfileEntry)} {responseCode : ResponseCode}

/-- There is nothing to compare. -/
def NothingToCheck (schedule : List PMaxScheduleEntry)
    (chargingProfile : Option (List ProfileEntry)) (responseCode : ResponseCode) : Prop :=
  responseCode = .ok → schedule = [] ∨ chargingProfile.getD [] = []

theorem check_of_nothingToCheck (h : NothingToCheck schedule chargingProfile responseCode)
    (fuel : Nat) :
    ∃ s, checkIso2ChargingProfileValues schedule chargingProfile responseCode (fuel + 1) = some s ∧
      s.responseCode = responseCode := by
  unfold checkIso2ChargingProfileValues
  by_cases hcode : responseCode = .ok
  · rcases h hcode with rfl | hnil
    · exact forLoop_idle (by simp) fuel _
    · exact ⟨_, by rw [hnil]; rfl, rfl⟩
  · cases chargingProfile.getD [] with
    | nil => exact ⟨_, rfl, rfl⟩
    | cons first rest => exact ⟨_, if_neg hcode, rfl⟩

theorem responseCode_of_nothingToCheck (h : NothingToCheck schedule chargingProfile responseCode)
    (hs : checkIso2ChargingProfileValues schedule chargingProfile responseCode fuel = some s) :
    s.responseCode = responseCode := by
  cases fuel with
  | zero =>
    unfold checkIso2ChargingProfileValues at hs
    cases hprofile : chargingProfile.getD [] with
    | nil =>
      rw [hprofile] at hs
      cases hs
      rfl
    | cons first rest =>
      rw [hprofile, forLoop] at hs
      split at hs <;> cases hs
      rfl
  | succ fuel =>
    obtain ⟨s', hs', hcode⟩ := check_of_nothingToCheck h fuel
    cases hs.symm.trans hs'
    exact hcode

/-- The first entry is compared with the first interval that contains its start. -/
theorem check_some {first : ProfileEntry} {rest : List ProfileEntry} (hne : schedule ≠ [])
    (hprofile : chargingProfile.getD [] = first :: rest)
    (h : checkIso2ChargingProfileValues schedule chargingProfile .ok fuel = some s) :
    ∃ k, FirstCovers schedule k (wrap32 first.start) ∧ s.responseCode =
      if (passEntry schedule k).pMax.amount < first.maxPower.amount
      then .failedChargingProfileInvalid else .ok := by
  rw [checkIso2ChargingProfileValues, hprofile, forLoop, if_pos rfl] at h
  obtain ⟨found, hfound, hrest⟩ := Option.bind_eq_some_iff.mp h
  obtain ⟨hwithin, k, -, hcovers, hbefore, hcode⟩ :=
    whileLoop_some (atPass_enter hne first) hfound
  rw [evTimeSum_enter] at hcovers hbefore
  refine ⟨k, ⟨hcovers, fun j => hbefore j (Nat.zero_le j)⟩, ?_⟩
  cases fuel with
  | zero => cases hfound
  | succ fuel =>
    have hdone : ¬ found.Searches schedule := by simp [hwithin]
    obtain ⟨s', hrest', hcode'⟩ := forLoop_idle hdone fuel rest
    cases hrest.symm.trans hrest'
    exact hcode'.trans hcode

/-- The request that the server handles has the verdict of the check, where the check ends. -/
def PowerDeliveryReq.ReportsProfile (req : PowerDeliveryReq)
    (schedule : List PMaxScheduleEntry) (chargingProfile : Option (List ProfileEntry)) : Prop :=
  ∀ responseCode fuel s,
    checkIso2ChargingProfileValues schedule chargingProfile responseCode fuel = some s →
      s.responseCode = if responseCode = .ok ∧ req.chargingProfileInvalid
        then .failedChargingProfileInvalid else responseCode

/-- The verdict depends on schedule and profile only, so that a request can have it. -/
theorem exists_reportsProfile (req : PowerDeliveryReq) (schedule : List PMaxScheduleEntry)
    (chargingProfile : Option (List ProfileEntry)) : ∃ chargingProfileInvalid,
      { req with chargingProfileInvalid }.ReportsProfile schedule chargingProfile := by
  -- it is enough to know the verdict for a code that was OK
  suffices h : ∃ verdict : Bool, ∀ fuel s,
      checkIso2ChargingProfileValues schedule chargingProfile .ok fuel = some s →
        s.responseCode = if verdict then .failedChargingProfileInvalid else .ok by
    obtain ⟨verdict, h⟩ := h
    refine ⟨verdict, fun responseCode fuel s hs => ?_⟩
    by_cases hcode : responseCode = .ok
    · subst hcode
      simpa using h fuel s hs
    · rw [if_neg fun hand => hcode hand.1]
      exact responseCode_of_nothingToCheck (fun hok => absurd hok hcode) hs
  by_cases hnothing : NothingToCheck schedule chargingProfile .ok
  · exact ⟨false, fun fuel s hs => responseCode_of_nothingToCheck hnothing hs⟩
  · simp only [NothingToCheck, forall_true_left, not_or] at hnothing
    obtain ⟨hne, hprofile⟩ := hnothing
    obtain ⟨first, rest, hprofile⟩ := List.exists_cons_of_ne_nil hprofile
    by_cases hcovers : ∃ k, FirstCovers schedule k (wrap32 first.start)
    · obtain ⟨k, hk⟩ := hcovers
      refine ⟨(passEntry schedule k).pMax.amount < first.maxPower.amount, fun fuel s hs => ?_⟩
      obtain ⟨j, hj, hcode⟩ := check_some hne hprofile hs
      simpa [hj.unique hk] using hcode
    · refine ⟨false, fun fuel s hs => ?_⟩
      obtain ⟨j, hj, -⟩ := check_some hne hprofile hs
      exact absurd ⟨j, hj⟩ hcovers

/-! ## What is checked -/

variable (schedule)

/-- **The check ends** exactly if there is nothing to check or an interval of the schedule, or the
last one moved on by its own start value any number of times, contains the start of the first
entry of the profile. -/
theorem profile_check_ends_iff (chargingProfile : Option (List ProfileEntry))
    (responseCode : ResponseCode) :
    (∃ fuel s, checkIso2ChargingProfileValues schedule chargingProfile responseCode fuel = some s) ↔
      (responseCode = .ok → schedule ≠ [] → ∀ first ∈ (chargingProfile.getD []).head?,
        ∃ k, Covers schedule wrap32 k (wrap32 first.start)) := by
  by_cases hnothing : NothingToCheck schedule chargingProfile responseCode
  · obtain ⟨s, hs, -⟩ := check_of_nothingToCheck hnothing 0
    refine iff_of_true ⟨_, s, hs⟩ fun hcode hne first hfirst => ?_
    rw [(hnothing hcode).resolve_left hne] at hfirst
    cases hfirst
  · simp only [NothingToCheck, not_forall, not_or] at hnothing
    obtain ⟨rfl, hne, hprofile⟩ := hnothing
    obtain ⟨first, rest, hprofile⟩ := List.exists_cons_of_ne_nil hprofile
    simp only [hprofile, List.head?_cons, Option.mem_some_iff, forall_eq', forall_true_left]
    constructor
    · rintro ⟨fuel, s, hs⟩ -
      obtain ⟨k, hk, -⟩ := check_some hne hprofile hs
      exact ⟨k, hk.1⟩
    · intro h
      obtain ⟨k, hk⟩ := h hne
      have hstart := atPass_enter hne first
      obtain ⟨found, hfound⟩ : ∃ found, whileLoop schedule first (k + 2) _ = some found :=
        whileLoop_ends hstart (by rwa [evTimeSum_enter, Nat.zero_add])
      have hdone : ¬ found.Searches schedule := by simp [(whileLoop_some hstart hfound).1]
      obtain ⟨s, hrest, -⟩ := forLoop_idle hdone (k + 1) rest
      refine ⟨k + 2, s, ?_⟩
      rw [checkIso2ChargingProfileValues, hprofile, forLoop, if_pos rfl, hfound]
      exact hrest

/-- Where entry `j` of a profile starts. -/
def entryStart (profile : List ProfileEntry) (j : Nat) : Nat :=
  ((profile.take (j + 1)).map (·.start)).sum

variable (profile : List ProfileEntry)

/-- Entry `j` starts inside an interval and exceeds its power. -/
def Exceeds (j : Nat) : Prop :=
  ∃ ev ∈ profile[j]?, ∃ k < schedule.length, Covers schedule id k (entryStart profile j) ∧
    (passEntry schedule k).pMax.amount < ev.maxPower.amount

/-- No sum reaches 2^32. -/
structure SumsBelow : Prop where
  profile : (profile.map (·.start)).sum < 2 ^ 32
  schedule : ∀ last ∈ schedule.getLast?,
    (schedule.map (·.start)).sum + last.durationIsUsed * last.duration < 2 ^ 32

/-- The comparison of the first entry is enough: it starts inside an interval, and exceeds it or no
other entry exceeds its own; or it starts in none, and exceeds the last interval exactly if another
entry exceeds its own. -/
def FirstDecides : Prop :=
  ∀ first ∈ profile.head?, ∀ last ∈ schedule.getLast?,
    if ∃ k < schedule.length, Covers schedule id k first.start
    then Exceeds schedule profile 0 ∨ ∀ j, ¬ Exceeds schedule profile (j + 1)
    else last.pMax.amount < first.maxPower.amount ↔ ∃ j, Exceeds schedule profile (j + 1)

variable {schedule} {profile}

theorem getLast?_eq_passEntry (hne : schedule ≠ []) {k : Nat} (hk : schedule.length ≤ k + 1) :
    schedule.getLast? = some (passEntry schedule k) := by
  have hpos := List.length_pos_iff.mpr hne
  rw [passEntry, Nat.min_eq_right (by omega), List.getD_eq_getElem _ _ (by omega),
    List.getLast?_eq_getElem?, List.getElem?_eq_getElem (by omega)]

theorem intervalStart_le {k : Nat} (hk : k < schedule.length) :
    intervalStart schedule k ≤ (schedule.map (·.start)).sum := by
  refine (intervalStart_mono (Nat.le_sub_one_of_lt hk)).trans_eq ?_
  rw [intervalStart, Nat.sub_add_cancel (by omega), List.take_length, Nat.sub_self, Nat.zero_mul,
    Nat.add_zero]

/-- Without overflow the code's intervals are those of the schedule. -/
theorem covers_iff (hsums : SumsBelow schedule profile) {k : Nat} (hk : k < schedule.length)
    (t : Nat) : Covers schedule wrap32 k t ↔ Covers schedule id k t := by
  have hne : schedule ≠ [] := List.length_pos_iff.mp (by omega)
  have hlast := hsums.schedule _ (getLast?_eq_passEntry hne (k := schedule.length) (by omega))
  have hbelow : ∀ j < schedule.length, wrap32 (intervalStart schedule j) =
      intervalStart schedule j := by
    intro j hj
    have hle := intervalStart_le hj
    exact Nat.mod_eq_of_lt (by omega)
  unfold Covers
  rw [hbelow k hk]
  refine and_congr_right fun _ => ?_
  split_ifs with hnext
  · rw [hbelow (k + 1) (by omega)]
    exact Iff.rfl
  · have hsame : passEntry schedule k = passEntry schedule schedule.length :=
      passEntry_eq (by omega) (by omega)
    have hle := intervalStart_le hk
    rw [hsame, wrap32, Nat.mod_eq_of_lt (by omega)]
    exact Iff.rfl

theorem Covers.not_lt {j k t : Nat} (hj : Covers schedule id j t) (hk : Covers schedule id k t)
    (hlength : k < schedule.length) : ¬ j < k := by
  intro hlt
  have hend := hj.2
  rw [if_pos (by omega)] at hend
  have hstart := hk.1
  have hmono : intervalStart schedule (j + 1) ≤ intervalStart schedule k := intervalStart_mono hlt
  simp only [id] at hend hstart
  omega

theorem Covers.unique {j k t : Nat} (hj : Covers schedule id j t) (hk : Covers schedule id k t)
    (hjlength : j < schedule.length) (hklength : k < schedule.length) : j = k := by
  have hle := hj.not_lt hk hklength
  have hge := hk.not_lt hj hjlength
  omega

theorem exceeds_zero_iff {first : ProfileEntry} {rest : List ProfileEntry} {k : Nat}
    (hk : k < schedule.length) (hcovers : Covers schedule id k first.start) :
    Exceeds schedule (first :: rest) 0 ↔
      (passEntry schedule k).pMax.amount < first.maxPower.amount := by
  have hstart : entryStart (first :: rest) 0 = first.start := by simp [entryStart]
  constructor
  · rintro ⟨ev, hev, j, hj, hcovers', hexceeds⟩
    cases hev
    rw [hstart] at hcovers'
    rwa [hcovers'.unique hcovers hj hk] at hexceeds
  · intro hexceeds
    exact ⟨first, rfl, k, hk, hstart ▸ hcovers, hexceeds⟩

/-- **Every entry is checked** exactly if the comparison of the first one is enough. -/
theorem profile_checked_iff (chargingProfile : Option (List ProfileEntry)) (fuel : Nat)
    (hsums : SumsBelow schedule (chargingProfile.getD []))
    (h : checkIso2ChargingProfileValues schedule chargingProfile .ok fuel = some s) :
    (s.responseCode = .failedChargingProfileInvalid ↔
        ∃ j, Exceeds schedule (chargingProfile.getD []) j) ↔
      FirstDecides schedule (chargingProfile.getD []) := by
  by_cases hnothing : NothingToCheck schedule chargingProfile .ok
  · rw [responseCode_of_nothingToCheck hnothing h]
    refine iff_of_true (iff_of_false nofun ?_) ?_
    · rintro ⟨j, ev, hev, k, hk, -⟩
      rcases hnothing rfl with rfl | hnil
      · cases hk
      · simp [hnil] at hev
    · intro first hfirst last hlast
      rcases hnothing rfl with rfl | hnil
      · cases hlast
      · simp [hnil] at hfirst
  simp only [NothingToCheck, forall_true_left, not_or] at hnothing
  obtain ⟨hne, hprofile⟩ := hnothing
  obtain ⟨first, rest, hprofile⟩ := List.exists_cons_of_ne_nil hprofile
  obtain ⟨k, hk, hcode⟩ := check_some hne hprofile h
  rw [hprofile] at hsums ⊢
  have hbelow : wrap32 first.start = first.start := by
    have htotal := hsums.profile
    rw [List.map_cons, List.sum_cons] at htotal
    exact Nat.mod_eq_of_lt (by omega)
  have hcode : s.responseCode = .failedChargingProfileInvalid ↔
      (passEntry schedule k).pMax.amount < first.maxPower.amount := by
    rw [hcode]
    split_ifs with hexceeds <;> simp [hexceeds]
  have hlast := getLast?_eq_passEntry hne (k := schedule.length) (by omega)
  have hsplit : (∃ j, Exceeds schedule (first :: rest) j) ↔ Exceeds schedule (first :: rest) 0 ∨
      ∃ j, Exceeds schedule (first :: rest) (j + 1) := Nat.or_exists_add_one.symm
  rw [hcode, hsplit]
  simp only [FirstDecides, List.head?_cons, Option.mem_some_iff, forall_eq', hlast]
  rw [hbelow] at hk
  split_ifs with hin
  · -- the interval found is the one that contains the start
    obtain ⟨j, hj, hcovers⟩ := hin
    have hle : ¬ j < k := fun hlt => hk.2 j hlt ((covers_iff hsums hj _).mpr hcovers)
    have hkcovers := (covers_iff hsums (by omega) _).mp hk.1
    obtain rfl := hkcovers.unique hcovers (by omega) hj
    rw [exceeds_zero_iff hj hcovers]
    tauto
  · -- the last interval is found, moved on
    have hlength : schedule.length ≤ k := by
      by_contra hlt
      exact hin ⟨k, by omega, (covers_iff hsums (by omega) _).mp hk.1⟩
    have hsame : passEntry schedule k = passEntry schedule schedule.length :=
      passEntry_eq (by omega) (by omega)
    have hnot : ¬ Exceeds schedule (first :: rest) 0 := by
      rintro ⟨ev, -, j, hj, hcovers, -⟩
      refine hin ⟨j, hj, ?_⟩
      simpa [entryStart] using hcovers
    rw [hsame, or_iff_right hnot]

/-- A schedule of two intervals, and a profile that stays below both. -/
def twoIntervals : List PMaxScheduleEntry :=
  [{ pMax := { value := 10 } }, { start := 3600, duration := 82800, pMax := { value := 20 } }]

def twoEntries : List ProfileEntry := [⟨0, { value := 5 }⟩, ⟨3600, { value := 15 }⟩]

theorem two_entries_checked :
    SumsBelow twoIntervals twoEntries ∧
    ∃ s, checkIso2ChargingProfileValues twoIntervals (some twoEntries) .ok 9 = some s ∧
      (s.responseCode = .failedChargingProfileInvalid ↔
        ∃ j, Exceeds twoIntervals twoEntries j) := by
  have hsums : SumsBelow twoIntervals twoEntries :=
    ⟨by decide, fun last hlast => by cases hlast; decide⟩
  refine ⟨hsums, _, rfl, (profile_checked_iff (some twoEntries) 9 hsums rfl).mpr ?_⟩
  rintro first hfirst last hlast
  cases hfirst
  rw [if_pos ⟨0, by decide, by decide⟩]
  right
  rintro (_ | j) ⟨ev, hev, k, hk, hcovers, hexceeds⟩
  · cases hev
    rcases k with _ | _ | k
    · exact absurd hcovers (by decide)
    · exact absurd hexceeds (by decide)
    · have hlength : k + 1 + 1 < 2 := hk
      omega
  · cases hev

/-- The automatic schedule: one day from now. -/
def oneDay : List PMaxScheduleEntry := [{ duration := 86400, pMax := { value := 10 } }]

/-- An entry that starts behind the end of the schedule is looked for forever. -/
theorem profile_check_hangs :
    ¬ ∃ fuel s, checkIso2ChargingProfileValues oneDay (some [⟨86401, { value := 1 }⟩]) .ok fuel =
      some s := by
  rintro ⟨fuel, s, hs⟩
  obtain ⟨k, ⟨⟨-, hend⟩, -⟩, -⟩ := check_some (by decide) rfl hs
  -- the start value is 0: all passes look at the same interval
  have hstart : intervalStart oneDay k = 0 := by simp [intervalStart, passEntry, oneDay]
  have hentry : passEntry oneDay k = { duration := 86400, pMax := { value := 10 } } := by
    simp [passEntry, oneDay]
  rw [if_neg (by simp [oneDay]), hstart, hentry] at hend
  exact absurd hend (by decide)

/-- The second entry has more power than the schedule allows. -/
theorem second_entry_unchecked :
    let profile : List ProfileEntry := [⟨0, { value := 1 }⟩, ⟨60, { value := 11 }⟩]
    (checkIso2ChargingProfileValues oneDay (some profile) .ok 9).map (·.responseCode) =
        some .ok ∧ Exceeds oneDay profile 1 := by
  exact ⟨by decide, _, rfl, 0, by decide, by decide, by decide⟩

end EverestCore.V2G.Iso
