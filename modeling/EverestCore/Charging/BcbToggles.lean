import EverestCore.Charging.State

/-!
# BCB toggles

A sequence of toggles begins with a transition from B to C, and it is over when enough time has
passed since then. Whether a pulse has been counted in between is not asked.
-/

namespace EverestCore.Charging

open EverestCore.Lib

/-- Transitions from B to C, from C to B, and polls, each with its time. -/
inductive BcbEvent
  | startPulse (now : Int)
  | stopPulse (now : Int)
  | poll (now : Int)
  deriving DecidableEq

/-- A charger, the last transition from B to C since the reset, the lengths of the complete
pulses since then, newest first, and whether the last pulse was counted and then reported. -/
structure BcbHistory where
  charger : Charger
  start : Option Int := none
  pulses : List Int := []
  reported : Bool := false

namespace BcbHistory

variable (h : BcbHistory)

def step : BcbEvent → BcbHistory
  | .startPulse now =>
    { h with charger := h.charger.bcbToggleDetectStartPulse now, start := some now }
  | .stopPulse now =>
    { h with
      charger := h.charger.bcbToggleDetectStopPulse now
      pulses := (h.start.map (now - ·)).toList ++ h.pulses
      reported := false }
  | .poll now =>
    { h with
      charger := (h.charger.bcbToggleDetected now).1
      reported := h.reported || (h.charger.bcbSequenceComplete now &&
        decide (h.charger.internal.hlcEvPauseBcbCount ≠ 0)) }

/-- The last complete pulse is valid: there is a valid one, and no invalid one after it. -/
def Pulsed : Prop :=
  ∃ length ∈ h.pulses.head?, tpEvValdStateDurationMin < length ∧ length < tpEvValdStateDurationMax

/-- A poll reports a toggle only after a valid pulse. -/
def ReportsPulse : BcbEvent → Prop
  | .poll now => (h.charger.bcbToggleDetected now).2 = true → h.Pulsed
  | _ => True

/-- A poll that comes when the sequence is over finds a pulse that is counted, or one that was
and has been reported since. -/
def FindsPulse : BcbEvent → Prop
  | .poll now =>
    h.charger.internal.hlcBcbSequenceStarted = true →
      ttEvseValdToggle < now - h.charger.internal.hlcEvPauseStartOfBcbSequence →
      h.charger.internal.hlcEvPauseBcbCount ≠ 0 ∨ h.reported = true
  | _ => True

/-- The count stands for pulses that have been seen. -/
structure Counts : Prop where
  pulsed : h.Pulsed ↔ h.charger.internal.hlcEvPauseBcbCount ≠ 0 ∨ h.reported = true
  started : h.start = if h.charger.internal.hlcBcbSequenceStarted then
    some h.charger.internal.hlcEvPauseStartOfBcb else none
  begun : h.charger.internal.hlcEvPauseBcbCount ≠ 0 →
    h.charger.internal.hlcBcbSequenceStarted = true
  idle : h.charger.internal.hlcBcbSequenceStarted = false → h.pulses = []

/-- One event. -/
theorem Counts.step {h : BcbHistory} (hcounts : h.Counts) (event : BcbEvent) :
    (h.step event).Counts := by
  obtain ⟨charger, start, pulses, reported⟩ := h
  obtain ⟨hpulsed, hstarted, hbegun, hidle⟩ := hcounts
  cases event with
  | startPulse now =>
    simp only [BcbHistory.step, Charger.bcbToggleDetectStartPulse]
    by_cases hcount : charger.internal.hlcEvPauseBcbCount = 0
    · rw [if_pos hcount]
      exact ⟨hpulsed, rfl, fun _ => rfl, nofun⟩
    · rw [if_neg hcount]
      refine ⟨hpulsed, ?_, hbegun, hidle⟩
      rw [if_pos (hbegun hcount)]
  | stopPulse now =>
    simp only [BcbHistory.step, Charger.bcbToggleDetectStopPulse]
    cases hsequence : charger.internal.hlcBcbSequenceStarted with
    | false =>
      -- nothing is counted before the first transition from B to C
      have hzero : charger.internal.hlcEvPauseBcbCount = 0 := by
        by_contra hne
        exact Bool.false_ne_true (hsequence.symm.trans (hbegun hne))
      obtain rfl : start = none := by simpa [hsequence] using hstarted
      obtain rfl := hidle hsequence
      exact ⟨by simp [Pulsed, hzero], by simp [hsequence], hbegun, fun _ => rfl⟩
    | true =>
      rw [hsequence] at hstarted
      rw [if_pos rfl, show start = some _ from hstarted]
      split_ifs with hvalid
      · exact ⟨by simp [Pulsed, hvalid], rfl, fun _ => rfl, nofun⟩
      · exact ⟨by simpa [Pulsed] using hvalid, rfl, fun _ => rfl, nofun⟩
  | poll now =>
    simp only [BcbHistory.step, Charger.bcbToggleDetected]
    split_ifs with hcomplete
    · refine ⟨hpulsed.trans ?_, hstarted, fun hne => absurd rfl hne, hidle⟩
      simp [hcomplete, or_comm]
    · refine ⟨hpulsed.trans ?_, hstarted, hbegun, hidle⟩
      simp [hcomplete]

/-- A sequence that ends by its count has a counted pulse; the others end by their time. -/
theorem Counts.reportsPulse_iff {h : BcbHistory} (hcounts : h.Counts) (event : BcbEvent) :
    h.ReportsPulse event ↔ h.FindsPulse event := by
  cases event with
  | poll now =>
    have hdetected : (h.charger.bcbToggleDetected now).2 = h.charger.bcbSequenceComplete now := by
      unfold Charger.bcbToggleDetected
      split <;> simp_all
    simp only [ReportsPulse, FindsPulse, hdetected, hcounts.pulsed, Charger.bcbSequenceComplete,
      Bool.and_eq_true, decide_eq_true_eq]
    refine ⟨fun hreports hbegun htime => hreports ⟨hbegun, .inl htime⟩, ?_⟩
    rintro hfinds ⟨hbegun, htime | hcount⟩
    · exact hfinds hbegun htime
    · exact .inl (by omega)
  | startPulse now => exact Iff.rfl
  | stopPulse now => exact Iff.rfl

/-- **A toggle is reported for a real pulse** exactly if no poll comes when the sequence is over
and no pulse has been counted. -/
theorem bcb_toggle_needs_pulse_iff (s : Charger) (events : List BcbEvent) :
    Along step ReportsPulse { charger := s.bcbToggleReset } events ↔
      Along step FindsPulse { charger := s.bcbToggleReset } events := by
  refine along_congr (I := Counts) (fun h event hcounts => hcounts.step event)
    (fun h event hcounts => hcounts.reportsPulse_iff event) events ?_
  exact ⟨by simp [Pulsed, Charger.bcbToggleReset], rfl, fun hne => absurd rfl hne, fun _ => rfl⟩

end BcbHistory

open BcbHistory

/-- The car stays in C: no pulse has been completed when the sequence is over. -/
theorem toggle_without_pulse :
    let h := step { charger := ({} : Charger).bcbToggleReset } (.startPulse 0)
    (h.charger.bcbToggleDetected 4000).2 = true ∧ h.pulses = [] := by
  decide

end EverestCore.Charging
