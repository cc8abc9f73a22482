import EverestCore.Iec.StateMachine
import EverestCore.Lib.Machine

/-!
# Plug events of the IEC state machine

Which plug events a run of the machine emits depends on the last CP state and on the flag for a
car that is plugged in. On detours through D, E, F or Disabled a car is missed or counted twice.
-/

namespace EverestCore.Iec

open EverestCore.Lib

/-- How many more cars have been plugged in than unplugged. -/
def plugBalance (events : List CpEvent) : Int :=
  events.count .carPluggedIn - events.count .carUnplugged

theorem plugBalance_append (events events' : List CpEvent) :
    plugBalance (events ++ events') = plugBalance events + plugBalance events' := by
  unfold plugBalance
  rw [List.count_append, List.count_append]
  omega

/-- What decides about plug events, and their balance. -/
structure Plugs where
  balance : Int
  carPluggedIn : Bool
  cpState : RawCpState
  lastCpState : RawCpState

namespace Plugs

/-- What a run in B or C makes of the cable. -/
def plugIn (p : Plugs) : Plugs :=
  if p.lastCpState = .a ∨ p.lastCpState = .disabled ∨
      (p.carPluggedIn = false ∧ p.lastCpState = .f) then
    { p with balance := p.balance + 1, carPluggedIn := true }
  else p

/-- What a run in A makes of it. -/
def unplug (p : Plugs) : Plugs :=
  if p.lastCpState = .a then p
  else if p.lastCpState = .disabled then { p with carPluggedIn := false }
  else { p with balance := p.balance - 1, carPluggedIn := false }

/-- One run of the machine, as far as plug events go. -/
def switchCp (hasVentilation : Bool) (p : Plugs) : Plugs :=
  match p.cpState with
  | .a => p.unplug
  | .b | .c => p.plugIn
  | .d => if hasVentilation then p.plugIn else p
  | .disabled | .e | .f => p

/-- A raw state is stored and the machine runs. -/
def feed (hasVentilation : Bool) (p : Plugs) (raw : RawCpState) : Plugs :=
  let p := { p with cpState := raw }.switchCp hasVentilation
  { p with lastCpState := p.cpState }

/-- The balance of a run is added to that of the runs before. -/
theorem feed_balance (hasVentilation : Bool) (p : Plugs) (raw : RawCpState) :
    p.feed hasVentilation raw =
      let q := { p with balance := 0 }.feed hasVentilation raw
      { q with balance := p.balance + q.balance } := by
  unfold feed switchCp plugIn unplug
  cases raw with
  | disabled | e | f => simp
  | a | b | c | d => split_ifs <;> simp [sub_eq_add_neg]

/-- The balance goes by the flag, and the flag by the state. -/
structure Good (p : Plugs) : Prop where
  current : p.cpState = p.lastCpState
  balance : p.balance = if p.carPluggedIn then 1 else 0
  plugged : p.lastCpState = .b ∨ p.lastCpState = .c → p.carPluggedIn = true
  unplugged : p.lastCpState = .a → p.carPluggedIn = false

/-- No detour: from Disabled with a car not to a state that asks for it, and with none not from D,
E or F to one that takes it for seen. -/
def NoDetour (hasVentilation : Bool) (p : Plugs) (raw : RawCpState) : Prop :=
  (p.lastCpState = .disabled → p.carPluggedIn = true →
    raw ≠ .a ∧ raw ≠ .b ∧ raw ≠ .c ∧ (raw = .d → hasVentilation = false)) ∧
  (p.carPluggedIn = false →
    (p.lastCpState = .d ∨ p.lastCpState = .e → raw ≠ .a ∧ raw ≠ .b ∧ raw ≠ .c) ∧
    (p.lastCpState = .f → raw ≠ .a))

theorem Good.feed {p : Plugs} (hgood : p.Good) {hasVentilation : Bool} {raw : RawCpState}
    (h : p.NoDetour hasVentilation raw) : (p.feed hasVentilation raw).Good := by
  obtain ⟨balance, carPluggedIn, cpState, lastCpState⟩ := p
  obtain ⟨hcurrent, hbalance, hplugged, hunplugged⟩ := hgood
  dsimp only at hcurrent hbalance hplugged hunplugged
  subst hcurrent
  unfold NoDetour at h
  unfold Plugs.feed switchCp plugIn unplug
  cases raw <;> cases hasVentilation <;> cases cpState <;> cases carPluggedIn <;> simp_all <;>
    exact ⟨rfl, by simp, by simp, by simp⟩

end Plugs

namespace Run

def plugs (r : Run) : Plugs :=
  ⟨plugBalance r.events, r.s.carPluggedIn, r.s.cpState, r.s.lastCpState⟩

section

variable (r : Run)

theorem plugs_push (event : CpEvent) :
    (r.push event).plugs = { r.plugs with balance := r.plugs.balance + plugBalance [event] } := by
  rw [plugs, push, plugBalance_append]
  rfl

theorem plugs_callAllowPowerOnBsp (value : Bool) :
    (r.callAllowPowerOnBsp value).plugs = r.plugs := by
  cases value <;> rfl

theorem plugs_pwmStopsC : r.pwmStopsC.plugs = r.plugs := by
  unfold pwmStopsC
  split <;> rfl

theorem plugs_pwmResumesC : r.pwmResumesC.plugs = r.plugs := by
  unfold pwmResumesC
  split_ifs <;> rfl

theorem plugs_timeoutC : r.timeoutC.plugs = r.plugs := by
  unfold timeoutC
  split <;> rfl

/-- The other events do not count. -/
theorem plugs_push_of_ne (event : CpEvent) (h : plugBalance [event] = 0) :
    (r.push event).plugs = r.plugs := by
  rw [plugs_push, h, add_zero]

theorem plugs_switchOnC : r.switchOnC.plugs = r.plugs := by
  unfold switchOnC
  dsimp only
  split_ifs
  · exact plugs_push_of_ne _ _ rfl
  · exact plugs_callAllowPowerOnBsp _ _
  · exact plugs_push_of_ne _ _ rfl
  · rfl
  · rfl

theorem pluggingIn_iff : pluggingIn r.s = true ↔ r.plugs.lastCpState = .a ∨
    r.plugs.lastCpState = .disabled ∨
      (r.plugs.carPluggedIn = false ∧ r.plugs.lastCpState = .f) := by
  simp [pluggingIn, plugs, or_assoc]

theorem plugs_plugInC : r.plugInC.plugs = r.plugs.plugIn := by
  unfold plugInC Plugs.plugIn
  simp only [pluggingIn_iff]
  split_ifs
  · exact congrArg (Plugs.mk · true _ _) (plugBalance_append r.events [.carPluggedIn])
  · exact plugs_push_of_ne _ _ rfl
  · rfl

theorem plugs_caseC : r.caseC.plugs = r.plugs.plugIn := by
  unfold caseC
  rw [plugs_switchOnC, plugs_timeoutC, plugs_pwmResumesC, plugs_pwmStopsC, plugs_plugInC]
  rfl

theorem plugs_lockB : r.lockB.plugs = r.plugs := by
  simp only [lockB, on, plugs]
  split <;> rfl

theorem plugs_stopPowerB : r.stopPowerB.plugs = r.plugs := by
  unfold stopPowerB
  split_ifs
  · exact plugs_push_of_ne r .carRequestedStopPower rfl
  · rfl

theorem plugs_plugInB : r.plugInB.plugs = r.plugs.plugIn := by
  unfold plugInB Plugs.plugIn
  simp only [pluggingIn_iff]
  split_ifs
  · exact congrArg (Plugs.mk · true _ _) (plugBalance_append r.events [.carPluggedIn])
  · rfl

theorem plugs_caseA : r.caseA.plugs = r.plugs.unplug := by
  unfold caseA Plugs.unplug
  by_cases ha : r.s.lastCpState = .a
  · have ha' : r.plugs.lastCpState = .a := ha
    rw [if_neg (not_not.mpr ha), if_pos ha', if_neg fun h => h.1 ha]
  · have ha' : r.plugs.lastCpState ≠ .a := ha
    rw [if_pos ha, if_neg ha']
    by_cases hdisabled : r.s.lastCpState = .disabled
    · have hdisabled' : r.plugs.lastCpState = .disabled := hdisabled
      rw [if_neg fun h => h.2 hdisabled, if_pos hdisabled']
      rfl
    · have hdisabled' : r.plugs.lastCpState ≠ .disabled := hdisabled
      rw [if_pos ⟨ha, hdisabled⟩, if_neg hdisabled']
      exact congrArg (Plugs.mk · false _ _) (plugBalance_append r.events [.carUnplugged])

theorem plugs_caseF : r.caseF.plugs = r.plugs := by
  have hpush (r' : Run) : (if fromBcd r'.s then r'.push .bcdToEf else r').plugs = r'.plugs := by
    split_ifs
    · exact plugs_push_of_ne r' _ rfl
    · rfl
  have hunlock (r' : Run) : (if r'.s.timeoutUnlockStateF.reached r'.s.now then
      r'.on State.connectorUnlock else r').plugs = r'.plugs := by
    split_ifs <;> rfl
  unfold caseF
  refine (hunlock _).trans ((hpush _).trans ?_)
  split_ifs <;> rfl

theorem plugs_switchCp : r.switchCp.plugs = r.plugs.switchCp r.s.hasVentilation := by
  unfold switchCp Plugs.switchCp
  change _ = match r.s.cpState with
    | .a => r.plugs.unplug
    | .b | .c => r.plugs.plugIn
    | .d => if r.s.hasVentilation then r.plugs.plugIn else r.plugs
    | .disabled | .e | .f => r.plugs
  cases r.s.cpState with
  | disabled =>
    change r.caseDisabled.plugs = r.plugs
    unfold caseDisabled
    split_ifs <;> rfl
  | a => exact r.plugs_caseA
  | b =>
    have h : r.lockB.stopPowerB.plugInB.plugs = r.plugs.plugIn := by
      rw [plugs_plugInB, plugs_stopPowerB, plugs_lockB]
    unfold caseB
    generalize r.lockB.stopPowerB.plugInB = r' at h ⊢
    dsimp only
    split_ifs
    · exact (plugs_push_of_ne r' _ rfl).trans h
    · exact h
  | c => exact r.plugs_caseC
  | d =>
    have hventilation : (r.on State.connectorLock).s.hasVentilation = r.s.hasVentilation := rfl
    unfold caseD
    dsimp only
    rw [hventilation]
    cases r.s.hasVentilation with
    | true => exact (r.on State.connectorLock).plugs_caseC
    | false => rfl
  | e =>
    unfold caseE
    dsimp only
    split_ifs
    · rw [plugs_push_of_ne _ _ rfl, plugs_push_of_ne _ _ rfl]
      rfl
    · rfl
    · rfl
  | f => exact r.plugs_caseF

end

end Run

/-- The events of one run. -/
theorem plugs_stateMachine (s : State) (raw : RawCpState) :
    let r := stateMachine (s.storeCpState raw)
    Run.plugs { s := r.1, events := r.2 } = (Run.plugs { s }).feed s.hasVentilation raw := by
  let r : Run := Run.leaveF { s := s.storeCpState raw }
  have hr : r.plugs = { Run.plugs { s } with cpState := raw } ∧
      r.s.hasVentilation = s.hasVentilation := by
    simp only [r, Run.leaveF]
    split_ifs <;> exact ⟨rfl, rfl⟩
  have hswitch := r.plugs_switchCp
  rw [hr.1, hr.2] at hswitch
  have hlock : (r.switchCp.on State.checkConnectorLock).plugs = r.switchCp.plugs := by
    simp only [Run.on, Run.plugs, State.checkConnectorLock]
    split_ifs <;> rfl
  unfold Plugs.feed
  rw [← hswitch, ← hlock]
  rfl

/-- The machine and the events of the runs so far. -/
structure PlugHistory where
  s : State
  events : List CpEvent := []

namespace PlugHistory

variable (h : PlugHistory)

/-- A raw state is fed to the machine. -/
def step (raw : RawCpState) : PlugHistory :=
  let r := stateMachine (h.s.storeCpState raw)
  ⟨r.1, h.events ++ r.2⟩

/-- The events tell where the cable is. -/
def MirrorsCable : Prop :=
  (h.s.cpState = .b ∨ h.s.cpState = .c →
    h.events.count .carPluggedIn = h.events.count .carUnplugged + 1) ∧
  (h.s.cpState = .a → h.events.count .carPluggedIn = h.events.count .carUnplugged)

def plugs : Plugs := Run.plugs { s := h.s, events := h.events }

def NoDetour (raw : RawCpState) : Prop := h.plugs.NoDetour h.s.hasVentilation raw
deriving Decidable

theorem plugs_step (raw : RawCpState) :
    (h.step raw).plugs = h.plugs.feed h.s.hasVentilation raw := by
  rw [Plugs.feed_balance, ← show (Run.plugs { s := h.s }) = { h.plugs with balance := 0 } from rfl,
    ← plugs_stateMachine]
  exact congrArg (Plugs.mk · _ _ _) (plugBalance_append h.events _)

theorem mirrorsCable_of_good {h : PlugHistory} (hgood : h.plugs.Good) : h.MirrorsCable := by
  have hbalance : (h.events.count .carPluggedIn : Int) - h.events.count .carUnplugged = _ :=
    hgood.balance
  have hcurrent : h.s.cpState = h.s.lastCpState := hgood.current
  unfold MirrorsCable
  rw [hcurrent]
  constructor
  · intro hbc
    rw [hgood.plugged hbc, if_pos rfl] at hbalance
    omega
  · intro ha
    rw [hgood.unplugged ha, if_neg Bool.false_ne_true] at hbalance
    omega

/-- **Plug events mirror the cable** in every run without a detour. -/
theorem plug_events_mirror_cable (s : State) (hstate : s.cpState = .a)
    (hlast : s.lastCpState = .a) (hflag : s.carPluggedIn = false) (raws : List RawCpState)
    (hdetour : Along step NoDetour { s } raws) : Always step MirrorsCable { s } raws := by
  refine always_of_along (I := fun h => h.plugs.Good) ?_ (fun h => mirrorsCable_of_good) ?_ hdetour
  · intro h raw hgood hno
    rw [plugs_step]
    exact hgood.feed hno
  · have hplugs : plugs { s } = ⟨0, false, .a, .a⟩ := by
      simp [plugs, Run.plugs, hstate, hlast, hflag, plugBalance]
    rw [hplugs]
    exact ⟨rfl, rfl, by simp, fun _ => rfl⟩

/-- A car that charges, with errors, and one that is plugged in while the port is disabled. -/
theorem charging_mirrors_cable :
    Always step MirrorsCable { s := { cpState := .a, lastCpState := .a } }
      [.b, .c, .b, .e, .f, .b, .a, .disabled, .b, .a] :=
  plug_events_mirror_cable { cpState := .a, lastCpState := .a } rfl rfl rfl _ (by decide)

/-- From A to E and back: a car is unplugged that was never plugged in. -/
theorem unplugged_without_car :
    let h := run step { s := { cpState := .a, lastCpState := .a } } [.e, .a]
    h.s.cpState = .a ∧ h.events = [.carUnplugged] := by
  decide

end PlugHistory

end EverestCore.Iec
