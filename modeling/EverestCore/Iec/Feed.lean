import EverestCore.Iec.Safety

/-!
# Feed threads

`process_bsp_event` stores the raw CP state and spawns a detached thread that
runs the state machine later. Here calls and the executions of those threads
interleave freely. An observer watches the visits to state B that follow state C
in the reported states: such a visit is served by a run of the machine that
signals `CarRequestedStopPower` and commands the contactor off.
-/

namespace EverestCore.Iec

open EverestCore.Lib List

/-- The machine, and how many threads are to run it. -/
structure Threads where
  iec : State
  pending : Nat
deriving DecidableEq

inductive Act where
  | call (op : Op)
  | feed
deriving DecidableEq

def act (t : Threads) : Act → Threads
  | .call op =>
    { iec := (request t.iec op).1
      pending := t.pending + if feeds t.iec op then 1 else 0 }
  | .feed => if t.pending = 0 then t else { iec := feed t.iec, pending := t.pending - 1 }

def reported (s : State) : Op → Option RawCpState
  | .processBspEvent event =>
    if s.enabled then
      match fromBspEvent event with
      | .inl raw => some raw
      | .inr _ => none
    else none
  | _ => none

/-! ## The observer -/

/-- The current visit to state B, as far as it followed state C. -/
inductive Visit where
  | none
  | waiting
  | served
deriving DecidableEq

/-- `missed` is set once a visit has ended without being served. -/
structure Watch where
  visit : Visit := .none
  missed : Bool := false
deriving DecidableEq

/-- A report ends the visit unless it is B again; B right after C starts one. -/
def Watch.report (w : Watch) (previous raw : RawCpState) : Watch :=
  if raw = .b then if previous = .c then { w with visit := .waiting } else w
  else { visit := .none, missed := w.missed || decide (w.visit = .waiting) }

/-- The calls made by a step from `s` to `s'`, newest first. -/
def newCalls (s s' : State) : List Call := s'.calls.take (s'.calls.length - s.calls.length)

/-- The two things a visit to B must cause. -/
def servesStop (calls : List Call) : Bool :=
  calls.any (fun call => call.out = .signalEvent .carRequestedStopPower) &&
    calls.any fun call =>
      match call.out with
      | .allowPowerOn value _ => !value
      | _ => false

def Watch.fed (w : Watch) (calls : List Call) : Watch :=
  if w.visit = .waiting ∧ servesStop calls = true then { w with visit := .served } else w

structure Watched where
  threads : Threads
  watch : Watch := {}
deriving DecidableEq

variable (w : Watched)

/-- The observer sees reports and runs. -/
def Watched.step (a : Act) : Watched :=
  { threads := act w.threads a
    watch :=
      match a with
      | .call op =>
        match reported w.threads.iec op with
        | some raw => w.watch.report w.threads.iec.cpState raw
        | none => w.watch
      | .feed =>
        if w.threads.pending = 0 then w.watch
        else w.watch.fed (newCalls w.threads.iec (feed w.threads.iec)) }

/-- No visit ended unserved, and the current one is not waiting. -/
def Watched.NoneLost : Prop :=
  w.watch.missed = false ∧ w.watch.visit ≠ .waiting

/-- The machine has caught up when `raw` is reported: B comes right after C only
if the last state the machine ran on is neither A nor B, and a visit to B is only
left once the machine has run on it. -/
def Watched.InTime (raw : RawCpState) : Prop :=
  (w.threads.iec.cpState = .c → raw = .b →
    w.threads.iec.lastCpState ≠ .a ∧ w.threads.iec.lastCpState ≠ .b) ∧
  (w.watch.visit ≠ .none → raw ≠ .b → w.threads.iec.lastCpState = .b)
deriving Decidable

/-- What the step reports, if anything, is reported in time. -/
def Watched.CaughtUp : Act → Prop
  | .call op => ∀ raw ∈ reported w.threads.iec op, w.InTime raw
  | .feed => True

instance (w : Watched) : ∀ a : Act, Decidable (w.CaughtUp a)
  | .call _ => inferInstanceAs (Decidable (∀ raw ∈ _, _))
  | .feed => .isTrue trivial

/-! ## What a run in state B emits -/

/-- A run in state B stops the power. -/
def StopsInB (s : State) : Prop := s.lastCpState ≠ .a ∧ s.lastCpState ≠ .b

theorem stopsInB_congr {s s' : State} (h : s'.lastCpState = s.lastCpState) :
    StopsInB s' ↔ StopsInB s := by
  unfold StopsInB
  rw [h]

namespace Run

theorem lockB_same (r : Run) :
    r.lockB.events = r.events ∧ r.lockB.s.calls = r.s.calls ∧
      r.lockB.s.lastCpState = r.s.lastCpState := by
  unfold lockB on
  refine ⟨rfl, ?_, ?_⟩ <;> simp only <;> split <;> rfl

theorem plugInB_same (r : Run) :
    (CpEvent.carRequestedStopPower ∈ r.plugInB.events ↔
      CpEvent.carRequestedStopPower ∈ r.events) ∧ r.plugInB.s.calls = r.s.calls := by
  unfold plugInB
  split
  · exact ⟨by simp [push, on], rfl⟩
  · exact ⟨Iff.rfl, rfl⟩

theorem caseB_stop (s : State) (r : Run) (hr : r.s = s ∧ r.events = []) :
    (CpEvent.carRequestedStopPower ∈ r.caseB.events ↔ StopsInB s) ∧
      ∃ new, r.caseB.s.calls = new ++ s.calls ∧
        (StopsInB s → ∃ call ∈ new, ∃ reason, call.out = .allowPowerOn false reason) ∧
        ∀ call ∈ new, ∃ reason, call.out = .allowPowerOn false reason := by
  obtain ⟨rfl, hevents⟩ := hr
  obtain ⟨hev, hcalls, hlast⟩ := lockB_same r
  obtain ⟨hplugEv, hplugCalls⟩ := plugInB_same r.lockB.stopPowerB
  have hbranch : (CpEvent.carRequestedStopPower ∈ r.lockB.stopPowerB.events ↔ StopsInB r.s) ∧
      ∃ new, r.lockB.stopPowerB.s.calls = new ++ r.s.calls ∧
        (StopsInB r.s → ∃ call ∈ new, ∃ reason, call.out = .allowPowerOn false reason) ∧
        ∀ call ∈ new, ∃ reason, call.out = .allowPowerOn false reason := by
    unfold stopPowerB
    rw [hlast]
    split
    · rename_i hstop
      refine ⟨⟨fun _ => hstop, fun _ => by simp [stopC1, callAllowPowerOnBsp, on, push]⟩, ?_⟩
      refine ⟨[_], congrArg _ hcalls, fun _ => ⟨_, mem_singleton.mpr rfl, _, rfl⟩, fun call h => ?_⟩
      obtain rfl := mem_singleton.mp h
      exact ⟨_, rfl⟩
    · rename_i hstop
      refine ⟨⟨fun h => ?_, fun h => absurd h hstop⟩, [], hcalls, fun h => absurd h hstop, by simp⟩
      rw [hev, hevents] at h
      simp at h
  have hfinal : ∀ q : Run, q = r.lockB.stopPowerB.plugInB →
      (CpEvent.carRequestedStopPower ∈ q.events ↔ StopsInB r.s) ∧
        q.s.calls = r.lockB.stopPowerB.s.calls := by
    rintro q rfl
    exact ⟨hplugEv.trans hbranch.1, hplugCalls⟩
  obtain ⟨hstop, hsame⟩ := hfinal _ rfl
  unfold caseB
  simp only
  rw [← hsame] at hbranch
  split
  · exact ⟨by simpa [push] using hstop, hbranch.2⟩
  · exact ⟨hstop, hbranch.2⟩

end Run

theorem checkConnectorLock_calls (s : State) :
    ∃ new, s.checkConnectorLock.calls = new ++ s.calls ∧
      ∀ call ∈ new, call.out = .signalLock ∨ call.out = .signalUnlock := by
  unfold State.checkConnectorLock
  simp only
  split
  · exact ⟨[_], rfl, fun call h => .inl (by rw [mem_singleton.mp h])⟩
  · split
    · exact ⟨[_], rfl, fun call h => .inr (by rw [mem_singleton.mp h])⟩
    · exact ⟨[], rfl, by simp⟩

theorem signalEvents_calls (events : List CpEvent) (s : State) :
    ∃ new, (events.foldl (fun s event => s.emit (.signalEvent event)) s).calls =
        new ++ s.calls ∧
      ∀ event, (∃ call ∈ new, call.out = .signalEvent event) ↔ event ∈ events := by
  induction events generalizing s with
  | nil => exact ⟨[], rfl, by simp⟩
  | cons event rest ih =>
    obtain ⟨new, hcalls, hmem⟩ := ih (s.emit (.signalEvent event))
    refine ⟨new ++ [⟨.signalEvent event, s.cpState, s.hasVentilation, s.pwmRunning,
      s.powerOnAllowed⟩], ?_, fun e => ?_⟩
    · rw [foldl_cons, hcalls]
      simp [State.emit]
    · simp only [mem_append, mem_cons, ← hmem e]
      constructor
      · rintro ⟨call, h | rfl | h, hout⟩
        · exact .inr ⟨call, h, hout⟩
        · exact .inl (by simpa using hout.symm)
        · exact absurd h (by simp)
      · rintro (rfl | ⟨call, h, hout⟩)
        · exact ⟨_, .inr (.inl rfl), rfl⟩
        · exact ⟨call, .inl h, hout⟩

/-- **Which run serves a visit.** A run in state B signals the stop and commands
off exactly when the last processed state is neither A nor B. -/
theorem feed_stop_iff {s : State} (hcp : s.cpState = .b) :
    servesStop (newCalls s (feed s)) = true ↔ StopsInB s := by
  have hleave : ({ s := s } : Run).leaveF.s = s ∧ ({ s := s } : Run).leaveF.events = [] := by
    unfold Run.leaveF
    split <;> exact ⟨rfl, rfl⟩
  have hswitch : ({ s := s } : Run).leaveF.switchCp = ({ s := s } : Run).leaveF.caseB := by
    unfold Run.switchCp
    rw [hleave.1, hcp]
  obtain ⟨hevents, caseNew, hcase, hoff, hcaseOnly⟩ := Run.caseB_stop s _ hleave
  rw [← hswitch] at hevents hcase
  obtain ⟨lockNew, hlock, hlockOnly⟩ :=
    checkConnectorLock_calls ({ s := s } : Run).leaveF.switchCp.s
  obtain ⟨eventNew, hevent, hmem⟩ :=
    signalEvents_calls (stateMachine s).2 (stateMachine s).1
  have hcalls : (feed s).calls = (eventNew ++ lockNew ++ caseNew) ++ s.calls := by
    have hmachine : (stateMachine s).1.calls = lockNew ++ caseNew ++ s.calls := by
      rw [append_assoc, ← hcase]
      exact hlock
    rw [append_assoc, append_assoc, ← append_assoc lockNew, ← hmachine]
    exact hevent
  rw [newCalls, hcalls, length_append, Nat.add_sub_cancel, take_left' rfl]
  unfold servesStop
  rw [Bool.and_eq_true, any_eq_true, any_eq_true]
  constructor
  · rintro ⟨⟨call, hcall, hout⟩, -⟩
    -- the stop event can only be one of the run's own events
    have hout : call.out = .signalEvent .carRequestedStopPower := by simpa using hout
    refine hevents.mp ((hmem _).mp ⟨call, ?_, hout⟩)
    rcases mem_append.mp hcall with h | h
    · rcases mem_append.mp h with h | h
      · exact h
      · rcases hlockOnly call h with h | h <;> simp [h] at hout
    · obtain ⟨reason, h⟩ := hcaseOnly call h
      simp [h] at hout
  · intro hstop
    obtain ⟨stop, hstopMem, hstopOut⟩ := (hmem _).mpr (hevents.mpr hstop)
    obtain ⟨off, hoffMem, reason, hoffOut⟩ := hoff hstop
    exact ⟨⟨stop, by simp [hstopMem], by simp [hstopOut]⟩,
      ⟨off, by simp [hoffMem], by simp [hoffOut]⟩⟩

theorem feed_cpState (s : State) :
    (feed s).cpState = s.cpState ∧ (feed s).lastCpState = s.cpState := by
  have hsignal : ∀ (events : List CpEvent) (q : State),
      (events.foldl (fun s event => s.emit (.signalEvent event)) q).cpState = q.cpState ∧
      (events.foldl (fun s event => s.emit (.signalEvent event)) q).lastCpState =
        q.lastCpState := by
    intro events
    induction events with
    | nil => exact fun q => ⟨rfl, rfl⟩
    | cons event rest ih => exact fun q => ih (q.emit (.signalEvent event))
  have hleave : ({ s := s } : Run).leaveF.s = s := by
    unfold Run.leaveF
    split <;> rfl
  have hkeeps := (Run.switchCp_effect ({ s := s } : Run).leaveF).cpState
  rw [hleave] at hkeeps
  have hcheck := (State.checkConnectorLock_fields ({ s := s } : Run).leaveF.switchCp.s).1.1
  obtain ⟨hcp, hlast⟩ := hsignal (stateMachine s).2 (stateMachine s).1
  exact ⟨hcp.trans (hcheck.trans hkeeps), hlast.trans (hcheck.trans hkeeps)⟩

/-! ## Visits over a run -/

theorem request_cpState (s : State) (op : Op) :
    (request s op).1.lastCpState = s.lastCpState ∧
      (request s op).1.cpState = (reported s op).getD s.cpState ∧
      ((reported s op).isSome = true → feeds s op = true) := by
  unfold feeds
  cases op with
  | processBspEvent event =>
    simp only [request, reported]
    split
    · cases fromBspEvent event with
      | inl raw => exact ⟨rfl, rfl, fun _ => rfl⟩
      | inr cpEvent =>
        simp only [State.processCpEvent]
        refine ⟨?_, ?_, by simp⟩
        · split <;> exact (State.checkConnectorLock_fields _).1.2.1
        · split <;> exact (State.checkConnectorLock_fields _).1.1
    · exact ⟨rfl, rfl, by simp⟩
  | allowPowerOn value reason => cases value <;> exact ⟨rfl, rfl, by simp [reported]⟩
  | connectorForceUnlock =>
    simp only [request, reported, State.connectorForceUnlock]
    refine ⟨?_, ?_, by simp⟩ <;> cases s.relaisOn <;> split <;>
      first
        | rfl
        | exact (State.checkConnectorLock_fields _).1.1
        | exact (State.checkConnectorLock_fields _).1.2.1
  | setOvercurrentLimit amps =>
    simp only [request, reported, State.setOvercurrentLimit]
    split <;> exact ⟨rfl, rfl, by simp⟩
  | pollC1 | pollUnlockF =>
    simp only [request, reported]
    split <;> exact ⟨rfl, rfl, by simp⟩
  | _ => exact ⟨rfl, rfl, by simp [reported]⟩

/-- Every visit so far was served or can still be served. -/
structure Watched.Good : Prop where
  notMissed : w.watch.missed = false
  waiting : w.watch.visit = .waiting →
    w.threads.iec.cpState = .b ∧ StopsInB w.threads.iec ∧ 0 < w.threads.pending
  served : w.watch.visit = .served →
    w.threads.iec.cpState = .b ∧ w.threads.iec.lastCpState = .b

/-- A visit was lost, or the current one can no longer be served. -/
def Watched.Doomed : Prop :=
  w.watch.missed = true ∨
    (w.watch.visit = .waiting ∧ w.threads.iec.cpState = .b ∧ ¬ StopsInB w.threads.iec)

variable {w : Watched}

theorem Watched.step_feed_idle (h : w.threads.pending = 0) : w.step .feed = w := by
  simp [Watched.step, act, h]

theorem Watched.step_feed (h : w.threads.pending ≠ 0) :
    (w.step .feed).threads.iec = feed w.threads.iec ∧
      (w.step .feed).watch = w.watch.fed (newCalls w.threads.iec (feed w.threads.iec)) := by
  simp [Watched.step, act, h]

/-- A step that meets the condition. -/
theorem Watched.step_good {a : Act} (hw : w.Good) (ha : w.CaughtUp a) : (w.step a).Good := by
  cases a with
  | feed =>
    by_cases hpending : w.threads.pending = 0
    · rw [Watched.step_feed_idle hpending]
      exact hw
    · obtain ⟨hcp, hlast⟩ := feed_cpState w.threads.iec
      obtain ⟨hthreads, hwatch⟩ := Watched.step_feed hpending
      have hsame (hne : w.watch.visit ≠ .waiting) : (w.step .feed).watch = w.watch := by
        rw [hwatch, Watch.fed, if_neg fun h => hne h.1]
      cases hvisit : w.watch.visit with
      | none =>
        have hsame := hsame (by simp [hvisit])
        exact ⟨hsame ▸ hw.notMissed, fun h => by simp [hsame, hvisit] at h,
          fun h => by simp [hsame, hvisit] at h⟩
      | waiting =>
        -- the run serves the visit
        obtain ⟨hb, hstop, -⟩ := hw.waiting hvisit
        have hserved : (w.step .feed).watch = { w.watch with visit := .served } := by
          rw [hwatch, Watch.fed, if_pos ⟨hvisit, (feed_stop_iff hb).mpr hstop⟩]
        exact ⟨hserved ▸ hw.notMissed, fun h => by simp [hserved] at h,
          fun _ => by rw [hthreads, hcp, hlast]; exact ⟨hb, hb⟩⟩
      | served =>
        obtain ⟨hb, -⟩ := hw.served hvisit
        have hsame := hsame (by simp [hvisit])
        exact ⟨hsame ▸ hw.notMissed, fun h => by simp [hsame, hvisit] at h,
          fun _ => by rw [hthreads, hcp, hlast]; exact ⟨hb, hb⟩⟩
  | call op =>
    obtain ⟨hlast, hcp, hfeeds⟩ := request_cpState w.threads.iec op
    have hpending : w.threads.pending ≤ (w.step (.call op)).threads.pending := Nat.le_add_right _ _
    cases hrep : reported w.threads.iec op with
    | none =>
      -- nothing is reported: only the number of threads may grow
      have hwatch : (w.step (.call op)).watch = w.watch := by simp [Watched.step, hrep]
      rw [hrep, Option.getD_none] at hcp
      refine ⟨hwatch ▸ hw.notMissed, fun h => ?_, fun h => ?_⟩
      · obtain ⟨hb, hstop, hpos⟩ := hw.waiting (hwatch ▸ h)
        exact ⟨hcp.trans hb, (stopsInB_congr hlast).mpr hstop, by omega⟩
      · obtain ⟨hb, hlb⟩ := hw.served (hwatch ▸ h)
        exact ⟨hcp.trans hb, hlast.trans hlb⟩
    | some raw =>
      have hwatch : (w.step (.call op)).watch =
          w.watch.report w.threads.iec.cpState raw := by simp [Watched.step, hrep]
      rw [hrep, Option.getD_some] at hcp
      have hspawn : 0 < (w.step (.call op)).threads.pending := by
        simp [Watched.step, act, hfeeds (by simp [hrep])]
      obtain ⟨henter, hleave⟩ := ha raw hrep
      have hstops : StopsInB w.threads.iec → StopsInB (w.step (.call op)).threads.iec :=
        (stopsInB_congr hlast).mpr
      by_cases hraw : raw = .b
      · by_cases hprev : w.threads.iec.cpState = .c
        · have hnew : (w.step (.call op)).watch = { w.watch with visit := .waiting } := by
            rw [hwatch, Watch.report, if_pos hraw, if_pos hprev]
          exact ⟨hnew ▸ hw.notMissed,
            fun _ => ⟨hcp.trans hraw, hstops (henter hprev hraw), hspawn⟩,
            fun h => by simp [hnew] at h⟩
        · have hsame : (w.step (.call op)).watch = w.watch := by
            rw [hwatch, Watch.report, if_pos hraw, if_neg hprev]
          exact ⟨hsame ▸ hw.notMissed,
            fun h => ⟨hcp.trans hraw, hstops (hw.waiting (hsame ▸ h)).2.1, hspawn⟩,
            fun h => ⟨hcp.trans hraw, hlast.trans (hw.served (hsame ▸ h)).2⟩⟩
      · -- the visit ends; it was served, since the machine has run on B
        have hserved : w.watch.visit ≠ .waiting := by
          intro h
          have hb := hleave (by simp [h]) hraw
          exact (hw.waiting h).2.1.2 hb
        have hnew : (w.step (.call op)).watch = { visit := .none, missed := false } := by
          rw [hwatch, Watch.report, if_neg hraw, hw.notMissed]
          simp [hserved]
        exact ⟨by rw [hnew], fun h => by simp [hnew] at h, fun h => by simp [hnew] at h⟩

theorem Watched.step_bad {a : Act} (hw : w.Good) (ha : ¬ w.CaughtUp a) : (w.step a).Doomed := by
  cases a with
  | feed => exact absurd trivial ha
  | call op =>
    obtain ⟨hlast, hcp, -⟩ := request_cpState w.threads.iec op
    simp only [Watched.CaughtUp, not_forall, Option.mem_def] at ha
    obtain ⟨raw, hrep, hbad⟩ := ha
    have hwatch : (w.step (.call op)).watch =
        w.watch.report w.threads.iec.cpState raw := by simp [Watched.step, hrep]
    rw [hrep, Option.getD_some] at hcp
    by_cases hraw : raw = .b
    · -- B is entered from C although the machine still stands in A or B
      have hnot : w.threads.iec.cpState = .c ∧ ¬ StopsInB w.threads.iec := by
        by_contra h
        refine hbad ⟨fun hprev _ => ?_, fun _ hne => absurd hraw hne⟩
        by_contra hstop
        exact h ⟨hprev, hstop⟩
      refine .inr ⟨?_, hcp.trans hraw, fun h => hnot.2 ((stopsInB_congr hlast).mp h)⟩
      rw [hwatch, Watch.report, if_pos hraw, if_pos hnot.1]
    · -- B is left although the machine has not run on it
      have hnot : w.watch.visit ≠ .none ∧ w.threads.iec.lastCpState ≠ .b := by
        by_contra h
        refine hbad ⟨fun _ hb => absurd hb hraw, fun hvisit _ => ?_⟩
        by_contra hlb
        exact h ⟨hvisit, hlb⟩
      have hwaiting : w.watch.visit = .waiting := by
        cases hvisit : w.watch.visit with
        | none => exact absurd hvisit hnot.1
        | waiting => rfl
        | served => exact absurd (hw.served hvisit).2 hnot.2
      refine .inl ?_
      rw [hwatch, Watch.report, if_neg hraw, hwaiting]
      simp

theorem Watched.step_doomed (a : Act) (hw : w.Doomed) : (w.step a).Doomed := by
  have hmissed : w.watch.missed = true → (w.step a).watch.missed = true := by
    intro h
    cases a with
    | feed =>
      simp only [Watched.step, Watch.fed]
      split
      · exact h
      · split <;> exact h
    | call op =>
      simp only [Watched.step]
      split
      · unfold Watch.report
        split
        · split <;> exact h
        · simp [h]
      · exact h
  rcases hw with h | ⟨hvisit, hb, hstuck⟩
  · exact .inl (hmissed h)
  · cases a with
    | feed =>
      by_cases hpending : w.threads.pending = 0
      · rw [Watched.step_feed_idle hpending]
        exact .inr ⟨hvisit, hb, hstuck⟩
      · obtain ⟨hcp, hlast⟩ := feed_cpState w.threads.iec
        obtain ⟨hthreads, hwatch⟩ := Watched.step_feed hpending
        refine .inr ⟨?_, by rw [hthreads, hcp, hb], fun h => ?_⟩
        · rw [hwatch, Watch.fed, if_neg fun h => hstuck ((feed_stop_iff hb).mp h.2)]
          exact hvisit
        · unfold StopsInB at h
          rw [hthreads, hlast] at h
          exact h.2 hb
    | call op =>
      obtain ⟨hlast, hcp, -⟩ := request_cpState w.threads.iec op
      have hstuck' : ¬ StopsInB (w.step (.call op)).threads.iec :=
        fun h => hstuck ((stopsInB_congr hlast).mp h)
      cases hrep : reported w.threads.iec op with
      | none =>
        rw [hrep, Option.getD_none] at hcp
        exact .inr ⟨by simp [Watched.step, hrep, hvisit], hcp.trans hb, hstuck'⟩
      | some raw =>
        rw [hrep, Option.getD_some] at hcp
        by_cases hraw : raw = .b
        · refine .inr ⟨?_, hcp.trans hraw, hstuck'⟩
          simp [Watched.step, hrep, Watch.report, hraw, hb, hvisit]
        · exact .inl (by simp [Watched.step, hrep, Watch.report, hraw, hvisit])

def Watched.init (lockConnectorInStateB : Bool) (now : Nat) : Watched :=
  { threads := { iec := Iec.init lockConnectorInStateB now, pending := 0 } }

/-- **No transition out of state C is lost exactly in the runs in which the
machine catches up.** Once every feed thread has run, each visit to B that
followed C has caused `CarRequestedStopPower` and a power-off command exactly
when no report overtook the machine around such a visit. -/
theorem no_transition_out_of_c_is_lost_iff (lockConnectorInStateB : Bool) (now : Nat)
    (acts : List Act)
    (hdone : (run Watched.step (Watched.init lockConnectorInStateB now) acts).threads.pending =
      0) :
    (run Watched.step (Watched.init lockConnectorInStateB now) acts).NoneLost ↔
      Along Watched.step Watched.CaughtUp (Watched.init lockConnectorInStateB now) acts := by
  have hinit : (Watched.init lockConnectorInStateB now).Good :=
    ⟨rfl, fun h => by simp [Watched.init] at h, fun h => by simp [Watched.init] at h⟩
  rcases good_or_doomed (fun _ _ => Watched.step_good) (fun _ _ => Watched.step_bad)
    (fun _ a => Watched.step_doomed a) acts hinit with ⟨halong, hgood⟩ | ⟨hnot, hdoomed⟩
  · refine ⟨fun _ => halong, fun _ => ⟨hgood.notMissed, fun h => ?_⟩⟩
    exact absurd hdone (Nat.pos_iff_ne_zero.mp (hgood.waiting h).2.2)
  · refine ⟨fun h => ?_, fun h => absurd h hnot⟩
    rcases hdoomed with hmissed | ⟨hvisit, -⟩
    · exact absurd (h.1.symm.trans hmissed) (by simp)
    · exact absurd hvisit h.2

/-- Reports C and B, each after the machine has caught up with the one before. -/
def promptReports : List Act :=
  [.call (.enable true), .call (.processBspEvent .c), .feed, .call (.processBspEvent .b), .feed,
    .call (.processBspEvent .c), .feed]

/-- The visit to B between two C is served. -/
theorem prompt_reports_lose_nothing :
    (run Watched.step (Watched.init true 0) promptReports).NoneLost :=
  (no_transition_out_of_c_is_lost_iff true 0 promptReports (by decide)).mpr (by decide)

/-- Reports C, B and C again before any feed thread runs. -/
def burstReports : List Act :=
  [.call (.enable true), .call (.processBspEvent .c), .feed, .call (.processBspEvent .b),
    .call (.processBspEvent .c), .feed, .feed]

/-- All three threads have run, and the visit to B left no trace: no stop was
signalled and no contactor command given. -/
theorem burst_reports_lose_a_visit :
    (run Watched.step (Watched.init true 0) burstReports).threads.pending = 0 ∧
      (run Watched.step (Watched.init true 0) burstReports).threads.iec.calls.map Call.out =
        [.signalEvent .carPluggedIn, .signalLock, .enable true] ∧
      ¬ (run Watched.step (Watched.init true 0) burstReports).NoneLost :=
  ⟨by decide, by decide, fun h => absurd h.1 (by decide)⟩

end EverestCore.Iec
