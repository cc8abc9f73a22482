import EverestCore.Slac.Evse
import EverestCore.Slac.Sessions

/-!
# Steps of the EVSE machine

What a step can do, said once for all invariants: the states outside an attempt
confirm no key and enter matching without sessions, and each result of the
callback leads `MatchingState` and `WaitForLinkState` to one successor.
-/

namespace EverestCore.Slac.Evse

open EverestCore.Slac

variable {d : Defs}

/-! ## Outside an attempt -/

/-- A confirmation carries the key. -/
def Out.confirms {n : Nat} : Out n → Bool
  | .send _ (.cmSlacMatchCnf _) => true
  | _ => false

/-- What was sent between two states confirms nothing. -/
def Quiet (m m' : Machine d.aagListLen) : Prop :=
  ∃ outs, m'.log = m.log ++ outs ∧ outs.any Out.confirms = false

/-- Matching has not begun, or has no sessions yet. -/
def Fresh : FsmState d.aagListLen → Prop
  | .matching s => s.sessions = [] ∧ s.seenSlacParmReq = false
  | .waitForLink _ => False
  | _ => True

/-- No key is confirmed and no session is left. -/
structure Calm (m m' : Machine d.aagListLen) : Prop where
  quiet : Quiet m m'
  fresh : Fresh m'.fsm

section

variable {m m' : Machine d.aagListLen} (env : Env)

theorem Quiet.refl (m : Machine d.aagListLen) : Quiet m m :=
  ⟨[], (List.append_nil _).symm, rfl⟩

theorem Quiet.emit (h : Quiet m m') {outs : List (Out d.aagListLen)}
    (houts : outs.any Out.confirms = false) : Quiet m (m'.emit outs) := by
  obtain ⟨before, hlog, hbefore⟩ := h
  refine ⟨before ++ outs, ?_, ?_⟩
  · show m'.log ++ outs = _
    rw [hlog, List.append_assoc]
  · rw [List.any_append, hbefore, houts]
    rfl

theorem Quiet.trans {m'' : Machine d.aagListLen} (h : Quiet m m') (h' : Quiet m' m'') :
    Quiet m m'' := by
  obtain ⟨outs, hlog, hquiet⟩ := h'
  have hemit := h.emit hquiet
  obtain ⟨all, hall, hquiet⟩ := hemit
  refine ⟨all, ?_, hquiet⟩
  rw [hlog]
  exact hall

theorem quiet_leave (m : Machine d.aagListLen) : Quiet m m.leave := by
  unfold Machine.leave
  split
  · exact (Quiet.refl m).emit rfl
  · exact Quiet.refl m

theorem calm_enterReset (m : Machine d.aagListLen) : Calm m (m.enterReset env) :=
  ⟨quiet_leave m, trivial⟩

variable (m)

theorem calm_enterIdle : Calm m m.enterIdle :=
  ⟨(quiet_leave m).emit rfl, trivial⟩

theorem calm_enterMatched : Calm m m.enterMatched :=
  ⟨(quiet_leave m).emit rfl, trivial⟩

theorem calm_enterFailed : Calm m m.enterFailed := by
  refine ⟨?_, trivial⟩
  unfold Machine.enterFailed
  split
  · exact (quiet_leave m).emit rfl
  · exact quiet_leave m

theorem quiet_sendLinkStatusReq : Quiet m (sendLinkStatusReq m).1 := by
  unfold sendLinkStatusReq
  split
  · exact (Quiet.refl m).emit rfl
  · exact (Quiet.refl m).emit rfl
  · exact Quiet.refl m

variable {m} (h : Fresh m.fsm)

include h

theorem calm_stay : Calm m m := ⟨Quiet.refl m, h⟩

variable (ev : Event d.aagListLen)

theorem calm_initHandleEvent : Calm m (initHandleEvent env m ev) := by
  cases ev with
  | slacMessage msg =>
    show Calm m (initHandleSlacMessage msg.payload m)
    unfold initHandleSlacMessage
    split
    · exact ⟨Quiet.refl m, h⟩
    · exact ⟨Quiet.refl m, h⟩
    · exact calm_stay h
  | success => exact calm_enterReset env m
  | _ => exact calm_stay h

theorem calm_resetHandleEvent : Calm m (resetHandleEvent env m ev) := by
  cases ev with
  | slacMessage msg =>
    unfold resetHandleEvent
    dsimp only
    split
    · split
      · exact ⟨quiet_leave m, trivial⟩
      · exact calm_enterIdle m
    · exact calm_stay h
  | reset => exact calm_enterReset env m
  | _ => exact calm_stay h

theorem calm_resetChipHandleEvent : Calm m (resetChipHandleEvent m ev) := by
  cases ev with
  | slacMessage msg =>
    unfold resetChipHandleEvent
    dsimp only
    split
    · exact calm_enterIdle m
    · exact calm_stay h
  | success => exact calm_enterIdle m
  | _ => exact calm_stay h

theorem calm_matchedHandleEvent : Calm m (matchedHandleEvent env m ev) := by
  cases ev with
  | slacMessage msg =>
    unfold matchedHandleEvent
    dsimp only
    split
    · exact ⟨(Quiet.refl m).emit rfl, h⟩
    · exact calm_stay h
  | reset => exact calm_enterReset env m
  | _ => exact calm_stay h

omit h

/-- A state in which no key is confirmed. -/
def Idling : FsmState d.aagListLen → Prop
  | .matching _ | .waitForLink _ => False
  | _ => True

theorem Idling.fresh {fsm : FsmState d.aagListLen} (h : Idling fsm) : Fresh fsm := by
  cases fsm with
  | matching s => exact absurd h id
  | waitForLink s => exact absurd h id
  | _ => trivial

theorem calm_handleEvent (h : Idling m.fsm) (ev : Event d.aagListLen) :
    Calm m (handleEvent env m ev) := by
  have hfresh : Fresh m.fsm := h.fresh
  unfold handleEvent
  split
  · exact calm_initHandleEvent env hfresh ev
  · exact calm_resetHandleEvent env hfresh ev
  · exact calm_resetChipHandleEvent hfresh ev
  · cases ev with
    | enterBcd => exact ⟨(quiet_leave m).emit rfl, rfl, rfl⟩
    | reset => exact calm_enterReset env m
    | _ => exact calm_stay hfresh
  · next hfsm => simp [hfsm, Idling] at h
  · next hfsm => simp [hfsm, Idling] at h
  · exact calm_matchedHandleEvent env hfresh ev
  · cases ev with
    | reset => exact calm_enterReset env m
    | _ => exact calm_stay hfresh

theorem calm_machineCallback (h : Idling m.fsm) :
    Quiet m (machineCallback env m).1 ∧ Idling (machineCallback env m).1.fsm := by
  have hsend : ∀ payload, (∀ cnf, payload ≠ .cmSlacMatchCnf cnf) →
      Quiet m (m.send m.config.plcPeerMac payload) := by
    intro payload hne
    refine (Quiet.refl m).emit ?_
    cases payload with
    | cmSlacMatchCnf cnf => exact absurd rfl (hne cnf)
    | _ => rfl
  unfold machineCallback
  split
  · next subState hfsm =>
    cases subState with
    | qualcommOpAttr | lumissilGetVersion => exact ⟨hsend _ (by simp), trivial⟩
    | done => exact ⟨Quiet.refl m, h⟩
  · unfold resetCallback
    split
    · exact ⟨Quiet.refl m, h⟩
    · exact ⟨hsend _ (by simp), trivial⟩
  · unfold resetChipCallback
    split
    · exact ⟨Quiet.refl m, trivial⟩
    · split
      · exact ⟨hsend _ (by simp), trivial⟩
      · exact ⟨hsend _ (by simp), trivial⟩
      · exact ⟨Quiet.refl m, h⟩
    · exact ⟨Quiet.refl m, h⟩
  · exact ⟨Quiet.refl m, h⟩
  · next hfsm => simp [hfsm, Idling] at h
  · next hfsm => simp [hfsm, Idling] at h
  · unfold matchedCallback
    split
    · exact ⟨Quiet.refl m, h⟩
    · split
      · exact ⟨quiet_sendLinkStatusReq m, trivial⟩
      · exact ⟨Quiet.refl m, trivial⟩
  · exact ⟨Quiet.refl m, h⟩

/-- A step outside an attempt. -/
theorem calm_step (h : Idling m.fsm) (label : Label d.aagListLen) : Calm m (step m label) := by
  cases label with
  | message env msg => exact calm_handleEvent env h (.slacMessage msg)
  | command env command => exact calm_handleEvent env h command.event
  | feed env =>
    obtain ⟨hquiet, hidling⟩ := calm_machineCallback env h
    show Calm m (feed env m)
    unfold feed
    dsimp only
    split
    · next ev _ =>
      have hcalm := calm_handleEvent env hidling ev
      exact ⟨hquiet.trans hcalm.quiet, hcalm.fresh⟩
    · exact ⟨hquiet, hidling.fresh⟩

end

/-! ## Feeding the two states of an attempt -/

section

variable {m : Machine d.aagListLen} (env : Env)

def afterCallback (s : MatchingState d.aagListLen) (m : Machine d.aagListLen) :
    Machine d.aagListLen :=
  (m.emit (callback d m.config env.now s).2.1).goTo (.matching (callback d m.config env.now s).1)

variable {s : MatchingState d.aagListLen}

theorem handleEvent_matching (hfsm : m.fsm = .matching s) (ev : Event d.aagListLen) :
    handleEvent env m ev = matchingHandleEvent env s m ev := by
  simp only [handleEvent, hfsm]

theorem handleEvent_waitForLink {s : WaitForLinkState} (hfsm : m.fsm = .waitForLink s)
    (ev : Event d.aagListLen) : handleEvent env m ev = waitForLinkHandleEvent env s m ev := by
  simp only [handleEvent, hfsm]

theorem feed_matching_failed (hfsm : m.fsm = .matching s)
    (hresult : (callback d m.config env.now s).2.2 = .failed) :
    feed env m =
      if m.config.resetInsteadOfFail = true ∧
          (callback d m.config env.now s).1.failedCount + 1 < 2 then
        (afterCallback env s m).goTo (.matching (resetMatching env
          { (callback d m.config env.now s).1 with
            failedCount := (callback d m.config env.now s).1.failedCount + 1 }))
      else (afterCallback env s m).enterFailed := by
  simp only [feed, machineCallback, hfsm, matchingCallback, hresult]
  rfl

theorem feed_matching_matchComplete (hfsm : m.fsm = .matching s)
    (hresult : (callback d m.config env.now s).2.2 = .matchComplete) :
    feed env m =
      if m.config.linkStatus.doDetect then
        (afterCallback env s m).enterWaitForLink env
          (callback d m.config env.now s).1.matchCnfMessage
      else (afterCallback env s m).enterMatched := by
  simp only [feed, machineCallback, hfsm, matchingCallback, hresult]
  rfl

theorem feed_matching_wait (hfsm : m.fsm = .matching s)
    (hfailed : (callback d m.config env.now s).2.2 ≠ .failed)
    (hcomplete : (callback d m.config env.now s).2.2 ≠ .matchComplete) :
    feed env m = afterCallback env s m := by
  simp only [feed, machineCallback, hfsm, matchingCallback]
  cases hresult : (callback d m.config env.now s).2.2 with
  | failed => exact absurd hresult hfailed
  | matchComplete => exact absurd hresult hcomplete
  | value ms => rfl
  | emptyValue => rfl

theorem feed_waitForLink {s : WaitForLinkState} (hfsm : m.fsm = .waitForLink s) :
    feed env m =
      if s.linkStatusReqSent = false then
        (sendLinkStatusReq m).1.goTo
          (.waitForLink { s with linkStatusReqSent := (sendLinkStatusReq m).2 })
      else if deadlineIn s.startTime m.config.linkStatus.timeoutMs < env.now then m.enterFailed
      else m.goTo (.waitForLink { s with linkStatusReqSent := false }) := by
  simp only [feed, machineCallback, hfsm, waitForLinkCallback]
  by_cases hsent : s.linkStatusReqSent = false
  · simp [hsent]
  · by_cases hlate : deadlineIn s.startTime m.config.linkStatus.timeoutMs < env.now
    · simp [hsent, hlate, handleEvent, hfsm, waitForLinkHandleEvent]
    · simp [hsent, hlate]

theorem quiet_afterCallback (s : MatchingState d.aagListLen) (m : Machine d.aagListLen) :
    Quiet m (afterCallback env s m) := by
  refine (Quiet.refl m).emit (List.any_eq_false.mpr ?_)
  intro out hout
  obtain ⟨session, -, rfl⟩ := callback_sends s out hout
  simp [soundingResult, Out.confirms]

end

/-! ## A matching run -/

def evMac : Mac := #v[0x02, 0, 0, 0, 0, 0x01]

def strangerMac : Mac := #v[0x02, 0, 0, 0, 0, 0x02]

def evRunId : RunId := #v[1, 2, 3, 4, 5, 6, 7, 8]

def atMs (ms : Int) : Env where
  now := ms * nanosPerMilli

def matchReqFrom (mac : Mac) (ms : Int) : Label Defs.sample.aagListLen :=
  .message (atMs ms) ⟨mac, .cmSlacMatchReq
    { applicationType := 0, securityType := 0, mvfLength := 0x3e, pevId := [], pevMac := mac,
      evseId := [], evseMac := strangerMac, runId := evRunId }⟩

/-- One EV matches; its link is not up yet when the callback is run. -/
def matchedRun : List (Label Defs.sample.aagListLen) :=
  [.feed (atMs 0), .feed (atMs 100), .feed (atMs 200), .feed (atMs 200),
    .message (atMs 210) ⟨strangerMac, .cmSetKeyCnf⟩,
    .command (atMs 1000) .enterBcd,
    .message (atMs 1010) ⟨evMac, .cmSlacParmReq ⟨0, 0, evRunId⟩⟩,
    .message (atMs 1020) ⟨evMac, .cmStartAttenCharInd ⟨0, 0, 10, 6, 1, evMac, evRunId⟩⟩,
    .feed (atMs 1620),
    .feed (atMs 1665),
    .message (atMs 1670) ⟨evMac, .cmAttenCharRsp ⟨0, 0, evMac, evRunId, 0⟩⟩,
    matchReqFrom evMac 1680,
    .feed (atMs 1690)]

end EverestCore.Slac.Evse
