import EverestCore.Slac.EvseSteps

/-!
# Every live session has a deadline

What holds in every state of an attempt of the EVSE: there are sessions exactly
when a `CM_SLAC_PARM.REQ` was seen, each of them has failed or has a deadline, and
a link status was asked for only of a modem that can be asked.
-/

namespace EverestCore.Slac.Evse

open EverestCore.Slac EverestCore.Lib MatchingSession

variable {d : Defs}

/-- A session that has not failed has a deadline. -/
def Live {n : Nat} (session : MatchingSession n) : Prop :=
  session.state = .failed ∨ session.timeoutActive = true ∧ session.state ≠ .receivedSlacMatch

/-- Sessions belong to requests, and are failed or have a deadline. -/
structure DeadlineInv (s : MatchingState d.aagListLen) : Prop where
  seen : s.seenSlacParmReq = true ↔ s.sessions ≠ []
  live : ∀ session ∈ s.sessions, Live session

section

variable {config : EvseSlacConfig} {now : Int} {s : MatchingState d.aagListLen}

theorem live_handleTimeout {session : MatchingSession d.aagListLen}
    (hexpired : Expired now session) (h : Live session) :
    Live (handleTimeout d config now session).1 := by
  cases hstate : session.state with
  | waitForStartAttenChar | waitForSlacMatch | failed =>
    left
    simp [handleTimeout, ackTimeout, hstate]
  | sounding | finalizeSounding =>
    right
    simp [handleTimeout, ackTimeout, hstate, setNextTimeout, finalizeSounding]
  | waitForAttenCharRsp =>
    simp only [handleTimeout, ackTimeout, hstate]
    split
    · right
      exact ⟨rfl, by simp [finalizeSounding, setNextTimeout]⟩
    · left
      rfl
  | receivedSlacMatch =>
    rcases h with h | h
    · exact absurd (hstate.symm.trans h) (by simp)
    · exact absurd hstate h.2
  | matchComplete => exact absurd hstate hexpired.2.1

theorem deadlineInv_callback (h : DeadlineInv s) : DeadlineInv (callback d config now s).1 := by
  refine ⟨?_, ?_⟩
  · rw [callback_state, Ne, callback_sessions_eq_nil]
    exact h.seen
  · exact callback_induct (I := fun _ session => Live session) (fun _ _ _ h => h)
      (fun _ _ hexpired h => live_handleTimeout hexpired h) h.live

theorem deadlineInv_handleSlacMessage (evMac : Mac) (payload : Payload d.aagListLen)
    (h : DeadlineInv s) : DeadlineInv (handleSlacMessage d config now evMac s payload).1 := by
  refine ⟨seen_handleSlacMessage evMac payload h.seen, ?_⟩
  have harmed : ∀ (session : MatchingSession d.aagListLen) ms,
      session.state ≠ .receivedSlacMatch → Live (setNextTimeout now ms session) := by
    intro session ms hstate
    exact .inr ⟨rfl, hstate⟩
  refine sessions_handleSlacMessage (fun _ => harmed _ _ (by simp))
    (fun _ _ _ hstate _ => harmed _ _ hstate) (fun _ hlive => hlive) ?_ payload h.live
  intro p session hlive
  rw [captureProfile]
  split
  · exact hlive
  · exact harmed _ _ (by simp)

end

/-! ## The machine -/

def canBeAsked : ModemVendor → Bool
  | .qualcomm | .lumissil => true
  | _ => false

theorem sendLinkStatusReq_snd (m : Machine d.aagListLen) :
    (sendLinkStatusReq m).2 = canBeAsked m.modemVendor := by
  unfold sendLinkStatusReq
  cases m.modemVendor <;> rfl

def AttemptInv (m : Machine d.aagListLen) : Prop :=
  match m.fsm with
  | .matching s => DeadlineInv s
  | .waitForLink s => s.linkStatusReqSent = true → canBeAsked m.modemVendor = true
  | _ => True

section

variable {m : Machine d.aagListLen} (env : Env) {s : MatchingState d.aagListLen}

theorem attemptInv_matching (hfsm : m.fsm = .matching s) : AttemptInv m ↔ DeadlineInv s := by
  unfold AttemptInv
  rw [hfsm]

theorem attemptInv_waitForLink {s : WaitForLinkState} (hfsm : m.fsm = .waitForLink s) :
    AttemptInv m ↔ (s.linkStatusReqSent = true → canBeAsked m.modemVendor = true) := by
  unfold AttemptInv
  rw [hfsm]

theorem attemptInv_of_fresh (h : Fresh m.fsm) : AttemptInv m := by
  unfold AttemptInv
  split
  · next s hfsm =>
    rw [hfsm] at h
    exact ⟨by simp [h.1, h.2], by simp [h.1]⟩
  · next hfsm => simp [hfsm, Fresh] at h
  · trivial

theorem attemptInv_feed_matching (hfsm : m.fsm = .matching s) (h : DeadlineInv s) :
    AttemptInv (feed env m) := by
  cases hresult : (callback d m.config env.now s).2.2 with
  | failed =>
    rw [feed_matching_failed env hfsm hresult]
    split
    · exact (attemptInv_matching rfl).mpr (⟨by simp [resetMatching], by simp [resetMatching]⟩)
    · trivial
  | matchComplete =>
    rw [feed_matching_matchComplete env hfsm hresult]
    split
    · exact (attemptInv_waitForLink rfl).mpr nofun
    · trivial
  | value ms | emptyValue =>
    rw [feed_matching_wait env hfsm (by simp [hresult]) (by simp [hresult])]
    exact (attemptInv_matching rfl).mpr (deadlineInv_callback h)

theorem sendLinkStatusReq_modemVendor (m : Machine d.aagListLen) :
    (sendLinkStatusReq m).1.modemVendor = m.modemVendor := by
  unfold sendLinkStatusReq
  split <;> rfl

theorem sendLinkStatusReq_config (m : Machine d.aagListLen) :
    (sendLinkStatusReq m).1.config = m.config := by
  unfold sendLinkStatusReq
  split <;> rfl

theorem attemptInv_feed_waitForLink {s : WaitForLinkState} (hfsm : m.fsm = .waitForLink s) :
    AttemptInv (feed env m) := by
  rw [feed_waitForLink env hfsm]
  split
  · refine (attemptInv_waitForLink rfl).mpr fun hsent => ?_
    show canBeAsked (sendLinkStatusReq m).1.modemVendor = true
    rw [sendLinkStatusReq_modemVendor, ← sendLinkStatusReq_snd]
    exact hsent
  · split
    · trivial
    · exact (attemptInv_waitForLink rfl).mpr nofun

theorem attemptInv_feed (h : AttemptInv m) : AttemptInv (feed env m) := by
  cases hfsm : m.fsm with
  | matching s => exact attemptInv_feed_matching env hfsm ((attemptInv_matching hfsm).mp h)
  | waitForLink s => exact attemptInv_feed_waitForLink env hfsm
  | _ => exact attemptInv_of_fresh (calm_step (by rw [hfsm]; trivial) (.feed env)).fresh

/-- Every step of the machine keeps this. -/
theorem attemptInv_step (h : AttemptInv m) (label : Label d.aagListLen) :
    AttemptInv (step m label) := by
  cases hfsm : m.fsm with
  | matching s =>
    have hs := (attemptInv_matching hfsm).mp h
    cases label with
    | message env msg =>
      rw [step, handleEvent_matching env hfsm]
      exact (attemptInv_matching rfl).mpr (deadlineInv_handleSlacMessage _ _ hs)
    | command env command =>
      rw [step, handleEvent_matching env hfsm]
      cases command with
      | reset => trivial
      | enterBcd | leaveBcd => exact h
    | feed env => exact attemptInv_feed env h
  | waitForLink s =>
    cases label with
    | message env msg =>
      rw [step, handleEvent_waitForLink env hfsm, waitForLinkHandleEvent]
      split
      · trivial
      · split <;> exact h
    | command env command =>
      rw [step, handleEvent_waitForLink env hfsm]
      cases command with
      | reset => trivial
      | enterBcd | leaveBcd => exact h
    | feed env => exact attemptInv_feed env h
  | _ => exact attemptInv_of_fresh (calm_step (by rw [hfsm]; trivial) label).fresh

end

/-- **Every live session has a deadline**, whatever was received and whenever the
callback was run. -/
theorem attemptInv_run (config : EvseSlacConfig) (labels : List (Label d.aagListLen)) :
    AttemptInv (run step ({ config := config } : Machine d.aagListLen) labels) :=
  invariant_run (I := AttemptInv) (fun _ label h => attemptInv_step h label) labels trivial

end EverestCore.Slac.Evse
