import EverestCore.Lib.Polling
import EverestCore.Slac.Deadlines
import EverestCore.Slac.Ev

/-!
# SLAC attempts end

Both SLAC machines when nothing arrives any more and only their callbacks are run:
which attempts end in Matched or Failed, and which hang.

On the EVSE each missed deadline takes a session closer to failure, a failed round
is repeated at most once, and the link is waited for until its timeout, unless the
modem cannot be asked about it: then the timeout is never looked at. On the EV all
states but `SoundingState` handle the `FAILED` of their callbacks.
-/

namespace EverestCore.Slac.Evse

open EverestCore.Slac EverestCore.Lib Machine List

variable {d : Defs} {config : EvseSlacConfig} {now : Int}

/-! ## What the deadlines leave of a session -/

/-- How many deadlines are left for a session that has one. -/
def weight (session : MatchingSession d.aagListLen) : Nat :=
  if session.timeoutActive then timeoutsLeft d session else 0

theorem timeoutsLeft_pos (session : MatchingSession d.aagListLen) : 0 < timeoutsLeft d session := by
  unfold timeoutsLeft
  split <;> omega

variable {session : MatchingSession d.aagListLen}

theorem weight_handleTimeout (hexpired : Expired now session) :
    weight (handleTimeout d config now session).1 < weight session := by
  have hpos := timeoutsLeft_pos session
  have hweight : weight session = timeoutsLeft d session := if_pos hexpired.1
  rcases timeoutsLeft_handleTimeout config now session with hlt | hinactive
  · have hle : weight (handleTimeout d config now session).1 ≤
        timeoutsLeft d (handleTimeout d config now session).1 := by
      unfold weight
      split <;> omega
    omega
  · have hzero : weight (handleTimeout d config now session).1 = 0 := by simp [weight, hinactive]
    omega

theorem checkTimeouts_progress (config : EvseSlacConfig) (now : Int)
    (session : MatchingSession d.aagListLen) :
    ((checkTimeouts d config now session).1 = session ∧ ¬ Expired now session) ∨
      weight (checkTimeouts d config now session).1 < weight session := by
  unfold checkTimeouts
  rw [timeoutLoop]
  split
  · next hinactive => exact .inl ⟨rfl, fun h => by simp [h.1] at hinactive⟩
  · next hactive =>
    split
    · next hcomplete => exact .inl ⟨rfl, fun h => h.2.1 hcomplete⟩
    · next hcomplete =>
      split
      · next hleft => exact .inl ⟨rfl, fun h => absurd hleft (Int.not_lt.mpr h.2.2)⟩
      · next hleft =>
        right
        have hexpired : Expired now session :=
          ⟨by simpa using hactive, hcomplete, Int.not_lt.mp hleft⟩
        have hlt : weight (handleTimeout d config now session).1 < weight session :=
          weight_handleTimeout hexpired
        refine timeoutLoop_induct (I := fun _ s => weight s < weight session) ?_ _ [] hlt
        intro outs s hs hle
        exact (weight_handleTimeout hs).trans hle

theorem handleTimeout_not_complete (hexpired : Expired now session) :
    (handleTimeout d config now session).1.state ≠ .matchComplete := by
  cases hstate : session.state with
  | matchComplete => exact absurd hstate hexpired.2.1
  | waitForAttenCharRsp =>
    simp only [handleTimeout, MatchingSession.ackTimeout, hstate]
    split
    · simp [finalizeSounding, MatchingSession.setNextTimeout]
    · simp
  | _ => simp [handleTimeout, MatchingSession.ackTimeout, hstate, finalizeSounding,
      MatchingSession.setNextTimeout]

theorem checkTimeouts_complete (hactive : session.timeoutActive = true)
    (hcomplete : session.state = .matchComplete) :
    (checkTimeouts d config now session).2.2 = .complete := by
  unfold checkTimeouts
  rw [timeoutLoop]
  simp [hactive, hcomplete]

/-! ## The callback of `MatchingState` -/

variable {done rest : List (MatchingSession d.aagListLen)}

theorem checkSessions_wait {callBackMs : Option Int}
    (hfailed : (checkSessions d config now done callBackMs rest).2.2 ≠ .failed)
    (hcomplete : (checkSessions d config now done callBackMs rest).2.2 ≠ .matchComplete) :
    (checkSessions d config now done callBackMs rest).1 =
        done ++ rest.map (fun session => (checkTimeouts d config now session).1) ∧
      (∀ session ∈ rest, (checkTimeouts d config now session).2.2 ≠ .complete) ∧
      (rest ≠ [] → allSessionsFailed (checkSessions d config now done callBackMs rest).1 =
        false) := by
  induction rest generalizing done callBackMs with
  | nil => exact ⟨(append_nil done).symm, by simp, fun h => absurd rfl h⟩
  | cons first rest ih =>
    rw [checkSessions] at hfailed hcomplete ⊢
    by_cases hfirst : (checkTimeouts d config now first).2.2 = .complete
    · rw [if_pos hfirst] at hcomplete
      exact absurd rfl hcomplete
    · rw [if_neg hfirst] at hfailed hcomplete ⊢
      by_cases hall : allSessionsFailed (done ++ (checkTimeouts d config now first).1 :: rest) =
          true
      · rw [if_pos hall] at hfailed
        exact absurd rfl hfailed
      · rw [if_neg hall] at hfailed hcomplete ⊢
        obtain ⟨hmap, hnone, hsome⟩ := ih hfailed hcomplete
        refine ⟨?_, ?_, fun _ => ?_⟩
        · rw [hmap, append_assoc]
          rfl
        · exact forall_mem_cons.mpr ⟨hfirst, hnone⟩
        · by_cases hrest : rest = []
          · subst hrest
            exact Bool.not_eq_true _ ▸ hall
          · exact hsome hrest

variable {s : MatchingState d.aagListLen}

theorem callback_wait (hfailed : (callback d config now s).2.2 ≠ .failed)
    (hcomplete : (callback d config now s).2.2 ≠ .matchComplete) :
    (s.seenSlacParmReq = false → now < s.timeoutSlacParmReq) ∧
      (callback d config now s).1.sessions =
        s.sessions.map (fun session => (checkTimeouts d config now session).1) ∧
      (∀ session ∈ s.sessions, (checkTimeouts d config now session).2.2 ≠ .complete) ∧
      (s.sessions ≠ [] → allSessionsFailed (callback d config now s).1.sessions = false) := by
  unfold callback at hfailed hcomplete ⊢
  by_cases hlate : s.seenSlacParmReq = false ∧ s.timeoutSlacParmReq ≤ now
  · rw [if_pos hlate] at hfailed
    exact absurd rfl hfailed
  · rw [if_neg hlate] at hfailed hcomplete ⊢
    refine ⟨fun hseen => ?_, checkSessions_wait hfailed hcomplete⟩
    exact Int.not_le.mp fun hle => hlate ⟨hseen, hle⟩

theorem checkSessions_emptyValue {callBackMs : Option Int}
    (h : (checkSessions d config now done callBackMs rest).2.2 = .emptyValue) :
    callBackMs = none ∧
      ∀ session ∈ rest, (checkTimeouts d config now session).1.timeoutActive = false := by
  induction rest generalizing done callBackMs with
  | nil =>
    cases callBackMs with
    | none => exact ⟨rfl, forall_mem_nil _⟩
    | some ms => cases h
  | cons first rest ih =>
    have hend : LoopEnded now (checkTimeouts d config now first).1
        (checkTimeouts d config now first).2.2 :=
      timeoutLoop_ends _ (.inr (Nat.lt_succ_self _)) (Nat.succ_pos _)
    rw [checkSessions] at h
    split_ifs at h with hcomplete hfailed
    obtain ⟨hnext, hrest⟩ := ih h
    cases hloop : (checkTimeouts d config now first).2.2 with
    | complete => exact absurd hloop hcomplete
    | remaining ms =>
      simp only [hloop, nextCallBack] at hnext
      split at hnext
      · cases hnext
      · split_ifs at hnext
    | inactive =>
      rw [hloop] at hnext hend
      exact ⟨hnext, forall_mem_cons.mpr ⟨hend, hrest⟩⟩

theorem callback_ne_emptyValue (h : DeadlineInv s) :
    (callback d config now s).2.2 ≠ .emptyValue := by
  intro hempty
  obtain ⟨-, hmap, -, hall⟩ := @callback_wait d config now s (by simp [hempty]) (by simp [hempty])
  have hinactive : s.seenSlacParmReq = true ∧
      ∀ session ∈ s.sessions, (checkTimeouts d config now session).1.timeoutActive = false := by
    unfold callback at hempty
    split at hempty
    · cases hempty
    · obtain ⟨hnone, hinactive⟩ := checkSessions_emptyValue hempty
      exact ⟨by simpa using hnone, hinactive⟩
  -- a session without a deadline has failed
  have hfailed : allSessionsFailed (callback d config now s).1.sessions = true := by
    refine all_eq_true.mpr fun session hs => ?_
    rcases (deadlineInv_callback h).live session hs with hstate | hlive
    · simp [hstate]
    · rw [hmap] at hs
      obtain ⟨old, hold, rfl⟩ := mem_map.mp hs
      simp [hinactive.2 old hold] at hlive
  rw [hall (h.seen.mp hinactive.1)] at hfailed
  cases hfailed

/-- **No callback reads an empty result**, whatever was received before. -/
theorem callback_never_empty (config : EvseSlacConfig) (labels : List (Label d.aagListLen))
    (env : Env) :
    (machineCallback env (run step ({ config := config } : Machine d.aagListLen) labels)).2 ≠
      .emptyValue := by
  have hinv := attemptInv_run config labels
  generalize run step _ labels = m at hinv
  cases hfsm : m.fsm with
  | matching s =>
    have hne := @callback_ne_emptyValue d m.config env.now s ((attemptInv_matching hfsm).mp hinv)
    simp only [machineCallback, hfsm, matchingCallback]
    cases hresult : (callback d m.config env.now s).2.2 with
    | emptyValue => exact absurd hresult hne
    | _ => simp
  | _ =>
    simp only [machineCallback, hfsm, initCallback, resetCallback, resetChipCallback,
      waitForLinkCallback, matchedCallback]
    repeat' split
    all_goals simp

theorem checkSessions_of_complete
    {callBackMs : Option Int} (hmem : session ∈ rest) (hactive : session.timeoutActive = true)
    (hcomplete : session.state = .matchComplete) :
    (checkSessions d config now done callBackMs rest).2.2 = .matchComplete := by
  induction rest generalizing done callBackMs with
  | nil => cases hmem
  | cons first rest ih =>
    rw [checkSessions]
    by_cases hfirst : (checkTimeouts d config now first).2.2 = .complete
    · rw [if_pos hfirst]
    · have hrest : session ∈ rest := by
        refine mem_of_ne_of_mem ?_ hmem
        rintro rfl
        exact hfirst (checkTimeouts_complete hactive hcomplete)
      have hall : ¬ allSessionsFailed (done ++ (checkTimeouts d config now first).1 :: rest) =
          true := by
        intro hall
        have hstate := all_eq_true.mp hall session (mem_append_right _ (mem_cons_of_mem _ hrest))
        simp [hcomplete] at hstate
      rw [if_neg hfirst, if_neg hall]
      exact ih hrest

theorem complete_of_callback (hmem : session ∈ (callback d config now s).1.sessions)
    (hcomplete : session.state = .matchComplete) :
    ∃ session ∈ s.sessions, session.state = .matchComplete := by
  refine callback_induct (I := fun _ session => session.state = .matchComplete →
    ∃ session ∈ s.sessions, session.state = .matchComplete) (fun _ _ _ h => h) ?_ ?_
    session hmem hcomplete
  · intro outs session hexpired _ hstate
    exact absurd hstate (handleTimeout_not_complete hexpired)
  · exact fun session hs hstate => ⟨session, hs, hstate⟩

theorem callback_matchComplete_iff (h : DeadlineInv s) :
    (callback d config now s).2.2 = .matchComplete ↔
      ∃ session ∈ s.sessions, session.state = .matchComplete := by
  refine ⟨fun hresult => ?_, fun ⟨session, hmem, hcomplete⟩ => ?_⟩
  · obtain ⟨session, hmem, hcomplete⟩ := callback_matchComplete _ hresult
    exact complete_of_callback hmem hcomplete
  · have hseen : s.seenSlacParmReq = true := h.seen.mpr (ne_nil_of_mem hmem)
    have hactive : session.timeoutActive = true := by
      rcases h.live session hmem with hfailed | hlive
      · exact absurd (hcomplete.symm.trans hfailed) (by simp)
      · exact hlive.1
    unfold callback
    rw [if_neg (by simp [hseen])]
    exact checkSessions_of_complete hmem hactive hcomplete

/-! ## Attempts of the EVSE -/

def Ended : FsmState d.aagListLen → Prop
  | .matched _ | .failed => True
  | _ => False

def Attempting : FsmState d.aagListLen → Prop
  | .matching _ | .waitForLink _ => True
  | _ => False

instance (fsm : FsmState d.aagListLen) : Decidable (Attempting fsm) :=
  match fsm with
  | .matching _ | .waitForLink _ => .isTrue trivial
  | .init _ | .reset _ | .resetChip _ | .idle | .matched _ | .failed => .isFalse id

/-- The link is waited for, or will be. -/
def AwaitsLink (config : EvseSlacConfig) : FsmState d.aagListLen → Prop
  | .matching s =>
    config.linkStatus.doDetect = true ∧ ∃ session ∈ s.sessions, session.state = .matchComplete
  | .waitForLink _ => True
  | _ => False

instance (config : EvseSlacConfig) (fsm : FsmState d.aagListLen) :
    Decidable (AwaitsLink config fsm) :=
  match fsm with
  | .matching _ => inferInstanceAs (Decidable (_ ∧ ∃ session ∈ _, _))
  | .waitForLink _ => .isTrue trivial
  | .init _ | .reset _ | .resetChip _ | .idle | .matched _ | .failed => .isFalse id

variable (m : Machine d.aagListLen)

/-- The link is waited for, and the modem cannot be asked about it. -/
def LinkNeverAsked : Prop :=
  canBeAsked m.modemVendor = false ∧ AwaitsLink m.config m.fsm
deriving Decidable

/-- The rounds that are left, and the deadlines left in this one. -/
def stageOf : ℕ ×ₗ ℕ :=
  match m.fsm with
  | .matching s => toLex (1 + (2 - s.failedCount).toNat, (s.sessions.map weight).sum)
  | _ => toLex (0, 0)

def deadlineOf : Int :=
  match m.fsm with
  | .matching s =>
    match s.sessions.find? (·.timeoutActive) with
    | some session => session.nextTimeout
    | none => s.timeoutSlacParmReq
  | .waitForLink s => deadlineIn s.startTime m.config.linkStatus.timeoutMs + 1
  | _ => 0

/-- The timeout of the link is only looked at when a request has been sent. -/
def patienceOf : Nat :=
  match m.fsm with
  | .waitForLink s => if s.linkStatusReqSent then 0 else 1
  | _ => 0

section

variable {m : Machine d.aagListLen} (env : Env)

theorem sum_map_weight_lt_or (config : EvseSlacConfig) (now : Int)
    (sessions : List (MatchingSession d.aagListLen)) :
    ((sessions.map fun session => (checkTimeouts d config now session).1).map weight).sum <
        (sessions.map weight).sum ∨
      (sessions.map fun session => (checkTimeouts d config now session).1) = sessions ∧
        ∀ session ∈ sessions, ¬ Expired now session := by
  by_cases hlt : ∃ session ∈ sessions,
      weight (checkTimeouts d config now session).1 < weight session
  · left
    rw [map_map]
    refine sum_lt_sum _ _ (fun session _ => ?_) hlt
    rcases checkTimeouts_progress config now session with h | h
    · exact Nat.le_of_eq (congrArg weight h.1)
    · exact Nat.le_of_lt h
  · right
    have hsame : ∀ session ∈ sessions, (checkTimeouts d config now session).1 = session ∧
        ¬ Expired now session := fun session hs =>
      (checkTimeouts_progress config now session).resolve_right fun h => hlt ⟨session, hs, h⟩
    refine ⟨?_, fun session hs => (hsame session hs).2⟩
    exact (map_congr_left fun session hs => (hsame session hs).1).trans (map_id' _)

theorem matching_wait (h : DeadlineInv s) (hfailed : (callback d config now s).2.2 ≠ .failed)
    (hcomplete : (callback d config now s).2.2 ≠ .matchComplete) :
    (((callback d config now s).1.sessions).map weight).sum < (s.sessions.map weight).sum ∨
      (callback d config now s).1 = s ∧
        now < match s.sessions.find? (·.timeoutActive) with
          | some session => session.nextTimeout
          | none => s.timeoutSlacParmReq := by
  obtain ⟨hunseen, hmap, hnone, hall⟩ := callback_wait hfailed hcomplete
  rw [hmap]
  rcases sum_map_weight_lt_or config now s.sessions with hlt | ⟨hsame, hexpired⟩
  · exact .inl hlt
  · right
    have hstate : (callback d config now s).1 = s := by rw [callback_state, hmap, hsame]
    refine ⟨hstate, ?_⟩
    split
    · next session hfind =>
      have hmem := mem_of_find?_eq_some hfind
      have hactive : session.timeoutActive = true :=
        find?_some (p := fun s : MatchingSession d.aagListLen => s.timeoutActive) hfind
      have hleft : 0 < millisecondsLeft now session.nextTimeout := by
        by_contra hle
        refine hexpired session hmem ⟨hactive, fun hstate => ?_, Int.not_lt.mp hle⟩
        exact hnone session hmem (checkTimeouts_complete hactive hstate)
      exact now_lt_of_millisecondsLeft_pos hleft
    · next hfind =>
      -- no session has a deadline: there is none at all
      refine hunseen (Bool.eq_false_iff.mpr fun hseen => ?_)
      have hne := h.seen.mp hseen
      have hsome := hall hne
      rw [hstate] at hsome
      refine absurd ?_ (Bool.eq_false_iff.mp hsome)
      refine all_eq_true.mpr fun session hs => ?_
      rcases h.live session hs with hstate | hlive
      · simp [hstate]
      · exact absurd hlive.1 (find?_eq_none.mp hfind session hs)

/-- The states an attempt that ends goes through. -/
structure WillEnd (m : Machine d.aagListLen) : Prop where
  attempting : Attempting m.fsm
  inv : AttemptInv m
  asked : ¬ LinkNeverAsked m

/-- One poll of an attempt: it is over, or a stage further, or it waits. -/
def Advanced (m m' : Machine d.aagListLen) : Prop :=
  Ended m'.fsm ∨ WillEnd m' ∧ (stageOf m' < stageOf m ∨
    stageOf m' = stageOf m ∧ deadlineOf m' = deadlineOf m ∧
      (env.now < deadlineOf m ∨ patienceOf m' < patienceOf m))

theorem not_linkNeverAsked_of_canBeAsked (h : canBeAsked m.modemVendor = true) :
    ¬ LinkNeverAsked m := by
  intro hnever
  rw [hnever.1] at h
  cases h

theorem advanced_waitForLink {s : WaitForLinkState} (hfsm : m.fsm = .waitForLink s)
    (h : WillEnd m) : Advanced env m (feed env m) := by
  have hknown : canBeAsked m.modemVendor = true := by
    by_contra hunknown
    refine h.asked ⟨Bool.not_eq_true _ ▸ hunknown, ?_⟩
    rw [hfsm]
    trivial
  have hinv := attemptInv_feed env h.inv
  rw [feed_waitForLink env hfsm] at hinv ⊢
  by_cases hsent : s.linkStatusReqSent = false
  · -- the request is sent, and the next poll looks at the timeout
    rw [if_pos hsent] at hinv ⊢
    refine .inr ⟨⟨trivial, hinv, ?_⟩, .inr ⟨?_, ?_, .inr ?_⟩⟩
    · refine not_linkNeverAsked_of_canBeAsked ?_
      show canBeAsked (sendLinkStatusReq m).1.modemVendor = true
      rw [sendLinkStatusReq_modemVendor, hknown]
    · simp [stageOf, hfsm, goTo]
    · simp [deadlineOf, hfsm, goTo, sendLinkStatusReq_config]
    · simp [patienceOf, hfsm, goTo, hsent, sendLinkStatusReq_snd, hknown]
  · rw [if_neg hsent] at hinv ⊢
    by_cases hlate : deadlineIn s.startTime m.config.linkStatus.timeoutMs < env.now
    · rw [if_pos hlate]
      exact .inl trivial
    · rw [if_neg hlate] at hinv ⊢
      refine .inr ⟨⟨trivial, hinv, not_linkNeverAsked_of_canBeAsked hknown⟩, .inr ⟨?_, ?_, .inl ?_⟩⟩
      · simp [stageOf, hfsm, goTo]
      · simp [deadlineOf, hfsm, goTo]
      · simp only [deadlineOf, hfsm]
        omega

theorem stageOf_resetMatching {s s' : MatchingState d.aagListLen} {m' : Machine d.aagListLen}
    (hfsm : m.fsm = .matching s) (hcount : s'.failedCount = s.failedCount + 1)
    (hround : s'.failedCount < 2) (hfsm' : m'.fsm = .matching (resetMatching env s')) :
    stageOf m' < stageOf m := by
  simp only [stageOf, hfsm, hfsm', resetMatching]
  refine Prod.Lex.toLex_lt_toLex.mpr (.inl ?_)
  show 1 + (2 - s'.failedCount).toNat < 1 + (2 - s.failedCount).toNat
  omega

/-- A poll behind the deadline brings the end closer. -/
theorem advanced_matching (hfsm : m.fsm = .matching s)
    (h : WillEnd m) : Advanced env m (feed env m) := by
  have hs : DeadlineInv s := (attemptInv_matching hfsm).mp h.inv
  have hinv := attemptInv_feed env h.inv
  cases hresult : (callback d m.config env.now s).2.2 with
  | failed =>
    rw [feed_matching_failed env hfsm hresult] at hinv ⊢
    split at hinv
    · next hround =>
      rw [if_pos hround]
      refine .inr ⟨⟨trivial, hinv, fun hnever => ?_⟩, .inl ?_⟩
      · obtain ⟨-, -, session, hmem, -⟩ := hnever
        cases hmem
      · refine stageOf_resetMatching env hfsm ?_ hround.2 rfl
        show (callback d m.config env.now s).1.failedCount + 1 = _
        rw [callback_state]
    · next hround =>
      rw [if_neg hround]
      exact .inl trivial
  | matchComplete =>
    rw [feed_matching_matchComplete env hfsm hresult] at hinv ⊢
    split at hinv
    · next hdetect =>
      rw [if_pos hdetect]
      have hknown : canBeAsked m.modemVendor = true := by
        by_contra hunknown
        refine h.asked ⟨Bool.not_eq_true _ ▸ hunknown, ?_⟩
        rw [hfsm]
        exact ⟨hdetect, (callback_matchComplete_iff hs).mp hresult⟩
      refine .inr ⟨⟨trivial, hinv, not_linkNeverAsked_of_canBeAsked hknown⟩, .inl ?_⟩
      simp only [stageOf, hfsm]
      exact Prod.Lex.toLex_lt_toLex.mpr (.inl (by show 0 < _; omega))
    · next hdetect =>
      rw [if_neg hdetect]
      exact .inl trivial
  | value ms | emptyValue =>
    have hfailed : (callback d m.config env.now s).2.2 ≠ .failed := by simp [hresult]
    have hcomplete : (callback d m.config env.now s).2.2 ≠ .matchComplete := by simp [hresult]
    rw [feed_matching_wait env hfsm hfailed hcomplete] at hinv ⊢
    refine .inr ⟨⟨trivial, hinv, fun hnever => ?_⟩, ?_⟩
    · obtain ⟨-, -, session, hmem, hstate⟩ := hnever
      exact hcomplete ((callback_matchComplete_iff hs).mpr (complete_of_callback hmem hstate))
    · have hcount : (callback d m.config env.now s).1.failedCount = s.failedCount := by
        rw [callback_state]
      rcases matching_wait hs hfailed hcomplete with hlt | ⟨hsame, hnow⟩
      · left
        simp only [stageOf, hfsm, afterCallback, goTo]
        exact Prod.Lex.toLex_lt_toLex.mpr (.inr ⟨by rw [hcount], hlt⟩)
      · right
        simp only [stageOf, deadlineOf, hfsm, afterCallback, goTo, hsame]
        exact ⟨trivial, trivial, .inl hnow⟩

theorem linkNeverAsked_feed (hinv : AttemptInv m) (h : LinkNeverAsked m) :
    LinkNeverAsked (feed env m) := by
  obtain ⟨hunknown, hcase⟩ := h
  cases hfsm : m.fsm with
  | matching s =>
    rw [hfsm] at hcase
    have hresult : (callback d m.config env.now s).2.2 = .matchComplete :=
      (callback_matchComplete_iff ((attemptInv_matching hfsm).mp hinv)).mpr hcase.2
    rw [feed_matching_matchComplete env hfsm hresult, if_pos hcase.1]
    exact ⟨hunknown, trivial⟩
  | waitForLink s =>
    have hsent : s.linkStatusReqSent = false := by
      by_contra hsent
      have hknown := (attemptInv_waitForLink hfsm).mp hinv (by simpa using hsent)
      rw [hunknown] at hknown
      cases hknown
    rw [feed_waitForLink env hfsm, if_pos hsent]
    refine ⟨?_, trivial⟩
    show canBeAsked (sendLinkStatusReq m).1.modemVendor = false
    rw [sendLinkStatusReq_modemVendor, hunknown]
  | _ =>
    rw [hfsm] at hcase
    exact hcase.elim

theorem LinkNeverAsked.not_ended (h : LinkNeverAsked m) : ¬ Ended m.fsm := by
  intro hended
  obtain ⟨-, hcase⟩ := h
  cases hfsm : m.fsm with
  | matched sent | failed =>
    rw [hfsm] at hcase
    exact hcase
  | _ =>
    rw [hfsm] at hended
    exact hended

end

theorem ends_iff {m : Machine d.aagListLen} (hattempt : Attempting m.fsm) (hinv : AttemptInv m)
    {polls : Nat → Env} (hadv : Advances fun k => (polls k).now) :
    (∃ k, Ended (polled feed polls m k).fsm) ↔ ¬ LinkNeverAsked m := by
  refine ⟨fun ⟨k, hended⟩ hnever => ?_, fun hasked => ?_⟩
  · have hkept : AttemptInv (polled feed polls m k) ∧ LinkNeverAsked (polled feed polls m k) :=
      polled_keeps (I := fun m => AttemptInv m ∧ LinkNeverAsked m)
        (fun env _ h => ⟨attemptInv_feed env h.1, linkNeverAsked_feed env h.1 h.2⟩)
        ⟨hinv, hnever⟩ k
    exact hkept.2.not_ended hended
  · have hprog : Progresses feed Env.now WillEnd (fun m : Machine d.aagListLen => Ended m.fsm)
        stageOf deadlineOf patienceOf := by
      intro env m h _
      cases hfsm : m.fsm with
      | matching s => exact advanced_matching env hfsm h
      | waitForLink s => exact advanced_waitForLink env hfsm h
      | _ =>
        have hattempting := h.attempting
        rw [hfsm] at hattempting
        exact hattempting.elim
    exact hprog.ends hadv ⟨hattempt, hinv, hasked⟩

end EverestCore.Slac.Evse

namespace EverestCore.Slac.Ev

open EverestCore.Slac EverestCore.Lib

variable {d : Defs} {m : Machine d.aagListLen} (env : Env)

/-! ## Attempts of the EV -/

def Ended : FsmState → Prop
  | .matched | .failed => True
  | _ => False

def Attempting : FsmState → Prop
  | .initSlac _ | .sounding _ | .matchRequest _ | .joinNetwork _ => True
  | _ => False

instance (fsm : FsmState) : Decidable (Attempting fsm) :=
  match fsm with
  | .initSlac _ | .sounding _ | .matchRequest _ | .joinNetwork _ => .isTrue trivial
  | .reset | .matched | .failed => .isFalse id

def Sounding : FsmState → Prop
  | .sounding _ => True
  | _ => False

instance (fsm : FsmState) : Decidable (Sounding fsm) :=
  match fsm with
  | .sounding _ => .isTrue trivial
  | .reset | .initSlac _ | .matchRequest _ | .joinNetwork _ | .matched | .failed => .isFalse id

theorem soundingCallback_cases (s : SoundingState) (hfsm : m.fsm = .sounding s) :
    soundingCallback env s m = (m, .event .failed) ∨
      Sounding (soundingCallback env s m).1.fsm ∧
        ∃ ms, (soundingCallback env s m).2 = .value ms := by
  have hstay : Sounding m.fsm := by
    rw [hfsm]
    trivial
  unfold soundingCallback
  dsimp only
  split
  · exact .inl rfl
  · right
    split
    · exact ⟨hstay, _, rfl⟩
    · generalize (if s.countStartAttenCharSent = 0 then _ else s) = s'
      split
      · exact ⟨trivial, _, rfl⟩
      · split <;> exact ⟨trivial, _, rfl⟩

theorem sounding_feed (h : Sounding m.fsm) : Sounding (feed env m).fsm := by
  cases hfsm : m.fsm with
  | sounding s =>
    have hcallback : callback env m = soundingCallback env s m := by simp [callback, hfsm]
    unfold feed
    rw [hcallback]
    rcases soundingCallback_cases env s hfsm with hfailed | ⟨hstay, ms, hms⟩
    · rw [hfailed]
      simp only [handleEvent, hfsm, soundingHandleEvent]
      trivial
    · simp only [hms]
      exact hstay
  | _ =>
    rw [hfsm] at h
    exact h.elim

variable (m)

/-- The requests that are left to be sent. -/
def stageOf : Nat :=
  match m.fsm with
  | .initSlac s => (100 - s.numOfTries).toNat
  | .matchRequest s => (max d.cEvMatchRetry 1 - s.numOfTries).toNat
  | _ => 0

def deadlineOf : Int :=
  match m.fsm with
  | .initSlac s => s.nextTimeout
  | .matchRequest s => s.nextTimeout
  | .joinNetwork s => s.timeout
  | _ => 0

def WillEnd : Prop := Attempting m.fsm ∧ ¬ Sounding m.fsm

variable {m}

/-- One poll of an attempt: it is over, or has sent a request, or it waits. -/
def Advanced (m m' : Machine d.aagListLen) : Prop :=
  Ended m'.fsm ∨ WillEnd m' ∧ (stageOf m' < stageOf m ∨
    stageOf m' = stageOf m ∧ deadlineOf m' = deadlineOf m ∧ (env.now < deadlineOf m ∨ 0 < 0))

theorem advanced_of_waiting (h : WillEnd m) (hnow : env.now < deadlineOf m) : Advanced env m m :=
  .inr ⟨h, .inr ⟨rfl, rfl, .inl hnow⟩⟩

theorem advanced_of_retries {m' : Machine d.aagListLen} {ms numOfTries limit timeout : Int}
    (hcallback : callback env m =
      if numOfTries = 0 then (m', .value ms)
      else if 0 < millisecondsLeft env.now timeout then
        (m, .value (millisecondsLeft env.now timeout))
      else if numOfTries < limit then (m', .value ms)
      else (m, .event .failed)) (hdeadline : deadlineOf m = timeout)
    (hsend : numOfTries < max limit 1 → Advanced env m m')
    (hfailed : Ended (handleEvent env m .failed).fsm) (h : WillEnd m) :
    Advanced env m (feed env m) := by
  unfold feed
  rw [hcallback]
  by_cases hfirst : numOfTries = 0
  · rw [if_pos hfirst]
    exact hsend (by omega)
  · rw [if_neg hfirst]
    by_cases hleft : 0 < millisecondsLeft env.now timeout
    · rw [if_pos hleft]
      refine advanced_of_waiting env h ?_
      rw [hdeadline]
      exact now_lt_of_millisecondsLeft_pos hleft
    · rw [if_neg hleft]
      by_cases htries : numOfTries < limit
      · rw [if_pos htries]
        exact hsend (by omega)
      · rw [if_neg htries]
        exact .inl hfailed

theorem advanced_initSlac {s : InitSlacState} (hfsm : m.fsm = .initSlac s) (h : WillEnd m) :
    Advanced env m (feed env m) := by
  have hcallback : callback env m = initSlacCallback env s m := by simp only [callback, hfsm]
  refine advanced_of_retries env hcallback ?_ ?_ ?_ h
  · simp [deadlineOf, hfsm]
  · intro htries
    refine .inr ⟨⟨trivial, id⟩, .inl ?_⟩
    simp only [stageOf, hfsm, Machine.goTo]
    omega
  · simp only [handleEvent, hfsm, initSlacHandleEvent]
    exact trivial

theorem advanced_matchRequest {s : MatchRequestState} (hfsm : m.fsm = .matchRequest s)
    (h : WillEnd m) : Advanced env m (feed env m) := by
  have hcallback : callback env m = matchRequestCallback env s m := by simp only [callback, hfsm]
  refine advanced_of_retries env hcallback ?_ ?_ ?_ h
  · simp [deadlineOf, hfsm]
  · intro htries
    refine .inr ⟨⟨trivial, id⟩, .inl ?_⟩
    simp only [stageOf, hfsm, Machine.goTo]
    omega
  · simp only [handleEvent, hfsm, matchRequestHandleEvent]
    exact trivial

theorem advanced_joinNetwork {s : JoinNetworkState} (hfsm : m.fsm = .joinNetwork s)
    (h : WillEnd m) : Advanced env m (feed env m) := by
  simp only [feed, callback, hfsm, joinNetworkCallback]
  by_cases hleft : 0 < millisecondsLeft env.now s.timeout
  · rw [if_pos hleft]
    refine advanced_of_waiting env h ?_
    simp only [deadlineOf, hfsm]
    exact now_lt_of_millisecondsLeft_pos hleft
  · rw [if_neg hleft]
    simp only [handleEvent, hfsm, joinNetworkHandleEvent]
    exact .inl trivial

theorem ends_iff (hattempt : Attempting m.fsm) {polls : Nat → Env}
    (hadv : Advances fun k => (polls k).now) :
    (∃ k, Ended (polled feed polls m k).fsm) ↔ ¬ Sounding m.fsm := by
  refine ⟨fun ⟨k, hended⟩ hsounding => ?_, fun hother => ?_⟩
  · have hkept : Sounding (polled feed polls m k).fsm :=
      polled_keeps (I := fun m : Machine d.aagListLen => Sounding m.fsm)
        (fun env _ h => sounding_feed env h) hsounding k
    revert hended hkept
    cases (polled feed polls m k).fsm <;> intro hended hkept <;>
      first | exact hended.elim | exact hkept.elim
  · have hprog : Progresses feed Env.now WillEnd (fun m : Machine d.aagListLen => Ended m.fsm)
        stageOf deadlineOf fun _ => 0 := by
      intro env m h _
      cases hfsm : m.fsm with
      | initSlac s => exact advanced_initSlac env hfsm h
      | matchRequest s => exact advanced_matchRequest env hfsm h
      | joinNetwork s => exact advanced_joinNetwork env hfsm h
      | sounding s =>
        refine absurd ?_ h.2
        rw [hfsm]
        trivial
      | _ =>
        have hattempting := h.1
        rw [hfsm] at hattempting
        exact hattempting.elim
    exact hprog.ends hadv ⟨hattempt, hother⟩

end EverestCore.Slac.Ev

namespace EverestCore.Slac

open EverestCore.Lib

/-- **No SLAC attempt hangs**, with two exceptions. When nothing arrives any more and
the callbacks are run while time advances, an attempt of the EVSE reaches Matched or
Failed exactly if it does not wait for a link its modem cannot be asked about, and
one of the EV exactly if it is not sounding. -/
theorem no_slac_attempt_hangs_iff (d : Defs) :
    (∀ (config : Evse.EvseSlacConfig) (labels : List (Evse.Label d.aagListLen))
        (m : Evse.Machine d.aagListLen) (polls : Nat → Evse.Env),
      m = run Evse.step { config := config } labels → Evse.Attempting m.fsm →
      Advances (fun k => (polls k).now) →
      ((∃ k, Evse.Ended (polled Evse.feed polls m k).fsm) ↔ ¬ Evse.LinkNeverAsked m)) ∧
    ∀ (plcMac : Mac) (labels : List (Ev.Label d.aagListLen)) (m : Ev.Machine d.aagListLen)
        (polls : Nat → Ev.Env),
      m = run Ev.step { plcMac := plcMac } labels → Ev.Attempting m.fsm →
      Advances (fun k => (polls k).now) →
      ((∃ k, Ev.Ended (polled Ev.feed polls m k).fsm) ↔ ¬ Ev.Sounding m.fsm) := by
  refine ⟨?_, ?_⟩
  · rintro config labels m polls rfl hattempt hadv
    exact Evse.ends_iff hattempt (Evse.attemptInv_run config labels) hadv
  · rintro plcMac labels m polls - hattempt hadv
    exact Ev.ends_iff hattempt hadv

/-! Nobody answers: an EVSE whose EV falls silent in matching, and an EV without an
EVSE. -/

theorem advances_seconds : Advances fun k : Nat => (1000 * k : Int) * nanosPerMilli := by
  refine ⟨?_, ?_⟩
  · intro j k hjk
    show (1000 * j : Int) * 1000000 ≤ (1000 * k : Int) * 1000000
    omega
  · intro t
    refine ⟨t.toNat, ?_⟩
    show t ≤ (1000 * (t.toNat : Int)) * 1000000
    omega

theorem silent_attempts_end :
    (∃ k, Evse.Ended (polled Evse.feed (fun k : Nat => Evse.atMs (1000 * k))
      (run Evse.step { config.linkStatus.doDetect := true } (Evse.matchedRun.take 8)) k).fsm) ∧
    ∃ k, Ev.Ended (polled Ev.feed (fun k : Nat => { now := (1000 * k : Int) * nanosPerMilli })
      (run Ev.step ({} : Ev.Machine Defs.sample.aagListLen) [.triggerMatching {}]) k).fsm :=
  ⟨((no_slac_attempt_hangs_iff Defs.sample).1 _ (Evse.matchedRun.take 8) _ _ rfl
      (by decide +kernel) advances_seconds).mpr (by decide +kernel),
    ((no_slac_attempt_hangs_iff Defs.sample).2 _ [.triggerMatching {}] _ _ rfl
      (by decide +kernel) advances_seconds).mpr (by decide +kernel)⟩

/-! The EVSE waits for the link of a modem it knows nothing of, and the EV for the
result of sounding; both wait for ever. -/

theorem silent_attempts_hang :
    (¬ ∃ k, Evse.Ended (polled Evse.feed (fun k : Nat => Evse.atMs (1000 * k))
      (run Evse.step { config.linkStatus.doDetect := true } Evse.matchedRun) k).fsm) ∧
    ¬ ∃ k, Ev.Ended (polled Ev.feed (fun k : Nat => { now := (1000 * k : Int) * nanosPerMilli })
      (run Ev.step ({} : Ev.Machine Defs.sample.aagListLen)
        [.triggerMatching {}, .feed {},
          .message {} ⟨Evse.strangerMac, .cmSlacParmCnf
            ⟨Ev.broadcastMac, 10, 6, 1, Evse.evMac, 0, 0, Vector.replicate 8 0⟩⟩]) k).fsm := by
  refine ⟨?_, ?_⟩
  · rw [Evse.ends_iff (by decide +kernel) (Evse.attemptInv_run _ _) advances_seconds, not_not]
    decide +kernel
  · rw [Ev.ends_iff (by decide +kernel) advances_seconds, not_not]
    decide +kernel

end EverestCore.Slac
