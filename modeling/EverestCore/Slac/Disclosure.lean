import EverestCore.Slac.EvseSteps

/-!
# Who gets the network key

An observer writes down, since the last entry of `ResetState`, every message of
the matching exchange that is accepted and every message that is sent.

The key stays with one matched EV exactly in the runs whose steps all meet
`OneRequester`. `WaitForLinkState` answers every `CM_SLAC_MATCH.REQ`, whoever
sends it.
-/

namespace EverestCore.Slac.Evse

open EverestCore.Slac EverestCore.Lib MatchingSession List

/-! ## The observer -/

inductive Request where
  | parmReq
  | startAttenCharInd
  | attenCharRsp
  | matchReq
deriving DecidableEq

/-- What the observer writes down. -/
inductive Happening (n : Nat) where
  | accepted (mac : Mac) (request : Request) (runId : RunId)
  | sent (mac : Mac) (payload : Payload n)
deriving DecidableEq

variable {n : Nat}

def Out.happening? : Out n → Option (Happening n)
  | .send mac payload => some (.sent mac payload)
  | _ => none

def sentBy (outs : List (Out n)) : List (Happening n) := outs.filterMap Out.happening?

variable {d : Defs}

/-- A message of the exchange is accepted when it is valid and, except for the
first one, meets its session in the sub-state that waits for it. -/
def accepts (s : MatchingState d.aagListLen) (msg : HomeplugMessage d.aagListLen) :
    Option (Happening d.aagListLen) :=
  match msg.payload with
  | .cmSlacParmReq p =>
    if validateCmSlacParmReq d p then some (.accepted msg.srcMac .parmReq p.runId) else none
  | .cmStartAttenCharInd p =>
    if validateCmStartAttenCharInd d p && sessionIn d msg.srcMac s .waitForStartAttenChar p.runId
    then some (.accepted msg.srcMac .startAttenCharInd p.runId) else none
  | .cmAttenCharRsp p =>
    if validateCmAttenCharRsp d p && sessionIn d msg.srcMac s .waitForAttenCharRsp p.runId
    then some (.accepted msg.srcMac .attenCharRsp p.runId) else none
  | .cmSlacMatchReq p =>
    if validateCmSlacMatchReq d p && sessionIn d msg.srcMac s .waitForSlacMatch p.runId
    then some (.accepted msg.srcMac .matchReq p.runId) else none
  | _ => none

def acceptedIn (m : Machine d.aagListLen) : Label d.aagListLen → Option (Happening d.aagListLen)
  | .message _ msg =>
    match m.fsm with
    | .matching s => accepts s msg
    | _ => none
  | _ => none

def entersReset (m : Machine d.aagListLen) : Label d.aagListLen → Bool
  | .message _ _ => false
  | .command _ .reset =>
    match m.fsm with
    | .init _ | .resetChip _ => false
    | _ => true
  | .command _ _ => false
  | .feed _ =>
    match m.fsm with
    | .init .done => true
    | _ => false

/-- The machine with its observer. -/
structure Observed (n : Nat) where
  machine : Machine n
  history : List (Happening n) := []

def observe (s : Observed d.aagListLen) (label : Label d.aagListLen) : Observed d.aagListLen where
  machine := step s.machine label
  history :=
    if entersReset s.machine label then []
    else s.history ++ (acceptedIn s.machine label).toList ++
      sentBy ((step s.machine label).log.drop s.machine.log.length)

def started (config : EvseSlacConfig) : Observed d.aagListLen where
  machine := { config := config }

/-! ## The property -/

def Happening.confirmedTo? : Happening n → Option Mac
  | .sent mac (.cmSlacMatchCnf _) => some mac
  | _ => none

def confirmedTo (history : List (Happening n)) : List Mac :=
  history.filterMap Happening.confirmedTo?

def exchange (mac : Mac) (runId : RunId) (ind : CmAttenCharInd n) :
    List (Happening n) :=
  [.accepted mac .parmReq runId, .accepted mac .startAttenCharInd runId,
    .sent mac (.cmAttenCharInd ind), .accepted mac .attenCharRsp runId,
    .accepted mac .matchReq runId]

/-- A whole exchange with the EV, in its order. -/
def Completed (history : List (Happening n)) (mac : Mac) : Prop :=
  ∃ runId ind, (exchange mac runId ind).Sublist history

/-- The key went to one EV, after a complete exchange. -/
structure DisclosedOnlyToMatched (history : List (Happening n)) : Prop where
  completed : ∀ i mac cnf, history[i]? = some (.sent mac (.cmSlacMatchCnf cnf)) →
    Completed (history.take i) mac
  same : ∀ mac ∈ confirmedTo history, ∀ mac' ∈ confirmedTo history, mac = mac'

/-- The station whose request the next step answers with a confirmation. -/
def answered (m : Machine d.aagListLen) : Label d.aagListLen → Option Mac
  | .message _ msg =>
    match m.fsm, msg.payload with
    | .matching s, .cmSlacMatchReq p =>
      if validateCmSlacMatchReq d p && sessionIn d msg.srcMac s .waitForSlacMatch p.runId
      then some msg.srcMac else none
    | .waitForLink _, .cmSlacMatchReq _ => some msg.srcMac
    | _, _ => none
  | _ => none

/-- A request that is answered comes from the station confirmed before, if there
is one. -/
def OneRequester (s : Observed d.aagListLen) (label : Label d.aagListLen) : Prop :=
  ∀ mac ∈ answered s.machine label, ∀ mac' ∈ confirmedTo s.history, mac = mac'
deriving Decidable

/-! ## Histories -/

section

variable {n : Nat} {history more : List (Happening n)} {mac : Mac}

@[simp] theorem confirmedTo_append (history more : List (Happening n)) :
    confirmedTo (history ++ more) = confirmedTo history ++ confirmedTo more :=
  filterMap_append

@[simp] theorem sentBy_append (outs more : List (Out n)) :
    sentBy (outs ++ more) = sentBy outs ++ sentBy more :=
  filterMap_append

theorem confirmedTo_sentBy {outs : List (Out n)} (h : outs.any Out.confirms = false) :
    confirmedTo (sentBy outs) = [] := by
  rw [confirmedTo, sentBy, filterMap_filterMap, filterMap_eq_nil_iff]
  intro out hout
  have hquiet := any_eq_false.mp h out hout
  cases out with
  | send mac payload =>
    cases payload with
    | cmSlacMatchCnf cnf => exact absurd rfl hquiet
    | _ => rfl
  | _ => rfl

theorem Completed.append (h : Completed history mac) (more : List (Happening n)) :
    Completed (history ++ more) mac := by
  obtain ⟨runId, ind, hsub⟩ := h
  exact ⟨runId, ind, hsub.trans (sublist_append_left history more)⟩

theorem DisclosedOnlyToMatched.append (h : DisclosedOnlyToMatched history)
    (hcompleted : ∀ mac ∈ confirmedTo more, Completed history mac)
    (hsame : ∀ mac ∈ confirmedTo more, ∀ mac' ∈ confirmedTo (history ++ more), mac = mac') :
    DisclosedOnlyToMatched (history ++ more) := by
  refine ⟨?_, ?_⟩
  · intro i mac cnf hi
    by_cases hlt : i < history.length
    · rw [getElem?_append_left hlt] at hi
      rw [take_append_of_le_length (Nat.le_of_lt hlt)]
      exact h.completed i mac cnf hi
    · have hle : history.length ≤ i := Nat.not_lt.mp hlt
      rw [getElem?_append_right hle] at hi
      rw [take_append, take_of_length_le hle]
      exact (hcompleted mac (mem_filterMap.mpr ⟨_, mem_of_getElem? hi, rfl⟩)).append _
  · intro mac hmac mac' hmac'
    rw [confirmedTo_append, mem_append] at hmac
    rcases hmac with hmac | hmac
    · have hmac'' := hmac'
      rw [confirmedTo_append, mem_append] at hmac''
      rcases hmac'' with hold | hnew
      · exact h.same mac hmac mac' hold
      · refine (hsame mac' hnew mac ?_).symm
        exact confirmedTo_append history more ▸ mem_append_left _ hmac
    · exact hsame mac hmac mac' hmac'

theorem DisclosedOnlyToMatched.append_quiet (h : DisclosedOnlyToMatched history)
    (hquiet : confirmedTo more = []) : DisclosedOnlyToMatched (history ++ more) :=
  h.append (by simp [hquiet]) (by simp [hquiet])

theorem disclosedOnlyToMatched_nil : DisclosedOnlyToMatched ([] : List (Happening n)) :=
  ⟨by simp, by simp [confirmedTo]⟩

end

/-! ## How far a session has come -/

/-- How much of the exchange lies behind a session. -/
def stage : MatchingSubState → Nat
  | .waitForStartAttenChar => 1
  | .sounding => 2
  | .finalizeSounding => 2
  | .waitForAttenCharRsp => 3
  | .waitForSlacMatch => 4
  | .receivedSlacMatch => 0
  | .matchComplete => 5
  | .failed => 0

/-- The history has the part of the exchange the session's sub-state stands for. -/
def Reached (history : List (Happening n)) (session : MatchingSession n) : Prop :=
  ∃ ind, ((exchange session.evMac session.runId ind).take (stage session.state)).Sublist history

/-- A complete session has been confirmed, and the confirmation is kept. -/
structure SessionOk (history : List (Happening n)) (cnf : Option CmSlacMatchCnf)
    (session : MatchingSession n) : Prop where
  reached : Reached history session
  confirmed : session.state = .matchComplete →
    cnf.isSome = true ∧ session.evMac ∈ confirmedTo history

section

variable {n : Nat} {history : List (Happening n)} {cnf : Option CmSlacMatchCnf}
  {session : MatchingSession n}

theorem Reached.append (h : Reached history session) (more : List (Happening n)) :
    Reached (history ++ more) session := by
  obtain ⟨ind, hsub⟩ := h
  exact ⟨ind, hsub.trans (sublist_append_left history more)⟩

theorem SessionOk.append (h : SessionOk history cnf session) (more : List (Happening n)) :
    SessionOk (history ++ more) cnf session := by
  refine ⟨h.reached.append more, fun hstate => ⟨(h.confirmed hstate).1, ?_⟩⟩
  rw [confirmedTo_append]
  exact mem_append_left _ (h.confirmed hstate).2

theorem sublist_advance {mac : Mac} {runId : RunId} {ind : CmAttenCharInd n} {k : Nat}
    {next : Happening n} (h : ((exchange mac runId ind).take k).Sublist history)
    (hnext : (exchange mac runId ind)[k]? = some next) :
    ((exchange mac runId ind).take (k + 1)).Sublist (history ++ [next]) := by
  rw [take_add_one, hnext]
  exact h.append (List.Sublist.refl _)

theorem Reached.completed (h : Reached history session) (hstate : session.state = .matchComplete) :
    Completed history session.evMac := by
  obtain ⟨ind, hsub⟩ := h
  rw [hstate] at hsub
  exact ⟨session.runId, ind, hsub⟩

end

/-! ## Matching -/

section

variable {config : EvseSlacConfig} {now : Int} {history : List (Happening d.aagListLen)}
  {cnf : Option CmSlacMatchCnf}

variable {session : MatchingSession d.aagListLen}

theorem sessionOk_failed (hstate : session.state = .failed) : SessionOk history cnf session := by
  refine ⟨⟨⟨0, 0, session.evMac, session.runId, 0, 0, Vector.replicate _ 0⟩, ?_⟩, ?_⟩
  · rw [hstate]
    exact nil_sublist history
  · rw [hstate]
    intro h
    cases h

theorem sessionOk_handleTimeout (hexpired : Expired now session)
    (h : SessionOk history cnf session) :
    SessionOk (history ++ sentBy (handleTimeout d config now session).2) cnf
      (handleTimeout d config now session).1 := by
  obtain ⟨ind, hsub⟩ := h.reached
  cases hstate : session.state with
  | waitForStartAttenChar | waitForSlacMatch =>
    exact sessionOk_failed (by simp [handleTimeout, ackTimeout, hstate])
  | sounding =>
    rw [hstate] at hsub
    simp only [handleTimeout, ackTimeout, hstate]
    exact ⟨⟨ind, hsub.trans (sublist_append_left _ _)⟩, fun h => by cases h⟩
  | finalizeSounding =>
    -- the result of sounding is sent: the third step of the exchange
    rw [hstate] at hsub
    have hsub : ((exchange session.evMac session.runId
        (createCmAttenCharInd d config session.ackTimeout)).take 2).Sublist history := hsub
    have htimeout : handleTimeout d config now session =
        ({ (finalizeSounding d config now session.ackTimeout).1 with numRetries := 0 },
          (finalizeSounding d config now session.ackTimeout).2) := by
      simp [handleTimeout, ackTimeout, hstate]
    rw [htimeout]
    exact ⟨⟨_, sublist_advance hsub rfl⟩, fun h => by cases h⟩
  | waitForAttenCharRsp =>
    rw [hstate] at hsub
    simp only [handleTimeout, ackTimeout, hstate]
    split
    · exact ⟨⟨ind, hsub.trans (sublist_append_left _ _)⟩, fun h => by cases h⟩
    · exact sessionOk_failed rfl
  | receivedSlacMatch =>
    simp only [handleTimeout, ackTimeout, hstate]
    refine ⟨⟨ind, ?_⟩, fun h => by cases h⟩
    exact nil_sublist _
  | matchComplete => exact absurd hstate hexpired.2.1
  | failed => exact sessionOk_failed (by simp [handleTimeout, ackTimeout, hstate])

/-- Every session stands for a part of an exchange. -/
def MatchingOk (history : List (Happening d.aagListLen)) (s : MatchingState d.aagListLen) : Prop :=
  ∀ session ∈ s.sessions, SessionOk history s.matchCnfMessage session

variable {s : MatchingState d.aagListLen}

theorem MatchingOk.append (h : MatchingOk history s) (more : List (Happening d.aagListLen)) :
    MatchingOk (history ++ more) s :=
  fun session hs => (h session hs).append more

theorem MatchingOk.advance (h : MatchingOk history s) {evMac : Mac} {runId : RunId}
    {state : MatchingSubState} (hin : sessionIn d evMac s state runId = true)
    {found : MatchingSession d.aagListLen}
    (hfound : findSession s.sessions evMac runId = some found) {next : Happening d.aagListLen}
    (hnext : ∀ ind, (exchange evMac runId ind)[stage state]? = some next)
    (hmac : session.evMac = found.evMac) (hrun : session.runId = found.runId)
    (hstage : stage session.state = stage state + 1) :
    Reached (history ++ [next]) session := by
  obtain ⟨session', hsession, hstate⟩ := sessionIn_iff.mp hin
  cases hfound.symm.trans hsession
  obtain ⟨hmem, hevMac, hrunId⟩ := findSession_eq_some hfound
  obtain ⟨ind, hsub⟩ := (h found hmem).reached
  rw [hevMac, hrunId, hstate] at hsub
  refine ⟨ind, ?_⟩
  rw [hmac, hevMac, hrun, hrunId, hstage]
  exact sublist_advance hsub (hnext ind)

theorem MatchingOk.update (h : MatchingOk history s) {valid : Bool} {evMac : Mac} {runId : RunId}
    {state : MatchingSubState} (haccepted : (valid && sessionIn d evMac s state runId) = true)
    {next : Happening d.aagListLen}
    (hnext : ∀ ind, (exchange evMac runId ind)[stage state]? = some next)
    {f : MatchingSession d.aagListLen → MatchingSession d.aagListLen}
    (hf : ∀ found, (f found).evMac = found.evMac ∧ (f found).runId = found.runId ∧
      stage (f found).state = stage state + 1 ∧ (f found).state ≠ .matchComplete) :
    MatchingOk (history ++ [next])
      { s with sessions := updateSession s.sessions evMac runId f } := by
  intro session hs
  rcases mem_updateSession hs with hs | ⟨found, hfound, rfl⟩
  · exact (h session hs).append _
  · obtain ⟨hmac, hrun, hstage, hne⟩ := hf found
    have hin := (Bool.and_eq_true_iff.mp haccepted).2
    exact ⟨h.advance hin hfound hnext hmac hrun hstage, fun hstate => absurd hstate hne⟩

variable (evMac : Mac)

theorem matchingOk_handleCmMnbcSoundInd (p : CmMnbcSoundInd) (h : MatchingOk history s) :
    MatchingOk history (handleCmMnbcSoundInd d evMac s p) := by
  rw [handleCmMnbcSoundInd]
  split
  · intro session hs
    rcases mem_updateSession hs with hs | ⟨found, hfound, rfl⟩
    · exact h session hs
    · have hok := h found (findSession_eq_some hfound).1
      exact ⟨hok.reached, hok.confirmed⟩
  · exact h

theorem matchingOk_handleCmAttenProfileInd (p : CmAttenProfileInd d.aagListLen)
    (h : MatchingOk history s) :
    MatchingOk history (handleCmAttenProfileInd d now s p) := by
  rw [handleCmAttenProfileInd]
  split
  · next found hfound =>
    split
    · next hcond =>
      intro session hs
      rcases mem_updateSessionByMac hs with hs | ⟨found', hfound', rfl⟩
      · exact h session hs
      · -- the session is sounding, or its sounding is over: the same stage
        cases hfound.symm.trans hfound'
        have hok := h found (findSessionByMac_eq_some hfound).1
        obtain ⟨ind, hsub⟩ := hok.reached
        rw [hcond.1] at hsub
        simp only [captureProfile]
        split
        · refine ⟨⟨ind, ?_⟩, fun h => ?_⟩
          · simpa only [hcond.1] using hsub
          · exact absurd h (by simp [hcond.1])
        · exact ⟨⟨ind, hsub⟩, nofun⟩
    · exact h
  · exact h

theorem matchingOk_handleCmSlacMatchReq (config : EvseSlacConfig) (now : Int) (evMac : Mac)
    (p : CmSlacMatchReq) (h : MatchingOk history s) (haccepted : (validateCmSlacMatchReq d p &&
      sessionIn d evMac s .waitForSlacMatch p.runId) = true) :
    ∃ cnf, sentBy (handleCmSlacMatchReq d config now evMac s p).2 =
        [.sent evMac (.cmSlacMatchCnf cnf)] ∧
      Completed (history ++ [.accepted evMac .matchReq p.runId]) evMac ∧
      MatchingOk (history ++ [.accepted evMac .matchReq p.runId, .sent evMac (.cmSlacMatchCnf cnf)])
        (handleCmSlacMatchReq d config now evMac s p).1 := by
  have hin := (Bool.and_eq_true_iff.mp haccepted).2
  have hreached : ∀ found, findSession s.sessions evMac p.runId = some found →
      Reached (history ++ [.accepted evMac .matchReq p.runId])
        ({ found with state := .matchComplete }.setNextTimeout now 0) := fun found hfound =>
    h.advance hin hfound (fun _ => rfl) rfl rfl rfl
  rw [handleCmSlacMatchReq, if_pos haccepted]
  refine ⟨_, rfl, ?_, ?_⟩
  · obtain ⟨found, hfound, -⟩ := sessionIn_iff.mp hin
    exact (findSession_eq_some hfound).2.1 ▸ (hreached found hfound).completed rfl
  · intro session hs
    rcases mem_updateSession hs with hs | ⟨found, hfound, rfl⟩
    · have hok := h session hs
      exact ⟨hok.reached.append _, fun hstate => ⟨rfl, ((hok.append _).confirmed hstate).2⟩⟩
    · refine ⟨?_, fun _ => ⟨rfl, ?_⟩⟩
      · rw [append_cons]
        exact (hreached found hfound).append _
      · show found.evMac ∈ _
        rw [(findSession_eq_some hfound).2.1, confirmedTo_append]
        exact mem_concat_self

/-- A message moves one session on. -/
theorem matchingOk_handleSlacMessage (config : EvseSlacConfig) (now : Int)
    (h : MatchingOk history s) (msg : HomeplugMessage d.aagListLen)
    (hunanswered : ∀ p, msg.payload = .cmSlacMatchReq p →
      (validateCmSlacMatchReq d p && sessionIn d msg.srcMac s .waitForSlacMatch p.runId) = false) :
    (handleSlacMessage d config now msg.srcMac s msg.payload).2.any Out.confirms = false ∧
      MatchingOk (history ++ (accepts s msg).toList ++
        sentBy (handleSlacMessage d config now msg.srcMac s msg.payload).2)
        (handleSlacMessage d config now msg.srcMac s msg.payload).1 := by
  obtain ⟨mac, payload⟩ := msg
  -- a message that is not accepted changes no session and is not answered
  have hignored : MatchingOk (history ++ [] ++ []) s := (h.append []).append []
  cases payload with
  | cmSlacParmReq p =>
    simp only [accepts, handleSlacMessage, handleCmSlacParmReq]
    split_ifs
    · -- the new session has the first message of the exchange behind it
      have hnew : SessionOk (history ++ [.accepted mac .parmReq p.runId]) s.matchCnfMessage
          (setNextTimeout now d.ttMatchSequenceMs
            ({ evMac := mac, runId := p.runId } : MatchingSession d.aagListLen)) := by
        refine ⟨⟨⟨0, 0, mac, p.runId, 0, 0, Vector.replicate _ 0⟩, ?_⟩, nofun⟩
        exact sublist_append_right history _
      refine ⟨rfl, MatchingOk.append (fun session hs => ?_) _⟩
      split at hs
      · rcases mem_updateSession hs with hs | ⟨found, -, rfl⟩
        · exact (h session hs).append _
        · exact hnew
      · rcases mem_append.mp hs with hs | hs
        · exact (h session hs).append _
        · exact mem_singleton.mp hs ▸ hnew
    · exact ⟨rfl, hignored⟩
  | cmStartAttenCharInd p =>
    simp only [accepts, handleSlacMessage, handleCmStartAttenCharInd]
    split_ifs with haccepted
    · refine ⟨rfl, (h.update haccepted (fun _ => rfl) fun _ => ?_).append []⟩
      exact ⟨rfl, rfl, rfl, nofun⟩
    · exact ⟨rfl, hignored⟩
  | cmMnbcSoundInd p => exact ⟨rfl, ((matchingOk_handleCmMnbcSoundInd mac p h).append []).append []⟩
  | cmAttenProfileInd p =>
    exact ⟨rfl, ((matchingOk_handleCmAttenProfileInd p h).append []).append []⟩
  | cmAttenCharRsp p =>
    simp only [accepts, handleSlacMessage, handleCmAttenCharRsp]
    split_ifs with haccepted
    · refine ⟨rfl, (h.update haccepted (fun _ => rfl) fun _ => ?_).append []⟩
      exact ⟨rfl, rfl, rfl, nofun⟩
    · exact ⟨rfl, hignored⟩
  | cmSlacMatchReq p =>
    simp only [accepts, handleSlacMessage, handleCmSlacMatchReq, hunanswered p rfl]
    exact ⟨rfl, hignored⟩
  | cmValidateReq => exact ⟨rfl, (h.append []).append _⟩
  | _ => exact ⟨rfl, hignored⟩

end

/-! ## One step -/

/-- The key is kept by what the history says: sessions are backed by it, and who
waits for the link has been confirmed. -/
def KeyInv (s : Observed d.aagListLen) : Prop :=
  match s.machine.fsm with
  | .matching st => MatchingOk s.history st
  | .waitForLink w =>
    w.matchCnfMessage.isSome = true ∧
      ∃ mac ∈ confirmedTo s.history, Completed s.history mac
  | _ => True

section

variable {s : Observed d.aagListLen} {label : Label d.aagListLen} {st : MatchingState d.aagListLen}

theorem keyInv_matching (hfsm : s.machine.fsm = .matching st) :
    KeyInv s ↔ MatchingOk s.history st := by
  unfold KeyInv
  rw [hfsm]

variable {w : WaitForLinkState}

theorem keyInv_waitForLink (hfsm : s.machine.fsm = .waitForLink w) :
    KeyInv s ↔ w.matchCnfMessage.isSome = true ∧
      ∃ mac ∈ confirmedTo s.history, Completed s.history mac := by
  unfold KeyInv
  rw [hfsm]

theorem keyInv_of_fresh (h : Fresh s.machine.fsm) : KeyInv s := by
  unfold KeyInv
  split
  · next st hfsm =>
    have hnil : st.sessions = [] := by
      rw [hfsm] at h
      exact h.1
    intro session hs
    rw [hnil] at hs
    cases hs
  · next hfsm => simp [hfsm, Fresh] at h
  · trivial

theorem KeyInv.append (hI : KeyInv s) {s' : Observed d.aagListLen}
    (hfsm : s'.machine.fsm = s.machine.fsm) {more : List (Happening d.aagListLen)}
    (hhistory : s'.history = s.history ++ more) : KeyInv s' := by
  unfold KeyInv at hI ⊢
  rw [hfsm, hhistory]
  split
  · next st hst =>
    rw [hst] at hI
    exact MatchingOk.append hI more
  · next w hw =>
    rw [hw] at hI
    obtain ⟨hcnf, mac, hmac, hcompleted⟩ := hI
    refine ⟨hcnf, mac, ?_, hcompleted.append more⟩
    rw [confirmedTo_append]
    exact mem_append_left _ hmac
  · trivial

theorem confirmedTo_acceptedIn (m : Machine d.aagListLen) (label : Label d.aagListLen) :
    confirmedTo (acceptedIn m label).toList = [] := by
  unfold acceptedIn
  split
  · split
    · unfold accepts
      split <;> first | rfl | (split <;> rfl)
    · rfl
  · rfl

theorem observe_history {outs : List (Out d.aagListLen)}
    (hlog : (step s.machine label).log = s.machine.log ++ outs)
    (hreset : entersReset s.machine label = false) :
    (observe s label).history =
      s.history ++ (acceptedIn s.machine label).toList ++ sentBy outs := by
  simp [observe, hreset, hlog]

theorem disclosed_of_quiet (hP : DisclosedOnlyToMatched s.history)
    (hquiet : Quiet s.machine (step s.machine label)) :
    DisclosedOnlyToMatched (observe s label).history := by
  cases hreset : entersReset s.machine label with
  | true =>
    simp only [observe, hreset, if_true]
    exact disclosedOnlyToMatched_nil
  | false =>
    obtain ⟨outs, hlog, houts⟩ := hquiet
    rw [observe_history hlog hreset]
    exact (hP.append_quiet (confirmedTo_acceptedIn _ _)).append_quiet (confirmedTo_sentBy houts)

theorem oneRequester_of_unanswered (h : answered s.machine label = none) :
    OneRequester s label := by
  intro mac hmac
  rw [h] at hmac
  exact absurd hmac (by simp)

/-- What a step has to show: the invariant is kept, and the property is kept
exactly by the steps that answer no second station. -/
structure StepOk (s : Observed d.aagListLen) (label : Label d.aagListLen) : Prop where
  inv : KeyInv (observe s label)
  iff : DisclosedOnlyToMatched s.history →
    (DisclosedOnlyToMatched (observe s label).history ↔ OneRequester s label)

theorem stepOk_of_quiet (hinv : KeyInv (observe s label))
    (hquiet : Quiet s.machine (step s.machine label))
    (hanswered : answered s.machine label = none) : StepOk s label :=
  ⟨hinv, fun hP => ⟨fun _ => oneRequester_of_unanswered hanswered,
    fun _ => disclosed_of_quiet hP hquiet⟩⟩

theorem stepOk_of_calm (hcalm : Calm s.machine (step s.machine label))
    (hanswered : answered s.machine label = none) : StepOk s label :=
  stepOk_of_quiet (keyInv_of_fresh hcalm.fresh) hcalm.quiet hanswered

theorem stepOk_of_same (hI : KeyInv s) (hfsm : (step s.machine label).fsm = s.machine.fsm)
    (hquiet : Quiet s.machine (step s.machine label)) (hanswered : answered s.machine label = none)
    (hreset : entersReset s.machine label = false) : StepOk s label := by
  obtain ⟨outs, hlog, houts⟩ := hquiet
  refine stepOk_of_quiet ?_ ⟨outs, hlog, houts⟩ hanswered
  exact hI.append hfsm ((observe_history hlog hreset).trans (append_assoc ..))

theorem stepOk_idling (h : Idling s.machine.fsm) : StepOk s label := by
  refine stepOk_of_calm (calm_step h label) ?_
  unfold answered
  split
  · split
    · next hfsm _ => simp [hfsm, Idling] at h
    · next hfsm _ => simp [hfsm, Idling] at h
    · rfl
  · rfl

theorem stepOk_of_answer {mac : Mac} {before : List (Happening d.aagListLen)}
    {cnf : CmSlacMatchCnf} (hinv : KeyInv (observe s label))
    (hanswered : answered s.machine label = some mac) (hbefore : confirmedTo before = [])
    (hhistory : (observe s label).history =
      s.history ++ before ++ [.sent mac (.cmSlacMatchCnf cnf)])
    (hcompleted : OneRequester s label → Completed (s.history ++ before) mac) :
    StepOk s label := by
  refine ⟨hinv, fun hP => ⟨fun hP' => ?_, fun hone => ?_⟩⟩
  · intro mac₀ hmac₀ mac' hmac'
    rw [hanswered] at hmac₀
    cases hmac₀
    rw [hhistory] at hP'
    refine hP'.same mac ?_ mac' ?_
    · rw [confirmedTo_append]
      exact mem_concat_self
    · rw [confirmedTo_append, confirmedTo_append]
      exact mem_append_left _ (mem_append_left _ hmac')
  · rw [hhistory]
    refine (hP.append_quiet hbefore).append ?_ ?_
    · intro mac' hmac'
      rw [mem_singleton.mp hmac']
      exact hcompleted hone
    · intro mac₀ hmac₀ mac' hmac'
      rw [mem_singleton.mp hmac₀]
      rw [confirmedTo_append, confirmedTo_append, hbefore, append_nil] at hmac'
      rcases mem_append.mp hmac' with hmac' | hmac'
      · exact hone mac hanswered mac' hmac'
      · exact (mem_singleton.mp hmac').symm

theorem stepOk_matching_message (hI : KeyInv s) (hfsm : s.machine.fsm = .matching st) (env : Env)
    (msg : HomeplugMessage d.aagListLen) :
    StepOk s (.message env msg) := by
  have hok : MatchingOk s.history st := (keyInv_matching hfsm).mp hI
  have hstep : step s.machine (.message env msg) = _ :=
    handleEvent_matching env hfsm (.slacMessage msg)
  have hinv := keyInv_matching (s := observe s (.message env msg)) (congrArg Machine.fsm hstep)
  have hhistory := observe_history (congrArg Machine.log hstep) rfl
  rw [show acceptedIn s.machine (.message env msg) = accepts st msg by simp [acceptedIn, hfsm]]
    at hhistory
  obtain ⟨mac, payload⟩ := msg
  by_cases hanswer : ∃ p, payload = .cmSlacMatchReq p ∧
      (validateCmSlacMatchReq d p && sessionIn d mac st .waitForSlacMatch p.runId) = true
  · -- the request completes its session
    obtain ⟨p, rfl, haccept⟩ := hanswer
    obtain ⟨cnf, hsent, hcompleted, hok'⟩ :=
      matchingOk_handleCmSlacMatchReq s.machine.config env.now mac p hok haccept
    have hhistory : (observe s (.message env ⟨mac, .cmSlacMatchReq p⟩)).history =
        s.history ++ [.accepted mac .matchReq p.runId] ++ [.sent mac (.cmSlacMatchCnf cnf)] := by
      rw [hhistory, ← hsent]
      simp only [accepts, haccept, if_true]
      rfl
    refine stepOk_of_answer ?_ ?_ rfl hhistory (fun _ => hcompleted)
    · rw [hinv, hhistory, append_assoc]
      exact hok'
    · simp [answered, hfsm, haccept]
  · have hunanswered : ∀ p, payload = .cmSlacMatchReq p →
        (validateCmSlacMatchReq d p && sessionIn d mac st .waitForSlacMatch p.runId) = false := by
      intro p hp
      exact Bool.eq_false_iff.mpr fun haccept => hanswer ⟨p, hp, haccept⟩
    obtain ⟨hquiet, hok'⟩ := matchingOk_handleSlacMessage s.machine.config env.now hok
      ⟨mac, payload⟩ hunanswered
    refine stepOk_of_quiet ?_ ⟨_, congrArg Machine.log hstep, hquiet⟩ ?_
    · rw [hinv, hhistory]
      exact hok'
    · cases payload with
      | cmSlacMatchReq p => simp [answered, hfsm, hunanswered p rfl]
      | _ => simp only [answered, hfsm]

theorem matchingOk_callback {history : List (Happening d.aagListLen)} (config : EvseSlacConfig)
    (now : Int) (h : MatchingOk history st) :
    MatchingOk (history ++ sentBy (callback d config now st).2.1) (callback d config now st).1 := by
  have hcnf : (callback d config now st).1.matchCnfMessage = st.matchCnfMessage := by
    rw [callback_state]
  intro session hs
  rw [hcnf]
  refine callback_induct
    (I := fun outs session => SessionOk (history ++ sentBy outs) st.matchCnfMessage session)
    ?_ ?_ ?_ session hs
  · intro outs more session hok
    rw [sentBy_append, ← append_assoc]
    exact hok.append _
  · intro outs session hexpired hok
    rw [sentBy_append, ← append_assoc]
    exact sessionOk_handleTimeout hexpired hok
  · intro session hs
    exact (h session hs).append _

theorem stepOk_matching_feed (hI : KeyInv s) (hfsm : s.machine.fsm = .matching st) (env : Env) :
    StepOk s (.feed env) := by
  have hok := matchingOk_callback s.machine.config env.now ((keyInv_matching hfsm).mp hI)
  have hquiet := quiet_afterCallback env st s.machine
  have hreset : entersReset s.machine (.feed env) = false := by simp [entersReset, hfsm]
  -- the history as long as nothing but the deadlines sends
  have hhistory : (step s.machine (.feed env)).log = (afterCallback env st s.machine).log →
      (observe s (.feed env)).history =
        s.history ++ sentBy (callback d s.machine.config env.now st).2.1 := by
    intro hlog
    rw [observe_history (hlog.trans rfl) hreset]
    exact congrArg (· ++ _) (append_nil _)
  cases hresult : (callback d s.machine.config env.now st).2.2 with
  | failed =>
    have hstep : step s.machine (.feed env) = _ := feed_matching_failed env hfsm hresult
    refine stepOk_of_calm ?_ rfl
    rw [hstep]
    split
    · exact ⟨hquiet, rfl, rfl⟩
    · exact ⟨hquiet.trans (calm_enterFailed _).quiet, trivial⟩
  | matchComplete =>
    have hstep : step s.machine (.feed env) = _ := feed_matching_matchComplete env hfsm hresult
    split at hstep
    · -- the key goes along with the session that is complete
      refine stepOk_of_quiet ?_ (by rw [hstep]; exact hquiet) rfl
      obtain ⟨session, hs, hcomplete⟩ := callback_matchComplete _ hresult
      have hsession := hok session hs
      rw [keyInv_waitForLink (s := observe s (.feed env)) (congrArg Machine.fsm hstep),
        hhistory (by rw [hstep]; rfl)]
      exact ⟨(hsession.confirmed hcomplete).1, session.evMac, (hsession.confirmed hcomplete).2,
        hsession.reached.completed hcomplete⟩
    · refine stepOk_of_calm ?_ rfl
      rw [hstep]
      exact ⟨hquiet.trans (calm_enterMatched _).quiet, trivial⟩
  | value ms | emptyValue =>
    have hstep : step s.machine (.feed env) = _ :=
      feed_matching_wait env hfsm (by simp [hresult]) (by simp [hresult])
    refine stepOk_of_quiet ?_ (hstep ▸ hquiet) rfl
    rw [keyInv_matching (s := observe s (.feed env)) (congrArg Machine.fsm hstep),
      hhistory (congrArg Machine.log hstep)]
    exact hok

theorem stepOk_waitForLink_message (hI : KeyInv s) (hfsm : s.machine.fsm = .waitForLink w)
    (env : Env) (msg : HomeplugMessage d.aagListLen) :
    StepOk s (.message env msg) := by
  obtain ⟨hcnf, mac, hmac, hcompleted⟩ := (keyInv_waitForLink hfsm).mp hI
  obtain ⟨cnf, hcnf⟩ := Option.isSome_iff_exists.mp hcnf
  obtain ⟨srcMac, payload⟩ := msg
  have hstep : step s.machine (.message env ⟨srcMac, payload⟩) = _ :=
    handleEvent_waitForLink env hfsm (.slacMessage ⟨srcMac, payload⟩)
  have haccepted : acceptedIn s.machine (.message env ⟨srcMac, payload⟩) = none := by
    simp [acceptedIn, hfsm]
  by_cases hreq : ∃ p, payload = .cmSlacMatchReq p
  · -- the kept confirmation goes to whoever asks
    obtain ⟨p, rfl⟩ := hreq
    have hsend : step s.machine (.message env ⟨srcMac, .cmSlacMatchReq p⟩) =
        s.machine.send srcMac (.cmSlacMatchCnf cnf) := by
      have hstatus : checkLinkStatusCnf s.machine.modemVendor
          (.cmSlacMatchReq p : Payload d.aagListLen) = none := by
        cases s.machine.modemVendor <;> rfl
      simp only [hstep, waitForLinkHandleEvent, hstatus, hcnf]
      rfl
    have hhistory : (observe s (.message env ⟨srcMac, .cmSlacMatchReq p⟩)).history =
        s.history ++ [] ++ [.sent srcMac (.cmSlacMatchCnf cnf)] := by
      rw [observe_history (congrArg Machine.log hsend) rfl, haccepted]
      rfl
    have hanswered : answered s.machine (.message env ⟨srcMac, .cmSlacMatchReq p⟩) =
        some srcMac := by
      simp [answered, hfsm]
    refine stepOk_of_answer ?_ hanswered rfl hhistory ?_
    · exact hI.append ((congrArg Machine.fsm hsend).trans rfl) (hhistory.trans (append_assoc ..))
    · intro hone
      rw [hone srcMac hanswered mac hmac]
      exact hcompleted.append []
  · have hanswered : answered s.machine (.message env ⟨srcMac, payload⟩) = none := by
      cases payload with
      | cmSlacMatchReq p => exact absurd ⟨p, rfl⟩ hreq
      | _ => simp only [answered, hfsm]
    by_cases hlink : checkLinkStatusCnf s.machine.modemVendor payload = some true
    · refine stepOk_of_calm ?_ hanswered
      rw [hstep, waitForLinkHandleEvent, if_pos hlink]
      exact calm_enterMatched s.machine
    · have hstay : step s.machine (.message env ⟨srcMac, payload⟩) = s.machine := by
        rw [hstep, waitForLinkHandleEvent, if_neg hlink]
        cases payload with
        | cmSlacMatchReq p => exact absurd ⟨p, rfl⟩ hreq
        | _ => rfl
      exact stepOk_of_same hI (congrArg Machine.fsm hstay) (hstay.symm ▸ Quiet.refl _) hanswered rfl

theorem stepOk_waitForLink_feed (hI : KeyInv s) (hfsm : s.machine.fsm = .waitForLink w)
    (env : Env) : StepOk s (.feed env) := by
  have hstep : step s.machine (.feed env) = _ := feed_waitForLink env hfsm
  have hreset : entersReset s.machine (.feed env) = false := by simp [entersReset, hfsm]
  -- whether a request was sent to the modem or not, the confirmation stays
  have hstay : ∀ {m' : Machine d.aagListLen} {sent : Bool},
      step s.machine (.feed env) = m'.goTo (.waitForLink { w with linkStatusReqSent := sent }) →
      Quiet s.machine m' → StepOk s (.feed env) := by
    intro m' sent hgo hquiet
    have hquiet : Quiet s.machine (step s.machine (.feed env)) := hgo ▸ hquiet
    refine stepOk_of_quiet ?_ hquiet rfl
    obtain ⟨outs, hlog, -⟩ := hquiet
    obtain ⟨hcnf, mac, hmac, hcompleted⟩ := (keyInv_waitForLink hfsm).mp hI
    rw [keyInv_waitForLink (s := observe s (.feed env)) (congrArg Machine.fsm hgo),
      observe_history hlog hreset, append_assoc]
    refine ⟨hcnf, mac, ?_, hcompleted.append _⟩
    rw [confirmedTo_append]
    exact mem_append_left _ hmac
  split at hstep
  · exact hstay hstep (quiet_sendLinkStatusReq s.machine)
  · split at hstep
    · exact stepOk_of_calm (hstep ▸ calm_enterFailed s.machine) rfl
    · exact hstay hstep (Quiet.refl s.machine)

/-- Every step keeps the invariant, and keeps the property exactly when it answers
no second station. -/
theorem stepOk (hI : KeyInv s) (label : Label d.aagListLen) : StepOk s label := by
  cases hfsm : s.machine.fsm with
  | matching st =>
    cases label with
    | message env msg => exact stepOk_matching_message hI hfsm env msg
    | command env command =>
      have hstep : step s.machine (.command env command) = _ :=
        handleEvent_matching env hfsm command.event
      cases command with
      | reset => exact stepOk_of_calm (hstep ▸ calm_enterReset env s.machine) rfl
      | enterBcd | leaveBcd =>
        exact stepOk_of_same hI (congrArg Machine.fsm hstep) (hstep ▸ Quiet.refl s.machine) rfl rfl
    | feed env => exact stepOk_matching_feed hI hfsm env
  | waitForLink w =>
    cases label with
    | message env msg => exact stepOk_waitForLink_message hI hfsm env msg
    | command env command =>
      have hstep : step s.machine (.command env command) = _ :=
        handleEvent_waitForLink env hfsm command.event
      cases command with
      | reset => exact stepOk_of_calm (hstep ▸ calm_enterReset env s.machine) rfl
      | enterBcd | leaveBcd =>
        exact stepOk_of_same hI (congrArg Machine.fsm hstep) (hstep ▸ Quiet.refl s.machine) rfl rfl
    | feed env => exact stepOk_waitForLink_feed hI hfsm env
  | _ => exact stepOk_idling (by rw [hfsm]; trivial)

end

/-! ## Whole runs -/

/-- **Who gets the key.** Between two entries of `ResetState` every confirmation
goes to one and the same EV, and after a whole matching exchange with it, exactly
in the runs that answer no request of a second station once a confirmation has
been sent. -/
theorem key_disclosed_only_to_matched_iff (d : Defs) (config : EvseSlacConfig)
    (labels : List (Label d.aagListLen)) :
    Always observe (fun s => DisclosedOnlyToMatched s.history) (started config) labels ↔
      Along observe OneRequester (started config) labels :=
  always_iff_along (I := KeyInv) (fun _ label hI _ _ => (stepOk hI label).inv)
    (fun _ label hI hP => (stepOk hI label).iff hP) labels trivial disclosedOnlyToMatched_nil

/-! A station that took no part in matching asks for the key while the link of a
matched EV is not up yet, and gets it. -/

theorem stranger_gets_the_key :
    ¬ Always observe (fun s => DisclosedOnlyToMatched s.history)
      (started { linkStatus.doDetect := true }) (matchedRun ++ [matchReqFrom strangerMac 1700]) :=
        by
  intro h
  have hsame := h.last.same evMac (by decide +kernel) strangerMac (by decide +kernel)
  exact absurd hsame (by decide)

end EverestCore.Slac.Evse
