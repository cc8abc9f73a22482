import EverestCore.Slac.EvseMatching

/-!
# What happens to the matching sessions

One lemma for each way a session can change: a message changes the session it
identifies and no other, and a callback takes sessions through expired deadlines.
-/

namespace EverestCore.Slac.Evse

open EverestCore.Slac MatchingSession List

/-! ## Looking sessions up -/

theorem mem_replaceF_ite {α : Type} {p : α → Bool} {f : α → α} {l : List α} {x : α}
    (h : x ∈ l.replaceF fun a => if p a then some (f a) else none) :
    x ∈ l ∨ ∃ found, l.find? p = some found ∧ x = f found := by
  induction l with
  | nil => exact .inl h
  | cons first rest ih =>
    rw [replaceF_cons] at h
    rw [find?_cons]
    cases hp : p first with
    | true =>
      simp only [hp, if_true, mem_cons] at h ⊢
      rcases h with rfl | h
      · exact .inr ⟨first, rfl, rfl⟩
      · exact .inl (.inr h)
    | false =>
      simp only [hp, Bool.false_eq_true, if_false, mem_cons] at h ⊢
      rcases h with rfl | h
      · exact .inl (.inl rfl)
      · rcases ih h with h | h
        · exact .inl (.inr h)
        · exact .inr h

section

variable {n : Nat} {sessions : List (MatchingSession n)} {evMac : Mac} {runId : RunId}
    {session : MatchingSession n}

theorem findSession_eq_some (h : findSession sessions evMac runId = some session) :
    session ∈ sessions ∧ session.evMac = evMac ∧ session.runId = runId := by
  have hid := find?_some h
  simp only [isIdentifiedBy, Bool.and_eq_true, beq_iff_eq] at hid
  exact ⟨mem_of_find?_eq_some h, hid.2.symm, hid.1.symm⟩

variable {f : MatchingSession n → MatchingSession n}

/-- A message changes one session. -/
theorem mem_updateSession (h : session ∈ updateSession sessions evMac runId f) :
    session ∈ sessions ∨
      ∃ found, findSession sessions evMac runId = some found ∧ session = f found :=
  mem_replaceF_ite h

theorem updateSession_eq_nil : updateSession sessions evMac runId f = [] ↔ sessions = [] := by
  rw [← length_eq_zero_iff, ← length_eq_zero_iff, updateSession, length_replaceF]

theorem updateSessionByMac_eq_nil : updateSessionByMac sessions evMac f = [] ↔ sessions = [] := by
  rw [← length_eq_zero_iff, ← length_eq_zero_iff, updateSessionByMac,
    length_reverse, length_replaceF, length_reverse]

theorem mem_updateSessionByMac (h : session ∈ updateSessionByMac sessions evMac f) :
    session ∈ sessions ∨
      ∃ found, findSessionByMac sessions evMac = some found ∧ session = f found := by
  rcases mem_replaceF_ite (mem_reverse.mp h) with h | h
  · exact .inl (mem_reverse.mp h)
  · exact .inr h

theorem findSessionByMac_eq_some (h : findSessionByMac sessions evMac = some session) :
    session ∈ sessions ∧ session.evMac = evMac := by
  have hmac : (evMac == session.evMac) = true :=
    find?_some (p := fun s : MatchingSession n => evMac == s.evMac) h
  exact ⟨mem_reverse.mp (mem_of_find?_eq_some h), (eq_of_beq hmac).symm⟩

end

section

variable {d : Defs} {config : EvseSlacConfig} {now : Int} {m : MatchingState d.aagListLen}

theorem sessionIn_iff {evMac : Mac} {state : MatchingSubState} {runId : RunId} :
    sessionIn d evMac m state runId = true ↔
      ∃ session, findSession m.sessions evMac runId = some session ∧ session.state = state := by
  unfold sessionIn
  cases findSession m.sessions evMac runId with
  | none => simp
  | some session => simp

/-! ## Messages -/

/-- What holds of a new session, and stays when a message changes its session, holds of all. -/
theorem sessions_handleSlacMessage {P : MatchingSession d.aagListLen → Prop} {evMac : Mac}
    (hnew : ∀ runId, P (setNextTimeout now d.ttMatchSequenceMs { evMac, runId }))
    (hmove : ∀ session state ms, state ≠ .receivedSlacMatch → P session →
      P (setNextTimeout now ms { session with state }))
    (hsound : ∀ session, P session → P { session with receivedMnbcSound := true })
    (hprofile : ∀ p session, P session → P (captureProfile d now p session))
    (payload : Payload d.aagListLen) (h : ∀ session ∈ m.sessions, P session) :
    ∀ session ∈ (handleSlacMessage d config now evMac m payload).1.sessions, P session := by
  have hupdate : ∀ runId f, (∀ session, P session → P (f session)) →
      ∀ session ∈ updateSession m.sessions evMac runId f, P session := by
    intro runId f hf session hs
    rcases mem_updateSession hs with hs | ⟨found, hfound, rfl⟩
    · exact h session hs
    · exact hf found (h found (findSession_eq_some hfound).1)
  cases payload with
  | cmSlacParmReq p =>
    dsimp only [handleSlacMessage, handleCmSlacParmReq]
    split
    · split
      · exact hupdate _ _ fun _ _ => hnew _
      · exact forall_mem_append.mpr ⟨h, forall_mem_singleton.mpr (hnew _)⟩
    · exact h
  | cmAttenProfileInd p =>
    dsimp only [handleSlacMessage, handleCmAttenProfileInd]
    split
    · split
      · intro session hs
        rcases mem_updateSessionByMac hs with hs | ⟨found, hfound, rfl⟩
        · exact h session hs
        · exact hprofile p found (h found (findSessionByMac_eq_some hfound).1)
      · exact h
    · exact h
  | cmMnbcSoundInd p =>
    dsimp only [handleSlacMessage, handleCmMnbcSoundInd]
    split
    · exact hupdate _ _ hsound
    · exact h
  | cmStartAttenCharInd p | cmAttenCharRsp p | cmSlacMatchReq p =>
    dsimp only [handleSlacMessage, handleCmStartAttenCharInd, handleCmAttenCharRsp,
      handleCmSlacMatchReq]
    split
    · exact hupdate _ _ fun session => hmove session _ _ (by simp)
    · exact h
  | _ => exact h

theorem seen_handleSlacMessage (evMac : Mac) (payload : Payload d.aagListLen)
    (h : m.seenSlacParmReq = true ↔ m.sessions ≠ []) :
    (handleSlacMessage d config now evMac m payload).1.seenSlacParmReq = true ↔
      (handleSlacMessage d config now evMac m payload).1.sessions ≠ [] := by
  cases payload with
  | cmSlacParmReq p =>
    dsimp only [handleSlacMessage, handleCmSlacParmReq]
    split
    · split
      · next hfound =>
        simp [updateSession_eq_nil, ne_nil_of_mem (findSession_eq_some hfound).1]
      · simp
    · exact h
  | cmAttenProfileInd p =>
    dsimp only [handleSlacMessage, handleCmAttenProfileInd]
    split
    · split
      · simpa [updateSessionByMac_eq_nil] using h
      · exact h
    · exact h
  | cmStartAttenCharInd p | cmMnbcSoundInd p | cmAttenCharRsp p | cmSlacMatchReq p =>
    dsimp only [handleSlacMessage, handleCmStartAttenCharInd, handleCmMnbcSoundInd,
      handleCmAttenCharRsp, handleCmSlacMatchReq]
    split
    · simpa [updateSession_eq_nil] using h
    · exact h
  | _ => exact h

/-! ## Deadlines -/

/-- The deadline has passed before the session is complete. -/
def Expired (now : Int) (session : MatchingSession d.aagListLen) : Prop :=
  session.timeoutActive = true ∧ session.state ≠ .matchComplete ∧
    millisecondsLeft now session.nextTimeout ≤ 0

variable {session : MatchingSession d.aagListLen} {done rest : List (MatchingSession d.aagListLen)}

section

variable {I : List (Out d.aagListLen) → MatchingSession d.aagListLen → Prop}
    (hmono : ∀ outs more session, I outs session → I (outs ++ more) session)
    (hstep : ∀ outs session, Expired now session → I outs session →
      I (outs ++ (handleTimeout d config now session).2) (handleTimeout d config now session).1)

include hstep

theorem timeoutLoop_induct (fuel : Nat) (outs : List (Out d.aagListLen)) (h : I outs session) :
    I (outs ++ (timeoutLoop d config now fuel session).2.1)
      (timeoutLoop d config now fuel session).1 := by
  induction fuel generalizing outs session with
  | zero => simpa [timeoutLoop] using h
  | succ fuel ih =>
    rw [timeoutLoop]
    split
    · simpa using h
    · split
      · simpa using h
      · split
        · simpa using h
        · next hactive hstate hleft =>
            have hexp : Expired now session := ⟨by simpa using hactive, hstate, Int.not_lt.mp hleft⟩
            simpa using ih _ (hstep outs session hexp h)

include hmono

theorem checkSessions_induct {callBackMs : Option Int} {outs : List (Out d.aagListLen)}
    (hdone : ∀ session ∈ done, I outs session)
    (hrest : ∀ session ∈ rest, I outs session) :
    ∀ session ∈ (checkSessions d config now done callBackMs rest).1,
      I (outs ++ (checkSessions d config now done callBackMs rest).2.1) session := by
  induction rest generalizing done callBackMs outs with
  | nil => simpa [checkSessions] using hdone
  | cons first rest ih =>
    have hfirst : I (outs ++ (checkTimeouts d config now first).2.1)
        (checkTimeouts d config now first).1 :=
      timeoutLoop_induct hstep _ _ (hrest first mem_cons_self)
    have hrest' : ∀ session ∈ rest,
        I (outs ++ (checkTimeouts d config now first).2.1) session := fun session hs =>
      hmono _ _ _ (hrest session (mem_cons_of_mem _ hs))
    have hdone' : ∀ session ∈ done,
        I (outs ++ (checkTimeouts d config now first).2.1) session := fun session hs =>
      hmono _ _ _ (hdone session hs)
    -- wherever the loop stops, the list is made of the same three parts
    have hall : ∀ session ∈ done ++ (checkTimeouts d config now first).1 :: rest,
        I (outs ++ (checkTimeouts d config now first).2.1) session :=
      forall_mem_append.mpr ⟨hdone', forall_mem_cons.mpr ⟨hfirst, hrest'⟩⟩
    rw [checkSessions]
    split
    · exact hall
    · split
      · exact hall
      · have hlooked : ∀ session ∈ done ++ [(checkTimeouts d config now first).1],
            I (outs ++ (checkTimeouts d config now first).2.1) session :=
          forall_mem_append.mpr ⟨hdone', forall_mem_singleton.mpr hfirst⟩
        intro session hs
        have hnext := ih hlooked hrest' session hs
        rwa [append_assoc] at hnext

/-- What a missed deadline keeps, the callback keeps. -/
theorem callback_induct (h : ∀ session ∈ m.sessions, I [] session) :
    ∀ session ∈ (callback d config now m).1.sessions,
      I (callback d config now m).2.1 session := by
  unfold callback
  split
  · exact h
  · intro session hs
    have hnext := checkSessions_induct hmono hstep (by simp) h session hs
    rwa [nil_append] at hnext

end

theorem timeoutsLeft_handleTimeout (config : EvseSlacConfig) (now : Int)
    (session : MatchingSession d.aagListLen) :
    timeoutsLeft d (handleTimeout d config now session).1 < timeoutsLeft d session ∨
      (handleTimeout d config now session).1.timeoutActive = false := by
  cases hstate : session.state with
  | waitForStartAttenChar | waitForSlacMatch | receivedSlacMatch | matchComplete | failed =>
    right
    simp [handleTimeout, ackTimeout, hstate]
  | sounding | finalizeSounding =>
    left
    simp [handleTimeout, ackTimeout, setNextTimeout, finalizeSounding, timeoutsLeft, hstate]
  | waitForAttenCharRsp =>
    by_cases hretry : session.numRetries + 1 ≤ d.cEvMatchRetry
    · left
      simp only [handleTimeout, ackTimeout, setNextTimeout,
        finalizeSounding, timeoutsLeft, hstate, hretry, if_true]
      omega
    · right
      simp [handleTimeout, ackTimeout, hstate, hretry]

def LoopEnded (now : Int) (session : MatchingSession d.aagListLen) : LoopEnd → Prop
  | .complete => session.timeoutActive = true ∧ session.state = .matchComplete
  | .remaining ms =>
    session.timeoutActive = true ∧ session.state ≠ .matchComplete ∧
      ms = millisecondsLeft now session.nextTimeout ∧ 0 < ms
  | .inactive => session.timeoutActive = false

theorem timeoutLoop_ends (fuel : Nat)
    (h : session.timeoutActive = false ∨ timeoutsLeft d session < fuel) (hfuel : 0 < fuel) :
    LoopEnded now (timeoutLoop d config now fuel session).1
      (timeoutLoop d config now fuel session).2.2 := by
  induction fuel generalizing session with
  | zero => omega
  | succ fuel ih =>
    rw [timeoutLoop]
    split
    · assumption
    · next hactive =>
      have hactive : session.timeoutActive = true := by simpa using hactive
      split
      · next hstate => exact ⟨hactive, hstate⟩
      · next hstate =>
        split
        · next hleft => exact ⟨hactive, hstate, rfl, hleft⟩
        · -- one deadline is over; what is left of the fuel still covers the others
          have hlt : timeoutsLeft d session < fuel + 1 := by
            rcases h with h | h
            · exact absurd h (by simp [hactive])
            · exact h
          have hpos : 0 < timeoutsLeft d session := by
            unfold timeoutsLeft
            split <;> omega
          refine ih ?_ (by omega)
          rcases timeoutsLeft_handleTimeout config now session with hnext | hnext
          · exact .inr (by omega)
          · exact .inl hnext

/-! ## The callback -/

/-- What a session sends when its sounding is over. -/
def soundingResult (config : EvseSlacConfig) (session : MatchingSession d.aagListLen) :
    Out d.aagListLen :=
  .send session.evMac (.cmAttenCharInd (createCmAttenCharInd d config session))

/-- A deadline changes nothing that is reported. -/
theorem handleTimeout_eq (config : EvseSlacConfig) (now : Int)
    (session : MatchingSession d.aagListLen) :
    ∃ state nextTimeout timeoutActive numRetries, (handleTimeout d config now session).1 =
      { session with state, nextTimeout, timeoutActive, numRetries } := by
  unfold handleTimeout
  dsimp only [ackTimeout]
  split
  case h_4 => split <;> exact ⟨_, _, _, _, rfl⟩
  all_goals exact ⟨_, _, _, _, rfl⟩

theorem handleTimeout_sends (session : MatchingSession d.aagListLen) :
    ∀ out ∈ (handleTimeout d config now session).2, out = soundingResult config session := by
  intro out hout
  cases hstate : session.state with
  | finalizeSounding =>
    simp only [handleTimeout, ackTimeout, hstate] at hout
    exact mem_singleton.mp hout
  | waitForAttenCharRsp =>
    simp only [handleTimeout, ackTimeout, hstate] at hout
    split at hout
    · exact mem_singleton.mp hout
    · cases hout
  | _ => simp [handleTimeout, ackTimeout, hstate] at hout

theorem timeoutLoop_sends (fuel : Nat) (session : MatchingSession d.aagListLen) :
    ∀ out ∈ (timeoutLoop d config now fuel session).2.1, out = soundingResult config session := by
  induction fuel generalizing session with
  | zero => simp [timeoutLoop]
  | succ fuel ih =>
    rw [timeoutLoop]
    split
    · simp
    · split
      · simp
      · split
        · simp
        · refine forall_mem_append.mpr ⟨handleTimeout_sends session, fun out hout => ?_⟩
          obtain ⟨_, _, _, _, heq⟩ := handleTimeout_eq config now session
          refine (ih _ out hout).trans ?_
          rw [heq]
          rfl

theorem checkSessions_sends (done rest : List (MatchingSession d.aagListLen))
    (callBackMs : Option Int) :
    ∀ out ∈ (checkSessions d config now done callBackMs rest).2.1,
      ∃ session ∈ rest, out = soundingResult config session := by
  induction rest generalizing done callBackMs with
  | nil => simp [checkSessions]
  | cons first rest ih =>
    have hfirst : ∀ out ∈ (checkTimeouts d config now first).2.1,
        ∃ session ∈ first :: rest, out = soundingResult config session := fun out hout =>
      ⟨first, mem_cons_self, timeoutLoop_sends _ first out hout⟩
    rw [checkSessions]
    split
    · exact hfirst
    · split
      · exact hfirst
      · refine forall_mem_append.mpr ⟨hfirst, fun out hout => ?_⟩
        obtain ⟨session, hmem, hsent⟩ := ih _ _ out hout
        exact ⟨session, mem_cons_of_mem _ hmem, hsent⟩

variable (m : MatchingState d.aagListLen)

theorem callback_sends :
    ∀ out ∈ (callback d config now m).2.1,
      ∃ session ∈ m.sessions, out = soundingResult config session := by
  unfold callback
  split
  · simp
  · exact checkSessions_sends _ _ _

theorem length_checkSessions (done rest : List (MatchingSession d.aagListLen))
    (callBackMs : Option Int) :
    (checkSessions d config now done callBackMs rest).1.length = done.length + rest.length := by
  induction rest generalizing done callBackMs with
  | nil => rfl
  | cons first rest ih =>
    rw [checkSessions]
    split
    · simp
    · split
      · simp
      · rw [ih]
        simp only [length_append, length_cons, length_nil]
        omega

theorem checkSessions_matchComplete {callBackMs : Option Int}
    (h : (checkSessions d config now done callBackMs rest).2.2 = .matchComplete) :
    ∃ session ∈ (checkSessions d config now done callBackMs rest).1,
      session.state = .matchComplete := by
  induction rest generalizing done callBackMs with
  | nil => cases callBackMs <;> simp [checkSessions] at h
  | cons first rest ih =>
    rw [checkSessions] at h ⊢
    split at h
    · next hcomplete =>
      have hend : LoopEnded now (checkTimeouts d config now first).1
          (checkTimeouts d config now first).2.2 :=
        timeoutLoop_ends _ (.inr (Nat.lt_succ_self _)) (Nat.succ_pos _)
      rw [hcomplete] at hend
      rw [if_pos hcomplete]
      exact ⟨_, mem_append_cons_self, hend.2⟩
    · next hcomplete =>
      split at h
      · exact absurd h (by simp)
      · next hfailed =>
        rw [if_neg hcomplete, if_neg hfailed]
        exact ih h

theorem callback_matchComplete (h : (callback d config now m).2.2 = .matchComplete) :
    ∃ session ∈ (callback d config now m).1.sessions, session.state = .matchComplete := by
  unfold callback at h ⊢
  split at h
  · exact absurd h (by simp)
  · next hseen =>
    rw [if_neg hseen]
    exact checkSessions_matchComplete h

theorem callback_sessions_eq_nil : (callback d config now m).1.sessions = [] ↔ m.sessions = [] := by
  unfold callback
  split
  · exact Iff.rfl
  · rw [← length_eq_zero_iff, ← length_eq_zero_iff, length_checkSessions, length_nil, Nat.zero_add]

theorem callback_state :
    (callback d config now m).1 =
      { m with sessions := (callback d config now m).1.sessions } := by
  unfold callback
  split <;> rfl

end

end EverestCore.Slac.Evse
