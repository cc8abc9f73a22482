import EverestCore.Lib.Machine
import EverestCore.V2G.DinServer

/-!
# DIN 70121: no energy transfer by rejected requests

A connection notes what it has answered. A CurrentDemandReq may only be answered below
`FAILED` once a ContractAuthenticationReq was answered as finished and a CableCheckReq as
finished with a valid isolation.

The handlers set the next state for refused requests as well. While the connection is kept
open after a failed response, a refused PowerDeliveryReq therefore leads straight to the
state that waits for CurrentDemand.
-/

namespace EverestCore.V2G.Din

open EverestCore.Lib

/-! ## The connection loop -/

structure Answer where
  msg : V2gMsgTypeId
  res : Response
  deriving DecidableEq

structure Session where
  conn : Connection
  /-- the receiving loop is still running -/
  isOpen : Bool := true
  /-- observer: what has been answered, the latest first -/
  answers : List Answer := []

inductive Label
  | request (req : Request)
  | write (w : Write)
  | disconnect

/-- The events after which no response is sent. -/
def Outcome.answered (out : Outcome) : Bool :=
  out.event ≠ .terminateConnection && out.event ≠ .ignoreMsg

/-- The answers with the one of a request, if it is sent. -/
def Outcome.note (out : Outcome) (msg : V2gMsgTypeId) (answers : List Answer) : List Answer :=
  if out.answered then ⟨msg, out.res⟩ :: answers else answers

variable (s : Session)

def Session.handled (req : Request) : Session :=
  let out := dinHandleRequest s.conn req
  { s with conn := out.conn, answers := out.note req.body.msg s.answers }

def Session.close : Session :=
  { s with conn := s.conn.mapCtx (v2gCtxInitChargingState · true), isOpen := false }

def step : Label → Session
  | .request req =>
    if s.isOpen then
      if (dinHandleRequest s.conn req).event.closes then (s.handled req).close
      else s.handled req
    else s
  | .write w => { s with conn := s.conn.mapCtx (·.write w) }
  | .disconnect => if s.isOpen then s.close else s

def Session.start (c : Context) : Session :=
  { conn := { ctx := v2gCtxInitChargingState c false } }

/-! ## The property -/

/-- A ContractAuthenticationReq answered below `FAILED` and as finished. -/
def Answer.authorizes (a : Answer) : Bool :=
  a.msg = .authorization && !a.res.responseCode.isFailed && a.res.evseProcessing = .finished

/-- A CableCheckReq answered below `FAILED`, as finished and with a valid isolation. -/
def Answer.checks (a : Answer) : Bool :=
  a.msg = .cableCheck && !a.res.responseCode.isFailed && a.res.evseProcessing = .finished &&
    (a.res.evseIsolationStatus = .valid || a.res.evseIsolationStatus = .warning)

def Answer.demands (a : Answer) : Bool :=
  a.msg = .currentDemand && !a.res.responseCode.isFailed

/-- Before a CurrentDemandReq is answered below `FAILED`, the session has been authorized
and the cable checked. -/
def InOrder : List Answer → Prop
  | [] => True
  | a :: earlier =>
    (a.demands = true →
      earlier.any Answer.authorizes = true ∧ earlier.any Answer.checks = true) ∧
    InOrder earlier

instance InOrder.decidable : ∀ answers, Decidable (InOrder answers)
  | [] => .isTrue trivial
  | _ :: earlier =>
    have := InOrder.decidable earlier
    inferInstanceAs (Decidable (_ ∧ _))

/-- The session is authorized, and its cable checked. -/
def Session.Cleared : Prop :=
  s.answers.any Answer.authorizes = true ∧ s.answers.any Answer.checks = true
deriving Decidable

/-- Nothing speaks against a request when its code is validated. -/
def Unrefused (c : Context) (req : Request) (msg : V2gMsgTypeId) (writes : List Write) : Prop :=
  (c.writes writes).stopHlc = false ∧ (c.writes writes).intlEmergencyShutdown = false ∧
    dinAllowed c msg = true ∧ c.sessionId = req.sessionId
deriving Decidable

/-- A request that does not lead on by being refused: the phases from the charge parameters
to the energy transfer are requested in sequence, and nothing speaks against what finishes
the authorization or the cable check. -/
def Proper (c : Context) (req : Request) : Body → Prop
  | .contractAuthentication =>
    c.evseProcessing .auth = .finished → Unrefused c req .authorization req.late
  | .chargeParameterDiscovery _ => dinAllowed c .chargeParameterDiscovery = true
  | .cableCheck =>
    dinAllowed c .cableCheck = true ∧
      ((c.writes req.during).evseProcessing .isolation = .finished →
        Unrefused c req .cableCheck (req.during ++ req.late))
  | .preCharge => dinAllowed c .preCharge = true
  | .powerDelivery _ => dinAllowed c .powerDelivery = true
  | .currentDemand => dinAllowed c .currentDemand = true
  | _ => True

instance (c : Context) (req : Request) : ∀ body, Decidable (Proper c req body)
  | .contractAuthentication => inferInstanceAs (Decidable (_ → _))
  | .cableCheck => inferInstanceAs (Decidable (_ ∧ _))
  | .chargeParameterDiscovery _ | .preCharge | .powerDelivery _ | .currentDemand =>
    inferInstanceAs (Decidable (_ = _))
  | .sessionSetup _ _ _ _ | .serviceDiscovery | .servicePaymentSelection _ _
  | .weldingDetection | .sessionStop | .notSupported | .unknown => .isTrue trivial

/-- The connection is closed on failed responses, or the session is cleared already, or the
request is a proper one. -/
def Admitted (req : Request) : Prop :=
  s.conn.ctx.terminateConnectionOnFailedResponse = true ∨ s.Cleared ∨
    Proper s.conn.ctx req req.body
deriving Decidable

/-- While the connection is open, its requests are admitted ones. -/
def Orderly : Label → Prop
  | .request req => s.isOpen = true → Admitted s req
  | _ => True

instance (s : Session) : ∀ label, Decidable (Orderly s label)
  | .request _ => inferInstanceAs (Decidable (_ → _))
  | .write _ => .isTrue trivial
  | .disconnect => .isTrue trivial

/-! ## What handlers leave -/

variable (c : Context) (writes : List Write)

theorem dinAllowed_writes :
    dinAllowed (c.writes writes) (c.writes writes).currentV2gMsg =
      dinAllowed c c.currentV2gMsg := by
  apply Context.writes_of_write (f := fun c => dinAllowed c c.currentV2gMsg)
  intro c w
  cases w <;> rfl

theorem unknownSession_writes : unknownSession (c.writes writes) = unknownSession c := by
  apply Context.writes_of_write
  intro c w
  cases w <;> rfl

theorem terminates_writes :
    (c.writes writes).terminateConnectionOnFailedResponse =
      c.terminateConnectionOnFailedResponse := by
  apply Context.writes_of_write (f := Context.terminateConnectionOnFailedResponse)
  intro c w
  cases w <;> rfl

theorem allowed_of_checkedCode {c : Context} {code : ResponseCode}
    (h : (checkedCode c code).isFailed = false) : dinAllowed c c.currentV2gMsg = true := by
  unfold checkedCode at h
  dsimp only at h
  split at h
  · cases h
  · split at h
    · assumption
    · cases h

/-- How a validated outcome relates to the connection its handler was called with. -/
structure Validated (out : Outcome) : Prop where
  /-- only requests in sequence are answered below `FAILED` -/
  allowed : out.answered = true → out.res.responseCode.isFailed = false →
    dinAllowed c c.currentV2gMsg = true
  /-- an open connection has sent an answer -/
  answered : out.event.closes = false → out.answered = true
  /-- and that not a failed one, if failures close it -/
  kept : out.event.closes = false → c.terminateConnectionOnFailedResponse = true →
    out.res.responseCode.isFailed = false

variable (conn : Connection)

theorem validated_respond (late : List Write) (res : Response) (next : Context → StateId) :
    Validated conn.ctx (respond conn late res next) := by
  have hterminates := terminates_writes conn.ctx late
  have hallowed := dinAllowed_writes conn.ctx late
  unfold respond dinValidateResponseCode
  dsimp only
  split
  · -- the connection is terminated: nothing is sent
    exact ⟨nofun, nofun, nofun⟩
  · split
    · rename_i hfailed
      refine ⟨?_, nofun, nofun⟩
      intro _ hcode
      rw [Bool.and_eq_true, hcode] at hfailed
      exact absurd hfailed.2 Bool.false_ne_true
    · rename_i hkept
      refine ⟨?_, fun _ => rfl, ?_⟩
      · intro _ hcode
        exact hallowed ▸ allowed_of_checkedCode hcode
      · intro _ hflag
        rw [hterminates, hflag, Bool.true_and, Bool.not_eq_true] at hkept
        exact hkept

theorem respond_ok {conn : Connection} {late : List Write} {res : Response}
    {next : Context → StateId} (hres : res.responseCode = .ok)
    (hstop : (conn.ctx.writes late).stopHlc = false)
    (hemergency : (conn.ctx.writes late).intlEmergencyShutdown = false)
    (hallowed : dinAllowed conn.ctx conn.ctx.currentV2gMsg = true)
    (hsession : unknownSession conn.ctx = false) :
    (respond conn late res next).res.responseCode.isFailed = false := by
  have hcode : checkedCode (conn.ctx.writes late) res.responseCode = .ok := by
    unfold checkedCode
    rw [hres, hstop, hemergency, dinAllowed_writes, hallowed, unknownSession_writes, hsession]
    rfl
  unfold respond dinValidateResponseCode
  dsimp only
  rw [hcode, hres]
  split
  · rfl
  · split <;> rfl

theorem prepare_ctx (req : Request) (h : req.body ≠ .unknown) :
    ∃ charging, (prepare conn req).ctx = { conn.ctx with
      receivedSessionId := req.sessionId
      currentV2gMsg := req.body.msg
      isCharging := charging } := by
  have hannounce : ∀ (conn : Connection) msg,
      ∃ charging, (announce conn msg).ctx = { conn.ctx with isCharging := charging } := by
    intro conn msg
    unfold announce
    split
    all_goals first
      | exact ⟨_, rfl⟩
      | split <;> exact ⟨_, rfl⟩
  have hprepare : ∃ conn' : Connection, prepare conn req = announce conn' req.body.msg ∧
      conn'.ctx = { conn.ctx with
        receivedSessionId := req.sessionId, currentV2gMsg := req.body.msg } := by
    unfold prepare
    cases hbody : req.body with
    | unknown => exact absurd hbody h
    | _ => exact ⟨_, rfl, rfl⟩
  obtain ⟨conn', hconn', hctx⟩ := hprepare
  obtain ⟨charging, hcharging⟩ := hannounce conn' req.body.msg
  refine ⟨charging, ?_⟩
  rw [hconn', hcharging, hctx]

theorem prepare_writes (req : Request) (h : req.body ≠ .unknown) :
    ∃ charging, (prepare conn req).ctx.writes writes = { conn.ctx.writes writes with
      receivedSessionId := req.sessionId
      currentV2gMsg := req.body.msg
      isCharging := charging } := by
  obtain ⟨charging, hctx⟩ := prepare_ctx conn req h
  rw [hctx]
  exact ⟨charging, Context.writes_comm (f := fun c : Context => { c with
    receivedSessionId := req.sessionId, currentV2gMsg := req.body.msg, isCharging := charging })
    (by intro c w; cases w <;> rfl) conn.ctx writes⟩

/-! ## The invariant -/

/-- The states from the charge parameters on follow an authorization, those from the
precharge on a cable check. -/
structure Inv : Prop where
  authorized : 4 ≤ s.conn.ctx.state → s.conn.ctx.state ≤ 9 →
    s.answers.any Answer.authorizes = true
  checked : 6 ≤ s.conn.ctx.state → s.conn.ctx.state ≤ 9 → s.answers.any Answer.checks = true

theorem table_phases :
    ∀ state < 13, ∀ msg ∈ dinStates[state]?.getD [],
      (msg ∈ [.chargeParameterDiscovery, .cableCheck] → 4 ≤ state ∧ state ≤ 9) ∧
      (msg ∈ [.preCharge, .powerDelivery, .currentDemand] → 6 ≤ state ∧ state ≤ 9) := by
  decide

variable {msg : V2gMsgTypeId}

theorem allowed_phases {c : Context} (h : dinAllowed c msg = true) :
    (msg ∈ [.chargeParameterDiscovery, .cableCheck] → 4 ≤ c.state ∧ c.state ≤ 9) ∧
      (msg ∈ [.preCharge, .powerDelivery, .currentDemand] → 6 ≤ c.state ∧ c.state ≤ 9) := by
  have hmem : msg ∈ dinStates[c.state]?.getD [] := List.contains_iff_mem.mp h
  apply table_phases c.state _ msg hmem
  -- behind the table nothing is allowed
  by_contra hge
  rw [List.getElem?_eq_none (by simpa [dinStates] using hge)] at hmem
  cases hmem

variable {s : Session}

theorem Inv.authorized_of_allowed (hinv : Inv s)
    (hmsg : msg ∈ [.chargeParameterDiscovery, .cableCheck]) (h : dinAllowed s.conn.ctx msg = true) :
    s.answers.any Answer.authorizes = true := by
  obtain ⟨hlow, hhigh⟩ := (allowed_phases h).1 hmsg
  exact hinv.authorized hlow hhigh

theorem Inv.cleared_of_allowed (hinv : Inv s)
    (hmsg : msg ∈ [.preCharge, .powerDelivery, .currentDemand])
    (h : dinAllowed s.conn.ctx msg = true) : s.Cleared := by
  obtain ⟨hlow, hhigh⟩ := (allowed_phases h).2 hmsg
  exact ⟨hinv.authorized (by omega) hhigh, hinv.checked hlow hhigh⟩

theorem any_note {p : Answer → Bool} {answers : List Answer} (out : Outcome)
    (msg : V2gMsgTypeId) (h : answers.any p = true) : (out.note msg answers).any p = true := by
  unfold Outcome.note
  split
  · rw [List.any_cons, h, Bool.or_true]
  · exact h

variable {out : Outcome}

theorem any_note_self {p : Answer → Bool} {answers : List Answer} (hanswered : out.answered = true)
    (h : p ⟨msg, out.res⟩ = true) :
    (out.note msg answers).any p = true := by
  unfold Outcome.note
  rw [if_pos hanswered, List.any_cons, h, Bool.true_or]

theorem dinHandleRequest_fields (req : Request) :
    (dinHandleRequest conn req).res = (handle (prepare conn req) req).res ∧
      (dinHandleRequest conn req).event = (handle (prepare conn req) req).event ∧
      (dinHandleRequest conn req).conn.ctx.state =
        (handle (prepare conn req) req).conn.ctx.state := by
  unfold dinHandleRequest
  dsimp only
  split <;> exact ⟨rfl, rfl, rfl⟩

theorem handled_answers (req : Request) :
    (s.handled req).answers = (handle (prepare s.conn req) req).note req.body.msg s.answers := by
  obtain ⟨hres, hevent, -⟩ := dinHandleRequest_fields s.conn req
  unfold Session.handled Outcome.note Outcome.answered
  dsimp only
  rw [hres, hevent]

variable {req : Request}

theorem inv_of_outcome (hout : handle (prepare s.conn req) req = out)
    (hauthorized : 4 ≤ out.conn.ctx.state → out.conn.ctx.state ≤ 9 →
      (out.note req.body.msg s.answers).any Answer.authorizes = true)
    (hchecked : 6 ≤ out.conn.ctx.state → out.conn.ctx.state ≤ 9 →
      (out.note req.body.msg s.answers).any Answer.checks = true) : Inv (s.handled req) := by
  subst hout
  have hstate := (dinHandleRequest_fields s.conn req).2.2
  constructor
  · intro hlow hhigh
    rw [handled_answers]
    exact hauthorized (hstate ▸ hlow) (hstate ▸ hhigh)
  · intro hlow hhigh
    rw [handled_answers]
    exact hchecked (hstate ▸ hlow) (hstate ▸ hhigh)

theorem inv_outside (hout : handle (prepare s.conn req) req = out)
    (hstate : out.conn.ctx.state < 4 ∨ 9 < out.conn.ctx.state) : Inv (s.handled req) := by
  apply inv_of_outcome hout
  · intro hlow hhigh
    omega
  · intro hlow hhigh
    omega

theorem inv_cleared (h : s.Cleared) : Inv (s.handled req) := by
  apply inv_of_outcome rfl
  · intro _ _
    exact any_note _ _ h.1
  · intro _ _
    exact any_note _ _ h.2

theorem inv_ignored (hinv : Inv s)
    (hout : handle (prepare s.conn req) req = ⟨prepare s.conn req, {}, .ignoreMsg⟩)
    (hstate : (prepare s.conn req).ctx.state = s.conn.ctx.state) : Inv (s.handled req) := by
  apply inv_of_outcome hout
  · intro hlow hhigh
    exact hinv.authorized (hstate ▸ hlow) (hstate ▸ hhigh)
  · intro hlow hhigh
    exact hinv.checked (hstate ▸ hlow) (hstate ▸ hhigh)

theorem cleared_or_allowed (hbody : req.body ≠ .unknown) (hadmitted : Admitted s req)
    (hproper : Proper s.conn.ctx req req.body → dinAllowed s.conn.ctx req.body.msg = true)
    (hvalidated : Validated (prepare s.conn req).ctx out) (hkept : out.event.closes = false) :
    s.Cleared ∨ dinAllowed s.conn.ctx req.body.msg = true := by
  obtain ⟨charging, hctx⟩ := prepare_ctx s.conn req hbody
  rcases hadmitted with hflag | hcleared | h
  · refine .inr ?_
    rw [hctx] at hvalidated
    exact hvalidated.allowed (hvalidated.answered hkept) (hvalidated.kept hkept hflag)
  · exact .inl hcleared
  · exact .inr (hproper h)

theorem Validated.of_writes {c : Context} {writes : List Write}
    (h : Validated (c.writes writes) out) : Validated c out := by
  refine ⟨?_, h.answered, ?_⟩
  · intro hanswered hcode
    exact dinAllowed_writes c writes ▸ h.allowed hanswered hcode
  · intro hkept hflag
    exact h.kept hkept ((terminates_writes c writes).trans hflag)

theorem unrefused_prepare {conn : Connection} {writes : List Write} (hbody : req.body ≠ .unknown)
    (hmsg : req.body.msg = msg) (h : Unrefused conn.ctx req msg writes) :
    ((prepare conn req).ctx.writes writes).stopHlc = false ∧
      ((prepare conn req).ctx.writes writes).intlEmergencyShutdown = false ∧
      dinAllowed (prepare conn req).ctx (prepare conn req).ctx.currentV2gMsg = true ∧
      unknownSession (prepare conn req).ctx = false := by
  obtain ⟨charging, hctx⟩ := prepare_ctx conn req hbody
  obtain ⟨hstop, hemergency, hallowed, hsession⟩ := h
  obtain ⟨_, hwrites⟩ := prepare_writes writes conn req hbody
  rw [hwrites, hctx, hmsg]
  exact ⟨hstop, hemergency, hallowed, by simp [unknownSession, hsession]⟩

theorem validated_chargeParameter (req : ChargeParameterDiscoveryReq) (during late : List Write) :
    Validated conn.ctx (handleDinChargeParameter conn req during late) := by
  unfold handleDinChargeParameter
  exact (validated_respond (conn.mapCtx (·.writes during)) late _ _).of_writes

theorem validated_cableCheck (during late : List Write) :
    Validated conn.ctx (handleDinCableCheck conn during late) := by
  unfold handleDinCableCheck
  exact (validated_respond (conn.mapCtx (·.writes during)) late _ _).of_writes

theorem cableCheck_state {conn : Connection} {during late : List Write}
    (h : 6 ≤ (handleDinCableCheck conn during late).conn.ctx.state) :
    (conn.ctx.writes during).evseProcessing .isolation = .finished ∧
      (handleDinCableCheck conn during late).res.evseProcessing = .finished ∧
      (handleDinCableCheck conn during late).res.isolated = true := by
  have hleads : ∀ {p : Prop} [Decidable p],
      6 ≤ (if p then StateId.waitForPreCharge else .waitForCableCheck).id → p := by
    intro p _ hstate
    by_contra hp
    rw [if_neg hp] at hstate
    exact absurd hstate (by decide)
  obtain ⟨hfinished, hisolated, -⟩ := hleads h
  refine ⟨?_, hfinished, hisolated⟩
  unfold dinProcessing at hfinished
  split at hfinished
  · assumption
  · cases hfinished

theorem cableCheck_ok {conn : Connection} {during late : List Write}
    (hstop : (conn.ctx.writes (during ++ late)).stopHlc = false)
    (hemergency : (conn.ctx.writes (during ++ late)).intlEmergencyShutdown = false)
    (hallowed : dinAllowed conn.ctx conn.ctx.currentV2gMsg = true)
    (hsession : unknownSession conn.ctx = false) :
    (handleDinCableCheck conn during late).res.responseCode.isFailed = false := by
  have happend : conn.ctx.writes (during ++ late) = (conn.ctx.writes during).writes late :=
    List.foldl_append
  rw [happend] at hstop hemergency
  unfold handleDinCableCheck
  apply respond_ok rfl hstop hemergency
  · exact (dinAllowed_writes conn.ctx during).trans hallowed
  · exact (unknownSession_writes conn.ctx during).trans hsession

theorem validated_powerDelivery (req : PowerDeliveryReq) (late : List Write) :
    Validated conn.ctx (handleDinPowerDelivery conn req late) := by
  have hctx : ∀ {out}, Validated (announceDelivery conn req).ctx out → Validated conn.ctx out := by
    intro out h
    unfold announceDelivery at h
    split at h <;> exact ⟨h.allowed, h.answered, h.kept⟩
  unfold handleDinPowerDelivery
  dsimp only
  split
  · exact hctx (validated_respond _ _ _ _)
  · split
    · exact ⟨nofun, nofun, nofun⟩
    · exact hctx (validated_respond _ _ _ _)

section

variable (hadmitted : Admitted s req)
  (hkept : (handle (prepare s.conn req) req).event.closes = false)

include hadmitted hkept

theorem inv_transfer (hinv : Inv s)
    (hmsg : req.body.msg ∈ [.preCharge, .powerDelivery, .currentDemand])
    (hproper : Proper s.conn.ctx req req.body → dinAllowed s.conn.ctx req.body.msg = true)
    (hvalidated : Validated (prepare s.conn req).ctx (handle (prepare s.conn req) req)) :
    Inv (s.handled req) := by
  have hne : req.body ≠ .unknown := by
    intro h
    simp [h, Body.msg] at hmsg
  rcases cleared_or_allowed hne hadmitted hproper hvalidated hkept with hcleared | hallowed
  · exact inv_cleared hcleared
  · exact inv_cleared (hinv.cleared_of_allowed hmsg hallowed)

theorem inv_contractAuthentication (hbody : req.body = .contractAuthentication) :
    Inv (s.handled req) := by
  have hne : req.body ≠ .unknown := by simp [hbody]
  have hhandle : handle (prepare s.conn req) req =
      handleDinContractAuthentication (prepare s.conn req) req.late := by
    unfold handle
    rw [hbody]
  obtain ⟨charging, hctx⟩ := prepare_ctx s.conn req hne
  have hprocessing : (prepare s.conn req).ctx.evseProcessing = s.conn.ctx.evseProcessing := by
    rw [hctx]
  rw [hhandle] at hkept
  unfold handleDinContractAuthentication dinProcessing at hhandle hkept
  rw [hprocessing] at hhandle hkept
  by_cases hfinished : s.conn.ctx.evseProcessing .auth = .finished
  · rw [if_pos hfinished] at hhandle hkept
    have hvalidated := validated_respond (prepare s.conn req) req.late
      { evseProcessing := .finished } fun _ => .waitForChargeParameterDiscovery
    -- the answer says finished; it is left to see that its code is not a failed one
    have hgranted : (respond (prepare s.conn req) req.late { evseProcessing := .finished }
        fun _ => .waitForChargeParameterDiscovery).res.responseCode.isFailed = false →
        Inv (s.handled req) := by
      intro hcode
      apply inv_of_outcome hhandle
      · intro _ _
        apply any_note_self (hvalidated.answered hkept)
        rw [hbody]
        show (true && !_ && true) = true
        rw [hcode]
        rfl
      · intro hlow _
        exact absurd hlow (show ¬ 6 ≤ 4 by decide)
    rcases hadmitted with hflag | hcleared | hproper
    · apply hgranted
      apply hvalidated.kept hkept
      rw [hctx]
      exact hflag
    · exact inv_cleared hcleared
    · rw [hbody] at hproper
      obtain ⟨hstop, hemergency, hallowed, hsession⟩ :=
        unrefused_prepare hne (by rw [hbody]; rfl) (hproper hfinished)
      exact hgranted (respond_ok rfl hstop hemergency hallowed hsession)
  · -- still waiting for the authorization
    rw [if_neg hfinished] at hhandle
    exact inv_outside hhandle (.inl (show 3 < 4 by decide))

theorem inv_chargeParameterDiscovery {param : ChargeParameterDiscoveryReq} (hinv : Inv s)
    (hbody : req.body = .chargeParameterDiscovery param) : Inv (s.handled req) := by
  obtain ⟨sessionId, body, during, late⟩ := req
  cases hbody
  rcases cleared_or_allowed (by nofun) hadmitted id
    (validated_chargeParameter _ param during late) hkept with hcleared | hallowed
  · exact inv_cleared hcleared
  · apply inv_of_outcome rfl
    · intro _ _
      exact any_note _ _ (hinv.authorized_of_allowed List.mem_cons_self hallowed)
    · -- the request never leads to the states from the precharge on
      unfold handle handleDinChargeParameter respond
      dsimp only
      split
      · split <;> exact fun hlow hhigh => absurd hhigh (by revert hlow; decide)
      · exact fun hlow => absurd hlow (by decide)

theorem inv_cableCheck (hinv : Inv s) (hbody : req.body = .cableCheck) : Inv (s.handled req) := by
  obtain ⟨sessionId, body, during, late⟩ := req
  cases hbody
  obtain ⟨charging, hctx⟩ := prepare_ctx s.conn ⟨sessionId, .cableCheck, during, late⟩ nofun
  have hvalidated := validated_cableCheck
    (prepare s.conn ⟨sessionId, .cableCheck, during, late⟩) during late
  rcases cleared_or_allowed (by nofun) hadmitted And.left hvalidated hkept with
    hcleared | hallowed
  · exact inv_cleared hcleared
  · apply inv_of_outcome rfl
    · intro _ _
      exact any_note _ _ (hinv.authorized_of_allowed (by simp [Body.msg]) hallowed)
    · intro hlow _
      obtain ⟨hprocessing, hfinished, hisolated⟩ := cableCheck_state hlow
      -- with a code that is not failed, this answer is a check
      have hchecks : ∀ {res : Response}, res.responseCode.isFailed = false →
          res.evseProcessing = .finished → res.isolated = true →
          Answer.checks ⟨.cableCheck, res⟩ = true := by
        intro res hcode hfinished hisolated
        unfold Response.isolated at hisolated
        unfold Answer.checks
        simp_all
      rcases hadmitted with hflag | hcleared | hproper
      · apply any_note_self (hvalidated.answered hkept)
        refine hchecks (hvalidated.kept hkept ?_) hfinished hisolated
        rw [hctx]
        exact hflag
      · exact any_note _ _ hcleared.2
      · obtain ⟨_, hwrites⟩ := prepare_writes during s.conn
          ⟨sessionId, .cableCheck, during, late⟩ nofun
        rw [hwrites] at hprocessing
        obtain ⟨hstop, hemergency, hallowed, hsession⟩ :=
          unrefused_prepare (by nofun) rfl (hproper.2 hprocessing)
        apply any_note_self (hvalidated.answered hkept)
        exact hchecks (cableCheck_ok hstop hemergency hallowed hsession) hfinished hisolated

end

/-- A request that is admitted keeps this. -/
theorem inv_handled (hinv : Inv s) (hadmitted : Admitted s req)
    (hkept : (dinHandleRequest s.conn req).event.closes = false) : Inv (s.handled req) := by
  rw [(dinHandleRequest_fields s.conn req).2.1] at hkept
  obtain ⟨sessionId, body, during, late⟩ := req
  cases body with
  | contractAuthentication => exact inv_contractAuthentication hadmitted hkept rfl
  | chargeParameterDiscovery param => exact inv_chargeParameterDiscovery hadmitted hkept hinv rfl
  | cableCheck => exact inv_cableCheck hadmitted hkept hinv rfl
  -- requests before the authorization and after the energy transfer
  | sessionSetup | serviceDiscovery | servicePaymentSelection =>
    exact inv_outside rfl (.inl (Nat.le_of_ble_eq_true rfl))
  | weldingDetection | sessionStop => exact inv_outside rfl (.inr (Nat.le_of_ble_eq_true rfl))
  -- the energy transfer
  | preCharge | currentDemand =>
    refine inv_transfer hadmitted hkept hinv (by simp [Body.msg]) id ?_
    unfold handle
    exact validated_respond _ _ _ _
  | powerDelivery delivery =>
    exact inv_transfer hadmitted hkept hinv (by simp [Body.msg]) id
      (validated_powerDelivery _ delivery late)
  -- ignored requests
  | notSupported =>
    obtain ⟨charging, hctx⟩ := prepare_ctx s.conn ⟨sessionId, .notSupported, during, late⟩ nofun
    exact inv_ignored hinv rfl (by rw [hctx])
  | unknown => exact inv_ignored hinv rfl rfl

/-! ## Runs -/

/-- The answers are in order, and an open connection has the invariant. -/
structure Good (s : Session) : Prop where
  inOrder : InOrder s.answers
  inv : s.isOpen = true → Inv s

theorem good_start : Good (Session.start c) := by
  refine ⟨trivial, fun _ => ⟨?_, ?_⟩⟩ <;> exact fun h => absurd h (Nat.not_succ_le_zero _)

theorem inOrder_handled (req : Request) (hinv : Inv s) (horder : InOrder s.answers) :
    InOrder (s.handled req).answers := by
  rw [handled_answers]
  unfold Outcome.note
  split
  · rename_i hanswered
    refine ⟨?_, horder⟩
    intro hdemands
    unfold Answer.demands at hdemands
    simp only [Bool.and_eq_true, decide_eq_true_eq, Bool.not_eq_true'] at hdemands
    obtain ⟨hmsg, hcode⟩ := hdemands
    cases hbody : req.body with
    | currentDemand =>
      -- below `FAILED` only in sequence
      have hne : req.body ≠ .unknown := by simp [hbody]
      obtain ⟨charging, hctx⟩ := prepare_ctx s.conn req hne
      have hhandle : handle (prepare s.conn req) req =
          handleDinCurrentDemand (prepare s.conn req) req.late := by
        unfold handle
        rw [hbody]
      rw [hhandle] at hanswered hcode
      have hallowed := (validated_respond _ _ _ _).allowed hanswered hcode
      rw [hctx, hbody] at hallowed
      exact hinv.cleared_of_allowed (by simp [Body.msg]) hallowed
    | _ =>
      rw [hbody] at hmsg
      cases hmsg
  · exact horder

theorem good_step (s : Session) (label : Label) (hgood : Good s) (horderly : Orderly s label) :
    Good (step s label) := by
  cases label with
  | request req =>
    rw [step]
    split
    · rename_i hopen
      have horder := inOrder_handled req (hgood.inv hopen) hgood.inOrder
      split
      · exact ⟨horder, nofun⟩
      · rename_i hkept
        refine ⟨horder, fun _ => ?_⟩
        exact inv_handled (hgood.inv hopen) (horderly hopen) (Bool.eq_false_iff.mpr hkept)
    · exact hgood
  | write w =>
    refine ⟨hgood.inOrder, fun hopen => ?_⟩
    have hstate : (s.conn.ctx.write w).state = s.conn.ctx.state := by cases w <;> rfl
    obtain ⟨hauthorized, hchecked⟩ := hgood.inv hopen
    exact ⟨hstate ▸ hauthorized, hstate ▸ hchecked⟩
  | disconnect =>
    rw [step]
    split
    · exact ⟨hgood.inOrder, nofun⟩
    · exact hgood

/-- While its requests are orderly, a connection only answers a CurrentDemandReq below
`FAILED` once the session is authorized and the cable checked. -/
theorem energy_transfer_in_order (c : Context) (labels : List Label)
    (h : Along step Orderly (Session.start c) labels) :
    Always step (fun s => InOrder s.answers) (Session.start c) labels :=
  always_of_along good_step (fun _ hgood => hgood.inOrder) (good_start c) h

/-- A whole session up to the energy transfer; the charger authorizes and finishes the
cable check. -/
def chargingFlow : List Label :=
  [.request { sessionId := 0, body := .sessionSetup 0 0 0 7 },
   .request { sessionId := 7, body := .serviceDiscovery },
   .request { sessionId := 7, body := .servicePaymentSelection .externalPayment [1] },
   .request { sessionId := 7, body := .contractAuthentication },
   .write (.evseProcessing .auth .finished),
   .request { sessionId := 7, body := .contractAuthentication },
   .request
     { sessionId := 7
       body := .chargeParameterDiscovery
         { evRequestedEnergyTransferType := .dcExtended, acEVChargeParameterIsUsed := false } },
   .request
     { sessionId := 7, body := .cableCheck
       during := [.evseIsolationStatus .valid, .evseProcessing .isolation .finished] },
   .request { sessionId := 7, body := .cableCheck },
   .request { sessionId := 7, body := .preCharge },
   .request
     { sessionId := 7
       body := .powerDelivery { readyToChargeState := 1, saScheduleTupleId := some 1 } },
   .request { sessionId := 7, body := .currentDemand }]

def initialised : Context := v2gCtxInitChargingSession {} false

theorem chargingFlow_in_order :
    Along step Orderly (Session.start initialised) chargingFlow ∧
      Always step (fun s => InOrder s.answers) (Session.start initialised) chargingFlow ∧
      (run step (Session.start initialised) chargingFlow).answers.any Answer.demands = true := by
  have h : Along step Orderly (Session.start initialised) chargingFlow := by decide +kernel
  exact ⟨h, energy_transfer_in_order initialised chargingFlow h, by decide +kernel⟩

/-- Session setup, then PowerDelivery and CurrentDemand. -/
def skippingFlow : List Label :=
  [.request { sessionId := 0, body := .sessionSetup 0 0 0 7 },
   .request
     { sessionId := 7
       body := .powerDelivery { readyToChargeState := 1, saScheduleTupleId := none } },
   .request { sessionId := 7, body := .currentDemand }]

/-- The PowerDeliveryReq is refused, the CurrentDemandReq is answered with `OK`; nothing else
has been answered but the session setup. -/
theorem refused_delivery_reaches_current_demand :
    ¬ Always step (fun s => InOrder s.answers) (Session.start initialised) skippingFlow ∧
      (run step (Session.start initialised) skippingFlow).answers.map
          (fun a => (a.msg, a.res.responseCode)) =
        [(.currentDemand, .ok), (.powerDelivery, .failedSequenceError),
         (.sessionSetup, .okNewSessionEstablished)] := by
  refine ⟨fun h => ?_, by decide +kernel⟩
  have hlast : ¬ InOrder (run step (Session.start initialised) skippingFlow).answers := by
    decide +kernel
  exact hlast h.last

end EverestCore.V2G.Din
