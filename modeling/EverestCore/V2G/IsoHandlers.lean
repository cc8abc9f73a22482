import EverestCore.V2G.IsoServer

/-!
# ISO 15118-2: what the handlers keep

For the order of a session it matters which state a handler leads to, what it does to the
payment data, and whether it leaves the connection open.
-/

namespace EverestCore.V2G.Iso

/-! ## What handlers and writes leave alone -/

/-- The fields that decide about the sequence are the same. -/
structure Frame (before after : Context) : Prop where
  state : after.state = before.state
  isDcCharger : after.isDcCharger = before.isDcCharger
  behindAcStates : after.behindAcStates = before.behindAcStates
  currentV2gMsg : after.currentV2gMsg = before.currentV2gMsg
  lastV2gMsg : after.lastV2gMsg = before.lastV2gMsg
  terminates : after.terminateConnectionOnFailedResponse =
    before.terminateConnectionOnFailedResponse
  option : after.isoSelectedPaymentOption = before.isoSelectedPaymentOption
  sessionId : after.sessionId = before.sessionId
  receivedSessionId : after.receivedSessionId = before.receivedSessionId

variable (c : Context)

theorem Frame.refl : Frame c c := ⟨rfl, rfl, rfl, rfl, rfl, rfl, rfl, rfl, rfl⟩

theorem Frame.trans {a b c : Context} (hab : Frame a b) (hbc : Frame b c) : Frame a c :=
  ⟨hbc.state.trans hab.state, hbc.isDcCharger.trans hab.isDcCharger,
    hbc.behindAcStates.trans hab.behindAcStates, hbc.currentV2gMsg.trans hab.currentV2gMsg,
    hbc.lastV2gMsg.trans hab.lastV2gMsg, hbc.terminates.trans hab.terminates,
    hbc.option.trans hab.option, hbc.sessionId.trans hab.sessionId,
    hbc.receivedSessionId.trans hab.receivedSessionId⟩

theorem frame_write (w : Write) : Frame c (c.write w) := by
  cases w <;> exact ⟨rfl, rfl, rfl, rfl, rfl, rfl, rfl, rfl, rfl⟩

theorem frame_writes (during : List Write) : Frame c (c.writes during) := by
  induction during generalizing c with
  | nil => exact Frame.refl c
  | cons w rest ih => exact (frame_write c w).trans (ih (c.write w))

theorem Frame.isoAllowed {before after : Context} (h : Frame before after)
    (msg : V2gMsgTypeId) : isoAllowed after msg = isoAllowed before msg := by
  unfold Iso.isoAllowed
  rw [h.state, h.isDcCharger, h.behindAcStates]

theorem Frame.unknownSession {before after : Context} (h : Frame before after) :
    unknownSession after = unknownSession before := by
  unfold Iso.unknownSession
  rw [h.currentV2gMsg, h.receivedSessionId, h.sessionId]

/-- The payment option and what proves it are the same. -/
structure Keeps (before after : Connection) : Prop where
  option : after.ctx.isoSelectedPaymentOption = before.ctx.isoSelectedPaymentOption
  currentV2gMsg : after.ctx.currentV2gMsg = before.ctx.currentV2gMsg
  pubkey : after.pubkey = before.pubkey
  challengeIssued : after.challengeIssued = before.challengeIssued
  signatureAccepted : after.signatureAccepted = before.signatureAccepted

variable (conn : Connection)

theorem Keeps.refl : Keeps conn conn := ⟨rfl, rfl, rfl, rfl, rfl⟩

theorem Keeps.of_frame {before after : Connection} (h : Frame before.ctx after.ctx)
    (hpubkey : after.pubkey = before.pubkey)
    (hissued : after.challengeIssued = before.challengeIssued)
    (haccepted : after.signatureAccepted = before.signatureAccepted) : Keeps before after :=
  ⟨h.option, h.currentV2gMsg, hpubkey, hissued, haccepted⟩

/-! ## Validation -/

variable {code : ResponseCode}

theorem checkedCode_not_failed {c : Context} (h : (checkedCode c code).isFailed = false) :
    code.isFailed = false ∧ isoAllowed c c.currentV2gMsg = true := by
  unfold checkedCode at h
  dsimp only at h
  split at h
  · cases h
  · split at h
    · rename_i hallowed
      split at h
      · cases h
      · exact ⟨h, hallowed⟩
    · cases h

theorem kept_open {c : Context} (hkept : (isoValidateResponseCode c code).2.closes = false)
    (hflag : c.terminateConnectionOnFailedResponse = true) :
    (isoValidateResponseCode c code).1.isFailed = false ∧ code.isFailed = false ∧
      isoAllowed c c.currentV2gMsg = true := by
  unfold isoValidateResponseCode at hkept ⊢
  split at hkept
  · cases hkept
  · split at hkept
    · cases hkept
    · rename_i hterminated hfailed
      rw [if_neg hterminated, if_neg hfailed]
      rw [hflag, Bool.true_and, Bool.not_eq_true] at hfailed
      exact ⟨hfailed, checkedCode_not_failed hfailed⟩

theorem validated_ok {c : Context} (hstop : c.stopHlc = false)
    (hemergency : c.intlEmergencyShutdown = false)
    (hallowed : isoAllowed c c.currentV2gMsg = true) (hsession : unknownSession c = false) :
    (isoValidateResponseCode c .ok).1 = .ok := by
  have hcode : checkedCode c .ok = .ok := by
    unfold checkedCode
    rw [hstop, hemergency, hallowed, hsession]
    rfl
  unfold isoValidateResponseCode
  split
  · rfl
  · rw [hcode]
    split <;> rfl

/-! ## Requests of the later phases -/

def energyMsgs : List V2gMsgTypeId :=
  [.chargeParameterDiscovery, .cableCheck, .preCharge, .powerDelivery, .currentDemand,
   .chargingStatus]

/-- The messages that are only allowed behind authorization. -/
def lateMsgs : List V2gMsgTypeId := energyMsgs ++ [.meteringReceipt, .weldingDetection]

theorem tables_refuse_late :
    ∀ state < 6, ∀ msg ∈ lateMsgs, (isoDcStates[state]?.getD []).contains msg = false ∧
      (isoAcStates[state]?.map (·.contains msg)) = some false := by
  decide

theorem six_le_state {c : Context} {msg : V2gMsgTypeId} (hmsg : msg ∈ lateMsgs)
    (h : isoAllowed c msg = true) : 6 ≤ c.state := by
  by_contra hlt
  obtain ⟨hdc, hac⟩ := tables_refuse_late c.state (by omega) msg hmsg
  unfold isoAllowed at h
  split at h
  · rw [hdc] at h
    cases h
  · obtain ⟨allowed, hallowed, hnone⟩ := Option.map_eq_some_iff.mp hac
    rw [hallowed] at h
    exact Bool.noConfusion (h.symm.trans hnone)

variable (conn : Connection)

/-- The handler of a later phase keeps the payment data; if failed responses close the
connection and it stays open, the request was in sequence. -/
structure Late (out : Outcome) : Prop where
  keeps : Keeps conn out.conn
  allowed : out.event.closes = false → conn.ctx.terminateConnectionOnFailedResponse = true →
    isoAllowed conn.ctx conn.ctx.currentV2gMsg = true

theorem late_respond {conn after : Connection} (hframe : Frame conn.ctx after.ctx)
    (hkeeps : Keeps conn after) (res : Response) (next : Nat) :
    Late conn (respond after res next) := by
  refine ⟨{ hkeeps with }, ?_⟩
  intro hkept hflag
  have h := (kept_open hkept (hframe.terminates.trans hflag)).2.2
  rw [hframe.isoAllowed, hframe.currentV2gMsg] at h
  exact h

theorem late_of_frame {conn : Connection} {c : Context} (h : Frame conn.ctx c) (res : Response)
    (next : Nat) : Late conn (respond { conn with ctx := c } res next) := by
  apply late_respond
  · exact h
  · exact ⟨h.option, h.currentV2gMsg, rfl, rfl, rfl⟩

theorem late_self (res : Response) (next : Nat) :
    Late conn (respond conn res next) := late_of_frame (Frame.refl _) res next

theorem late_chargeParameterDiscovery (req : ChargeParameterDiscoveryReq) :
    Late conn (handleIsoChargeParameterDiscovery conn req) := by
  have hreset : Frame conn.ctx { conn.ctx with renegotiationRequired := false } :=
    ⟨rfl, rfl, rfl, rfl, rfl, rfl, rfl, rfl, rfl⟩
  unfold handleIsoChargeParameterDiscovery
  dsimp only
  split
  · refine late_of_frame (hreset.trans ?_) _ _
    unfold v2hParameter
    split
    · exact Frame.refl _
    · split <;> exact ⟨rfl, rfl, rfl, rfl, rfl, rfl, rfl, rfl, rfl⟩
  · exact late_of_frame hreset _ _

theorem frame_progressDelivery (req : PowerDeliveryReq) (during : List Write) :
    Frame conn.ctx (progressDelivery conn req during).1.ctx ∧
      Keeps conn (progressDelivery conn req during).1 := by
  have hcharging : Frame conn.ctx { conn.ctx with isCharging := true } :=
    ⟨rfl, rfl, rfl, rfl, rfl, rfl, rfl, rfl, rfl⟩
  have hstart := hcharging.trans (frame_writes _ during)
  unfold progressDelivery startDelivery stopDelivery
  cases req.chargeProgress with
  | start =>
    dsimp only
    split
    · split
      · exact ⟨Frame.refl _, ⟨rfl, rfl, rfl, rfl, rfl⟩⟩
      · exact ⟨hstart, .of_frame hstart rfl rfl rfl⟩
    · split
      · exact ⟨⟨rfl, rfl, rfl, rfl, rfl, rfl, rfl, rfl, rfl⟩, ⟨rfl, rfl, rfl, rfl, rfl⟩⟩
      · exact ⟨Frame.refl _, ⟨rfl, rfl, rfl, rfl, rfl⟩⟩
  | stop =>
    dsimp only
    split <;> exact ⟨⟨rfl, rfl, rfl, rfl, rfl, rfl, rfl, rfl, rfl⟩, ⟨rfl, rfl, rfl, rfl, rfl⟩⟩
  | renegotiate => exact ⟨⟨rfl, rfl, rfl, rfl, rfl, rfl, rfl, rfl, rfl⟩, ⟨rfl, rfl, rfl, rfl, rfl⟩⟩
  | unknown => exact ⟨Frame.refl _, Keeps.refl _⟩

theorem frame_keepTuple (tupleId : Nat) : Frame c (keepTuple c tupleId) := by
  unfold keepTuple
  split <;> exact ⟨rfl, rfl, rfl, rfl, rfl, rfl, rfl, rfl, rfl⟩

theorem late_powerDelivery (req : PowerDeliveryReq) (during : List Write) :
    Late conn (handleIsoPowerDelivery conn req during) := by
  obtain ⟨hprogress, hkeeps⟩ := frame_progressDelivery conn req during
  have hframe := hprogress.trans (frame_keepTuple _ req.saScheduleTupleId)
  have hlate : ∀ res next, Late conn (respond ((progressDelivery conn req during).1.mapCtx
      (keepTuple · req.saScheduleTupleId)) res next) :=
    late_respond hframe (.of_frame hframe hkeeps.pubkey hkeeps.challengeIssued
      hkeeps.signatureAccepted)
  unfold handleIsoPowerDelivery
  dsimp only
  split
  · obtain ⟨hk, hallowed⟩ := hlate _ _
    refine ⟨?_, hallowed⟩
    unfold resetIsolation
    refine { hk with option := ?_, currentV2gMsg := ?_ }
    · show (if _ then _ else _ : Context).isoSelectedPaymentOption = _
      split <;> exact hk.option
    · show (if _ then _ else _ : Context).currentV2gMsg = _
      split <;> exact hk.currentV2gMsg
  · split <;> exact hlate _ _

/-! ## Requests up to the payment selection -/

/-- The handler keeps the payment data and leads to a state before authorization. -/
structure Early (out : Outcome) : Prop where
  keeps : Keeps conn out.conn
  state : out.conn.ctx.state ≤ 5

theorem early_respond {conn after : Connection} (h : Keeps conn after) (res : Response)
    {next : Nat} (hnext : next ≤ 5) : Early conn (respond after res next) :=
  ⟨{ h with }, hnext⟩

theorem early_sessionSetup (random : Nat) : Early conn (handleIsoSessionSetup conn random) := by
  unfold handleIsoSessionSetup
  dsimp only
  split
  all_goals
    apply early_respond
    · exact ⟨rfl, rfl, rfl, rfl, rfl⟩
    · decide

theorem early_serviceDiscovery : Early conn (handleIsoServiceDiscovery conn) := by
  unfold handleIsoServiceDiscovery correctPaymentOptions
  dsimp only
  split
  all_goals
    apply early_respond
    · exact ⟨rfl, rfl, rfl, rfl, rfl⟩
    · decide

theorem frame_awaitCertificate (timedOut : Bool) (during : List Write) :
    Frame c (awaitCertificate c timedOut during) := by
  unfold awaitCertificate
  split
  · exact Frame.refl c
  · dsimp only
    have h := frame_writes c during
    split
    · exact { h with }
    · exact h

theorem early_certificateInstallation (req : CertificateInstallationReq) (during : List Write) :
    Early conn (handleIsoCertificateInstallation conn req during) := by
  have h := frame_awaitCertificate conn.ctx req.timedOut during
  have hkeeps : Keeps conn (conn.mapCtx (awaitCertificate · req.timedOut during)) :=
    ⟨h.option, h.currentV2gMsg, rfl, rfl, rfl⟩
  unfold handleIsoCertificateInstallation
  dsimp only
  split
  · exact early_respond (Keeps.refl conn) _ (by decide)
  · split
    · split
      · exact ⟨⟨hkeeps.option, hkeeps.currentV2gMsg, rfl, rfl, rfl⟩,
          show DcStateId.waitForPaymentDetails.id ≤ 5 by decide⟩
      · exact early_respond hkeeps _ (by decide)
    · exact early_respond hkeeps _ (by decide)

theorem frame_selectBidi (serviceId : Nat) : Frame c (selectBidi c serviceId) := by
  unfold selectBidi
  split
  · exact ⟨rfl, rfl, rfl, rfl, rfl, rfl, rfl, rfl, rfl⟩
  · split <;> exact ⟨rfl, rfl, rfl, rfl, rfl, rfl, rfl, rfl, rfl⟩

theorem frame_selectServices (charge : Bool) (services : List Nat) :
    Frame c (selectServices c charge services).1 := by
  induction services generalizing c charge with
  | nil => exact Frame.refl c
  | cons serviceId rest ih =>
    unfold selectServices
    split
    · exact ih c true
    · split
      · exact (frame_selectBidi c serviceId).trans (ih _ charge)
      · exact Frame.refl c

theorem keeps_publishOption (option : PaymentOption) : Keeps conn (publishOption conn option) := by
  unfold publishOption
  split <;> exact ⟨rfl, rfl, rfl, rfl, rfl⟩

variable (conn : Connection)

/-- A contract is noted, external payment is not. -/
theorem paymentServiceSelection_spec (option : PaymentOption) (services : List Nat) (now : Int) :
    let out := handleIsoPaymentServiceSelection conn option services now
    out.conn.ctx.state ≤ 5 ∧
    out.conn.ctx.isoSelectedPaymentOption =
      (if option = .contract then .contract else conn.ctx.isoSelectedPaymentOption) ∧
    out.conn.ctx.currentV2gMsg = conn.ctx.currentV2gMsg ∧
    out.conn.pubkey = conn.pubkey ∧ out.conn.challengeIssued = conn.challengeIssued ∧
    out.conn.signatureAccepted = conn.signatureAccepted := by
  have h := frame_selectServices conn.ctx false services
  -- publishing the option touches none of the fields
  have hpublish := keeps_publishOption conn option
  unfold handleIsoPaymentServiceSelection
  cases option with
  | contract =>
    exact ⟨show DcStateId.waitForPaymentDetailsCertInstCertUpd.id ≤ 5 by decide, rfl,
      h.currentV2gMsg, hpublish.pubkey, hpublish.challengeIssued, hpublish.signatureAccepted⟩
  | externalPayment =>
    exact ⟨show DcStateId.waitForAuthorization.id ≤ 5 by decide, h.option, h.currentV2gMsg,
      hpublish.pubkey, hpublish.challengeIssued, hpublish.signatureAccepted⟩

/-! ## Payment details -/

theorem verifyCode_cases (result : VerifyResult) :
    verifyCode c result = .ok ∨ (verifyCode c result).isFailed = true := by
  have hforwarded : ∀ code : ResponseCode, code.isFailed = true →
      forwarded c code = .ok ∨ (forwarded c code).isFailed = true := by
    intro code hcode
    unfold forwarded
    split
    · exact .inl rfl
    · exact .inr hcode
  cases result with
  | verified => exact .inl rfl
  | certificateExpired | certChainError => exact .inr rfl
  | certificateRevoked | noCertificateAvailable | certificateNotAllowed => exact hforwarded _ rfl

theorem chainCode_failed {c : Context} {req : PaymentDetailsReq} (h : chainCode c req ≠ .ok) :
    (chainCode c req).isFailed = true := by
  have hcases : chainCode c req = .ok ∨ (chainCode c req).isFailed = true := by
    unfold chainCode
    split
    · exact .inr rfl
    · split
      · exact verifyCode_cases c req.verifyResult
      · exact .inl rfl
  exact hcases.resolve_left h

theorem paymentDetails_spec (req : PaymentDetailsReq) (now : Int) :
    let out := handleIsoPaymentDetails conn req now
    out.conn.ctx.state ≤ 5 ∧
    out.conn.ctx.isoSelectedPaymentOption = conn.ctx.isoSelectedPaymentOption ∧
    out.conn.ctx.currentV2gMsg = conn.ctx.currentV2gMsg ∧
    out.conn.signatureAccepted = conn.signatureAccepted ∧
    (conn.challengeIssued = true → out.conn.challengeIssued = true) ∧
    (out.conn.pubkey = conn.pubkey ∨ out.conn.challengeIssued = true ∨
      (conn.ctx.isoSelectedPaymentOption = .contract ∧ req.leafValid = true ∧
        chainCode conn.ctx req ≠ .ok ∧
        (out.event.closes = false →
          conn.ctx.terminateConnectionOnFailedResponse = false))) := by
  have hstate : DcStateId.waitForAuthorization.id ≤ 5 := by decide
  unfold handleIsoPaymentDetails
  dsimp only
  split
  · exact ⟨hstate, rfl, rfl, rfl, id, .inl rfl⟩
  · split
    · exact ⟨hstate, rfl, rfl, rfl, id, .inl rfl⟩
    · split
      · exact ⟨hstate, rfl, rfl, rfl, fun _ => rfl, .inr (.inl rfl)⟩
      · rename_i hoption hleaf hchain
        refine ⟨hstate, rfl, rfl, rfl, id, .inr (.inr ⟨?_, ?_, hchain, ?_⟩)⟩
        · exact not_not.mp hoption
        · simpa using hleaf
        · intro hkept
          -- the refused chain is a failed response, which would have closed the connection
          by_contra hflag
          have hcode := (kept_open hkept (Bool.not_eq_false _ ▸ hflag)).2.1
          rw [chainCode_failed hchain] at hcode
          cases hcode

/-! ## Authorization -/

/-- Nothing speaks against a finished authorization when it is read again. -/
structure Agreed (during : List Write) : Prop where
  finished : (c.writes during).evseProcessing .auth = .finished
  notRejected : (c.writes during).authorizationRejected = false
  notStopped : (c.writes during).stopHlc = false
  noEmergency : (c.writes during).intlEmergencyShutdown = false
  allowed : isoAllowed c c.currentV2gMsg = true
  session : unknownSession c = false

theorem frame_authorizationVerdict (now : Int) : Frame c (authorizationVerdict c now).1 := by
  unfold authorizationVerdict
  split
  · split <;> exact ⟨rfl, rfl, rfl, rfl, rfl, rfl, rfl, rfl, rfl⟩
  · split <;> exact Frame.refl c

/-- The answer to an authorization: its `EVSEProcessing` is the one that was read first, and
its code is not failed if failures close the connection or nothing speaks against it. -/
structure Status (during : List Write) (out : Outcome) : Prop where
  keeps : Keeps conn out.conn
  state : out.conn.ctx.state = if conn.ctx.evseProcessing .auth = .finished then 6 else 5
  processing : out.res.evseProcessing = conn.ctx.evseProcessing .auth
  kept : out.event.closes = false → conn.ctx.terminateConnectionOnFailedResponse = true →
    out.res.responseCode.isFailed = false
  agreed : Agreed conn.ctx during → out.res.responseCode.isFailed = false

theorem authorizationStatus_spec (now : Int) (during : List Write) :
    Status conn during (authorizationStatus conn now during) := by
  have hframe := (frame_writes conn.ctx during).trans (frame_authorizationVerdict _ now)
  refine ⟨⟨hframe.option, hframe.currentV2gMsg, rfl, rfl, rfl⟩, rfl, rfl, ?_, ?_⟩
  · intro hkept hflag
    exact (kept_open hkept (hframe.terminates.trans hflag)).1
  · intro h
    unfold authorizationStatus respondAuthorization
    rw [authorizationVerdict, if_neg (not_not.mpr h.finished), h.notRejected]
    show (isoValidateResponseCode (conn.ctx.writes during) .ok).1.isFailed = false
    have hwrites := frame_writes conn.ctx during
    rw [validated_ok h.notStopped h.noEmergency]
    · rfl
    · rw [hwrites.isoAllowed, hwrites.currentV2gMsg]
      exact h.allowed
    · rw [hwrites.unknownSession]
      exact h.session

/-- The proof of a contract: challenge, signature and token. -/
def Proved (auth : AuthorizationReq) : Prop :=
  challengeValid conn.ctx auth = true ∧ checkIso2Signature conn auth = true ∧
    conn.ctx.providedIdToken.isSome = true

/-- The proof fails: the payment data stay, but for a signature that was accepted, and the
response is a failed one. -/
structure Unproved (out : Outcome) : Prop where
  option : out.conn.ctx.isoSelectedPaymentOption = conn.ctx.isoSelectedPaymentOption
  currentV2gMsg : out.conn.ctx.currentV2gMsg = conn.ctx.currentV2gMsg
  pubkey : out.conn.pubkey = conn.pubkey
  challengeIssued : out.conn.challengeIssued = conn.challengeIssued
  accepted : conn.signatureAccepted = true → out.conn.signatureAccepted = true
  issued : out.conn.signatureAccepted = true →
    conn.signatureAccepted = true ∨ conn.challengeIssued = true
  failed : out.event.closes = false → conn.ctx.terminateConnectionOnFailedResponse = false

theorem failed_closes {conn : Connection} (hcode : code.isFailed = true)
    (hkept : (respondAuthorization conn { responseCode := code }).event.closes = false) :
    conn.ctx.terminateConnectionOnFailedResponse = false := by
  by_contra hflag
  have h := (kept_open hkept (Bool.not_eq_false _ ▸ hflag)).2.1
  rw [hcode] at h
  cases h

theorem unproved_respond (hcode : code.isFailed = true) :
    Unproved conn (respondAuthorization conn { responseCode := code }) :=
  ⟨rfl, rfl, rfl, rfl, id, .inl, failed_closes hcode⟩

def acceptSignature : Connection :=
  { conn with signatureAccepted := conn.signatureAccepted || conn.challengeIssued }

theorem status_token (emaid : List Char) (now : Int) (during : List Write) :
    Status conn during (authorizationStatus
      ((conn.publish (.requireAuthPnc emaid)).mapCtx ({ · with providedIdToken := none }))
      now during) := by
  have hwrites : ({ conn.ctx with providedIdToken := none }).writes during =
      { conn.ctx.writes during with providedIdToken := none } :=
    Context.writes_comm (f := ({ · with providedIdToken := none }))
      (by intro c w; cases w <;> rfl) _ _
  obtain ⟨hkeeps, hstate, hprocessing, hkept, hagreed⟩ := authorizationStatus_spec
    ((conn.publish (.requireAuthPnc emaid)).mapCtx ({ · with providedIdToken := none }))
    now during
  refine ⟨⟨hkeeps.option, hkeeps.currentV2gMsg, rfl, rfl, rfl⟩, hstate, hprocessing, hkept, ?_⟩
  intro h
  apply hagreed
  refine ⟨?_, ?_, ?_, ?_, h.allowed, h.session⟩
  · show (({ conn.ctx with providedIdToken := none }).writes during).evseProcessing .auth = _
    rw [hwrites]
    exact h.finished
  · show (({ conn.ctx with providedIdToken := none }).writes during).authorizationRejected = _
    rw [hwrites]
    exact h.notRejected
  · show (({ conn.ctx with providedIdToken := none }).writes during).stopHlc = _
    rw [hwrites]
    exact h.notStopped
  · show (({ conn.ctx with providedIdToken := none }).writes during).intlEmergencyShutdown = _
    rw [hwrites]
    exact h.noEmergency

theorem authorization_cases (auth : AuthorizationReq) (now : Int) (during : List Write) :
    let out := handleIsoAuthorization conn auth now during
    (needsProof conn.ctx = true ∧ ¬ Proved conn auth ∧ Unproved conn out) ∨
    (needsProof conn.ctx = true ∧ Proved conn auth ∧ Status (acceptSignature conn) during out) ∨
    (needsProof conn.ctx = false ∧ Status conn during out) := by
  unfold handleIsoAuthorization
  cases hneeds : needsProof conn.ctx with
  | false => exact .inr (.inr ⟨rfl, authorizationStatus_spec conn now during⟩)
  | true =>
    dsimp only
    rw [if_neg (by decide)]
    cases hchallenge : challengeValid conn.ctx auth with
    | false =>
      refine .inl ⟨rfl, fun h => ?_, unproved_respond conn rfl⟩
      cases hchallenge.symm.trans h.1
    | true =>
      rw [if_neg (by decide)]
      cases hsignature : checkIso2Signature conn auth with
      | false =>
        refine .inl ⟨rfl, fun h => ?_, unproved_respond conn rfl⟩
        cases hsignature.symm.trans h.2.1
      | true =>
        rw [if_neg (by decide)]
        cases htoken : conn.ctx.providedIdToken with
        | none =>
          refine .inl ⟨rfl, fun h => ?_, ?_⟩
          · cases (congrArg Option.isSome htoken).symm.trans h.2.2
          · have h := unproved_respond (acceptSignature conn)
              (show ResponseCode.failed.isFailed = true from rfl)
            exact ⟨rfl, rfl, rfl, rfl, fun ha => Bool.or_eq_true_iff.mpr (.inl ha),
              Bool.or_eq_true_iff.mp, h.failed⟩
        | some emaid =>
          refine .inr (.inl ⟨rfl, ⟨hchallenge, hsignature, ?_⟩, ?_⟩)
          · rw [htoken]
            rfl
          · exact status_token (acceptSignature conn) emaid now during

/-! ## The end of the session -/

theorem sessionStop_event (chargingSession : ChargingSession) :
    (handleIsoSessionStop conn chargingSession).event.closes = true := by
  unfold handleIsoSessionStop
  cases chargingSession with
  | terminate | unknown => rfl
  | pause =>
    dsimp only
    split <;> rfl

/-! ## The dispatcher -/

variable (req : Request)

/-- What a handler is called with: the session id and the type of the request, and charging
if the dispatcher has started it. -/
structure Prepared (p : Connection) : Prop where
  ctx : ∃ charging, p.ctx = { conn.ctx with
    receivedSessionId := req.sessionId, currentV2gMsg := req.body.msg, isCharging := charging }
  pubkey : p.pubkey = conn.pubkey
  challengeIssued : p.challengeIssued = conn.challengeIssued
  signatureAccepted : p.signatureAccepted = conn.signatureAccepted

theorem announce_spec (msg : V2gMsgTypeId) :
    (∃ charging, (announce conn msg).ctx = { conn.ctx with isCharging := charging }) ∧
      (announce conn msg).pubkey = conn.pubkey ∧
      (announce conn msg).challengeIssued = conn.challengeIssued ∧
      (announce conn msg).signatureAccepted = conn.signatureAccepted := by
  unfold announce
  split
  all_goals first
    | exact ⟨⟨_, rfl⟩, rfl, rfl, rfl⟩
    | split <;> exact ⟨⟨_, rfl⟩, rfl, rfl, rfl⟩

theorem prepared (h : req.body ≠ .unknown) : Prepared conn req (prepare conn req) := by
  have hprepare : prepare conn req =
      announce (setCurrentMsg (receive conn req) req.body.msg) req.body.msg := by
    unfold prepare
    cases hbody : req.body <;> first
      | rfl
      | exact absurd hbody h
  rw [hprepare]
  obtain ⟨⟨charging, hctx⟩, hpubkey, hissued, haccepted⟩ :=
    announce_spec (setCurrentMsg (receive conn req) req.body.msg) req.body.msg
  exact ⟨⟨charging, hctx⟩, hpubkey, hissued, haccepted⟩

theorem Prepared.frame {conn p : Connection} {req : Request} (h : Prepared conn req p) :
    p.ctx.state = conn.ctx.state ∧ p.ctx.currentV2gMsg = req.body.msg ∧
      p.ctx.terminateConnectionOnFailedResponse =
        conn.ctx.terminateConnectionOnFailedResponse ∧
      p.ctx.isoSelectedPaymentOption = conn.ctx.isoSelectedPaymentOption ∧
      ∀ msg, isoAllowed p.ctx msg = isoAllowed conn.ctx msg := by
  obtain ⟨charging, hctx⟩ := h.ctx
  rw [hctx]
  exact ⟨rfl, rfl, rfl, rfl, fun _ => rfl⟩

theorem isoHandleRequest_eq (h : req.body ≠ .unknown) :
    isoHandleRequest conn req = noteLastMsg (handle (prepare conn req) req) := by
  unfold isoHandleRequest
  cases hbody : req.body <;> first
    | rfl
    | exact absurd hbody h

end EverestCore.V2G.Iso
