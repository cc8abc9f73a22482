import EverestCore.Lib.Machine
import EverestCore.V2G.IsoHandlers

/-!
# ISO 15118-2: no charging without authorization

A connection handles requests one after the other while the charger writes to the context.
A request may only reach the states behind authorization if the session has been
authorized; under a contract it also has to have proved the possession of its key.

The handlers set the next state for refused requests as well. While the connection is kept
open after a failed response, a request of a later phase therefore leads there directly, and
so does an authorization whose challenge or signature is wrong.
-/

namespace EverestCore.V2G.Iso

open EverestCore.Lib

/-! ## The connection loop -/

/-- A connection in `v2g_handle_connection`, with what the property speaks about. -/
structure Session where
  conn : Connection
  /-- the receiving loop is still running -/
  isOpen : Bool := true
  /-- observer: an AuthorizationReq has been answered below `FAILED` and finished -/
  authorized : Bool := false
  /-- observer: a PaymentServiceSelectionReq has named contract payment -/
  contractSelected : Bool := false

inductive Label
  | request (req : Request)
  | write (w : Write)
  | disconnect

/-- The request is an AuthorizationReq that is answered below `FAILED` and finished. -/
def grants (req : Request) (out : Outcome) : Bool :=
  match req.body with
  | .authorization _ =>
    out.event ≠ .terminateConnection && !out.res.responseCode.isFailed &&
      out.res.evseProcessing = .finished
  | _ => false

def selectsContract : Body → Bool
  | .paymentServiceSelection .contract _ => true
  | _ => false

variable (s : Session)

def Session.handled (req : Request) : Session :=
  let out := isoHandleRequest s.conn req
  { s with
    conn := out.conn
    authorized := s.authorized || grants req out
    contractSelected := s.contractSelected || selectsContract req.body }

def Session.close : Session :=
  { s with conn := s.conn.mapCtx (v2gCtxInitChargingState · true), isOpen := false }

def step : Label → Session
  | .request req =>
    if s.isOpen then
      if (isoHandleRequest s.conn req).event.closes then (s.handled req).close
      else s.handled req
    else s
  | .write w => { s with conn := s.conn.mapCtx (·.write w) }
  | .disconnect => if s.isOpen then s.close else s

def Session.start (c : Context) (isTlsConnection : Bool) : Session :=
  { conn := { ctx := v2gCtxInitChargingState c false, isTlsConnection := isTlsConnection } }

/-! ## The property -/

/-- The present state allows one of them. -/
def PastAuthorization (c : Context) : Prop := ∃ msg ∈ energyMsgs, isoAllowed c msg = true
deriving Decidable

/-- Past authorization the session is authorized, and a selected contract is proved. -/
def Authorized : Prop :=
  PastAuthorization s.conn.ctx →
    s.authorized = true ∧ (s.contractSelected = true → s.conn.signatureAccepted = true)
deriving Decidable

/-- The session is authorized, and under a contract its key proved. -/
def Session.Cleared : Prop :=
  s.authorized = true ∧
    (s.conn.ctx.isoSelectedPaymentOption = .contract → s.conn.signatureAccepted = true)
deriving Decidable

/-- An AuthorizationReq that is not refused: the proof of a contract is valid, and a
finished authorization is neither rejected nor stopped nor out of sequence. -/
def ProperAuthorization (conn : Connection) (req : Request) (auth : AuthorizationReq) : Prop :=
  (needsProof conn.ctx = true → challengeValid conn.ctx auth = true ∧
    checkIso2Signature conn auth = true ∧ conn.ctx.providedIdToken.isSome = true) ∧
  (conn.ctx.evseProcessing .auth = .finished →
    (conn.ctx.writes req.during).evseProcessing .auth = .finished ∧
    (conn.ctx.writes req.during).authorizationRejected = false ∧
    (conn.ctx.writes req.during).stopHlc = false ∧
    (conn.ctx.writes req.during).intlEmergencyShutdown = false ∧
    isoAllowed conn.ctx .authorization = true ∧
    (req.sessionId = 0 ∨ conn.ctx.sessionId = req.sessionId))
deriving Decidable

/-- A request that does not lead past authorization by being refused: authorizations as
above, accepted contract certificates, and the requests of the later phases in sequence. -/
def Proper (conn : Connection) (req : Request) : Body → Prop
  | .authorization auth => ProperAuthorization conn req auth
  | .paymentDetails details =>
    conn.ctx.isoSelectedPaymentOption = .contract → details.leafValid = true →
      chainCode conn.ctx details = .ok
  | .chargeParameterDiscovery _ => isoAllowed conn.ctx .chargeParameterDiscovery = true
  | .powerDelivery _ => isoAllowed conn.ctx .powerDelivery = true
  | .chargingStatus => isoAllowed conn.ctx .chargingStatus = true
  | .meteringReceipt => isoAllowed conn.ctx .meteringReceipt = true
  | .cableCheck => isoAllowed conn.ctx .cableCheck = true
  | .preCharge => isoAllowed conn.ctx .preCharge = true
  | .currentDemand => isoAllowed conn.ctx .currentDemand = true
  | .weldingDetection => isoAllowed conn.ctx .weldingDetection = true
  | _ => True

instance (conn : Connection) (req : Request) : ∀ body, Decidable (Proper conn req body)
  | .authorization auth => inferInstanceAs (Decidable (ProperAuthorization conn req auth))
  | .paymentDetails _ => inferInstanceAs (Decidable (_ → _ → _))
  | .chargeParameterDiscovery _ | .powerDelivery _ | .chargingStatus | .meteringReceipt
  | .cableCheck | .preCharge | .currentDemand | .weldingDetection =>
    inferInstanceAs (Decidable (_ = _))
  | .sessionSetup _ | .serviceDiscovery | .serviceDetail _ | .paymentServiceSelection _ _
  | .certificateUpdate | .certificateInstallation _ | .sessionStop _ | .unknown =>
    .isTrue trivial

/-- The connection is closed on failed responses, or the session is authorized already, or
the request is a proper one. -/
def Admitted (req : Request) : Prop :=
  s.conn.ctx.terminateConnectionOnFailedResponse = true ∨ s.Cleared ∨
    Proper s.conn req req.body
deriving Decidable

/-- While the connection is open, its requests are admitted ones. -/
def Orderly : Label → Prop
  | .request req => s.isOpen = true → Admitted s req
  | _ => True

instance (s : Session) : ∀ label, Decidable (Orderly s label)
  | .request _ => inferInstanceAs (Decidable (_ → _))
  | .write _ => .isTrue trivial
  | .disconnect => .isTrue trivial

/-! ## The invariant -/

/-- Behind authorization the session is cleared. After an AuthorizationReq a contract has
been proved; a key and an accepted signature come with a challenge of this connection. -/
structure Inv : Prop where
  beyond : 6 ≤ s.conn.ctx.state → s.Cleared
  last : s.conn.ctx.lastV2gMsg = .authorization →
    s.conn.ctx.isoSelectedPaymentOption = .contract → s.conn.signatureAccepted = true
  key : s.conn.pubkey.isSome = true → s.conn.challengeIssued = true
  accepted : s.conn.signatureAccepted = true → s.conn.challengeIssued = true
  selected : s.contractSelected = true → s.conn.ctx.isoSelectedPaymentOption = .contract

theorem inv_start (c : Context) (isTlsConnection : Bool) :
    Inv (Session.start c isTlsConnection) where
  beyond h := absurd h (show ¬ 6 ≤ 0 by decide)
  last h := by cases h
  key h := by cases h
  accepted h := by cases h
  selected h := by cases h

variable {s : Session}

theorem inv_write (h : Inv s) (w : Write) : Inv (step s (.write w)) := by
  have hframe := frame_write s.conn.ctx w
  refine ⟨?_, ?_, h.key, h.accepted, ?_⟩
  · intro hstate
    obtain ⟨hauthorized, hproved⟩ := h.beyond (hframe.state ▸ hstate)
    exact ⟨hauthorized, fun hoption => hproved (hframe.option ▸ hoption)⟩
  · intro hlast hoption
    exact h.last (hframe.lastV2gMsg ▸ hlast) (hframe.option ▸ hoption)
  · intro hselected
    exact hframe.option.trans (h.selected hselected)

variable {req : Request}

theorem Inv.selected_of_not {body : Body} (hinv : Inv s) (hselects : selectsContract body = false)
    (h : (s.contractSelected || selectsContract body) = true) :
    s.conn.ctx.isoSelectedPaymentOption = .contract := by
  rw [hselects, Bool.or_false] at h
  exact hinv.selected h

theorem ProperAuthorization.agreed {conn : Connection} (hbody : req.body = .authorization auth)
    (h : ProperAuthorization conn req auth)
    (hfinished : conn.ctx.evseProcessing .auth = .finished) :
    Agreed (prepare conn req).ctx req.during := by
  have hne : req.body ≠ .unknown := by simp [hbody]
  obtain ⟨charging, hctx⟩ := (prepared conn req hne).ctx
  obtain ⟨hagain, hrejected, hstop, hemergency, hallowed, hsession⟩ := h.2 hfinished
  rw [hctx]
  -- the writes do not see what the dispatcher has recorded
  have hwrites := Context.writes_comm (f := fun c : Context => { c with
    receivedSessionId := req.sessionId, currentV2gMsg := req.body.msg, isCharging := charging })
    (by intro c w; cases w <;> rfl) conn.ctx req.during
  refine ⟨?_, ?_, ?_, ?_, ?_, ?_⟩
  · rw [hwrites]
    exact hagain
  · rw [hwrites]
    exact hrejected
  · rw [hwrites]
    exact hstop
  · rw [hwrites]
    exact hemergency
  · show isoAllowed conn.ctx req.body.msg = true
    rw [hbody]
    exact hallowed
  · rcases hsession with hzero | hsame
    · simp [unknownSession, hzero]
    · simp [unknownSession, hsame]

section

variable (hinv : Inv s)

include hinv

/-- A request that leaves the payment option, the key and the challenge as they are. -/
theorem inv_of_outcome {out : Outcome} (hbody : req.body ≠ .unknown)
    (hselects : selectsContract req.body = false) (hout : handle (prepare s.conn req) req = out)
    (hoption : out.conn.ctx.isoSelectedPaymentOption = s.conn.ctx.isoSelectedPaymentOption)
    (hpubkey : out.conn.pubkey = s.conn.pubkey)
    (hissued : out.conn.challengeIssued = s.conn.challengeIssued)
    (hbeyond : 6 ≤ out.conn.ctx.state → (s.authorized || grants req (noteLastMsg out)) = true ∧
      (s.conn.ctx.isoSelectedPaymentOption = .contract → out.conn.signatureAccepted = true))
    (hlast : out.conn.ctx.currentV2gMsg = .authorization →
      s.conn.ctx.isoSelectedPaymentOption = .contract → out.conn.signatureAccepted = true)
    (haccepted : out.conn.signatureAccepted = true → s.conn.challengeIssued = true) :
    Inv (s.handled req) := by
  unfold Session.handled
  rw [isoHandleRequest_eq s.conn req hbody, hout]
  refine ⟨fun h => ?_, fun h ho => hlast h (hoption ▸ ho), fun hkey => ?_, fun h => ?_,
    fun hselected => hoption.trans (hinv.selected_of_not hselects hselected)⟩
  · exact ⟨(hbeyond h).1, fun ho => (hbeyond h).2 (hoption ▸ ho)⟩
  · exact hissued.trans (hinv.key ((congrArg Option.isSome hpubkey).symm.trans hkey))
  · exact hissued.trans (haccepted h)

theorem inv_of_keeps (hbody : req.body ≠ .unknown) (hmsg : req.body.msg ≠ .authorization)
    (hselects : selectsContract req.body = false)
    (hkeeps : Keeps (prepare s.conn req) (handle (prepare s.conn req) req).conn)
    (hstate : 6 ≤ (handle (prepare s.conn req) req).conn.ctx.state → s.Cleared) :
    Inv (s.handled req) := by
  have hp := prepared s.conn req hbody
  obtain ⟨-, hcurrent, -, hoption, -⟩ := hp.frame
  have haccepted := hkeeps.signatureAccepted.trans hp.signatureAccepted
  apply inv_of_outcome hinv hbody hselects rfl (hkeeps.option.trans hoption)
    (hkeeps.pubkey.trans hp.pubkey) (hkeeps.challengeIssued.trans hp.challengeIssued)
  · intro h
    obtain ⟨hauthorized, hproved⟩ := hstate h
    exact ⟨Bool.or_eq_true_iff.mpr (.inl hauthorized), fun ho => haccepted.trans (hproved ho)⟩
  · intro hlast
    exact absurd ((hkeeps.currentV2gMsg.trans hcurrent).symm.trans hlast) hmsg
  · intro h
    exact hinv.accepted (haccepted.symm.trans h)

theorem inv_early (hne : req.body ≠ .unknown) (hmsg : req.body.msg ≠ .authorization)
    (hselects : selectsContract req.body = false)
    (hearly : Early (prepare s.conn req) (handle (prepare s.conn req) req)) :
    Inv (s.handled req) := by
  refine inv_of_keeps hinv hne hmsg hselects hearly.keeps ?_
  intro h
  exact absurd hearly.state (Nat.not_le.mpr h)

theorem inv_paymentServiceSelection {option : PaymentOption} {services : List Nat}
    (hbody : req.body = .paymentServiceSelection option services) : Inv (s.handled req) := by
  have hne : req.body ≠ .unknown := by simp [hbody]
  have hp := prepared s.conn req hne
  obtain ⟨-, hcurrent, -, hoption, -⟩ := hp.frame
  obtain ⟨hstate, hoption', hcurrent', hpubkey, hissued, haccepted⟩ :=
    paymentServiceSelection_spec (prepare s.conn req) option services req.now
  unfold Session.handled
  rw [isoHandleRequest_eq s.conn req hne, show handle _ req = _ by unfold handle; rw [hbody]]
  constructor
  · intro h
    exact absurd hstate (Nat.not_le.mpr h)
  · intro hlast
    rw [hbody] at hcurrent
    cases (hcurrent'.trans hcurrent).symm.trans hlast
  · intro hkey
    refine (hissued.trans hp.challengeIssued).trans (hinv.key ?_)
    exact (congrArg Option.isSome (hpubkey.trans hp.pubkey)).symm.trans hkey
  · intro h
    refine (hissued.trans hp.challengeIssued).trans (hinv.accepted ?_)
    exact (haccepted.trans hp.signatureAccepted).symm.trans h
  · intro hselected
    refine hoption'.trans ?_
    cases option with
    | contract => rfl
    | externalPayment =>
      -- external payment keeps the option that was selected before
      rw [hbody] at hselected
      exact hoption.trans (hinv.selected_of_not rfl hselected)

variable (hadmitted : Admitted s req) (hkept : (isoHandleRequest s.conn req).event.closes = false)

include hkept

theorem inv_status (conn : Connection) (hbody : req.body = .authorization auth)
    (hctx : conn.ctx = (prepare s.conn req).ctx) (hpubkey : conn.pubkey = s.conn.pubkey)
    (hissued : conn.challengeIssued = s.conn.challengeIssued)
    (hproof : s.conn.ctx.isoSelectedPaymentOption = .contract → conn.signatureAccepted = true)
    (haccepted : conn.signatureAccepted = true → s.conn.challengeIssued = true)
    (hmono : s.Cleared ∨ s.conn.ctx.terminateConnectionOnFailedResponse = true ∨
      (s.conn.ctx.evseProcessing .auth = .finished → Agreed (prepare s.conn req).ctx req.during))
    (hstatus : Status conn req.during (handle (prepare s.conn req) req)) : Inv (s.handled req) := by
  have hne : req.body ≠ .unknown := by simp [hbody]
  have hp := prepared s.conn req hne
  obtain ⟨-, -, hflag', hoption, -⟩ := hp.frame
  have hoption' := (hstatus.keeps.option.trans (congrArg _ hctx)).trans hoption
  have haccepted' := hstatus.keeps.signatureAccepted
  have hprocessing : conn.ctx.evseProcessing .auth = s.conn.ctx.evseProcessing .auth := by
    obtain ⟨charging, h⟩ := hp.ctx
    rw [hctx, h]
  rw [isoHandleRequest_eq s.conn req hne] at hkept
  apply inv_of_outcome hinv hne (by rw [hbody]; rfl) rfl hoption'
    (hstatus.keeps.pubkey.trans hpubkey) (hstatus.keeps.challengeIssued.trans hissued)
  · intro hstate
    refine ⟨?_, fun ho => haccepted'.trans (hproof ho)⟩
    -- the state is behind authorization, so the answer says finished
    have hfinished : s.conn.ctx.evseProcessing .auth = .finished := by
      by_contra hne'
      have h5 := hstatus.state
      rw [if_neg (fun h => hne' (hprocessing.symm.trans h))] at h5
      have : (6 : Nat) ≤ 5 := h5 ▸ hstate
      omega
    have hgrants : ∀ hcode : (handle (prepare s.conn req) req).res.responseCode.isFailed = false,
        grants req (noteLastMsg (handle (prepare s.conn req) req)) = true := by
      intro hcode
      have hevent : (handle (prepare s.conn req) req).event ≠ .terminateConnection := by
        intro h
        rw [show (noteLastMsg (handle (prepare s.conn req) req)).event = _ from h] at hkept
        cases hkept
      have hanswer := (hstatus.processing.trans hprocessing).trans hfinished
      rw [grants, hbody]
      simp [noteLastMsg, hevent, hcode, hanswer]
    apply Bool.or_eq_true_iff.mpr
    rcases hmono with hcleared | hflag | hagreed
    · exact .inl hcleared.1
    · refine .inr (hgrants (hstatus.kept hkept ?_))
      exact (congrArg _ hctx).trans (hflag'.trans hflag)
    · refine .inr (hgrants (hstatus.agreed ?_))
      rw [hctx]
      exact hagreed hfinished
  · intro _ ho
    exact haccepted'.trans (hproof ho)
  · intro h
    exact haccepted (haccepted'.symm.trans h)

include hadmitted

theorem inv_paymentDetails {details : PaymentDetailsReq}
    (hbody : req.body = .paymentDetails details) : Inv (s.handled req) := by
  have hne : req.body ≠ .unknown := by simp [hbody]
  have hp := prepared s.conn req hne
  obtain ⟨-, hcurrent, hflag', hoption, -⟩ := hp.frame
  obtain ⟨hstate, hoption', hcurrent', haccepted, hissued, hkeyCases⟩ :=
    paymentDetails_spec (prepare s.conn req) details req.now
  have hhandle : handle (prepare s.conn req) req =
      handleIsoPaymentDetails (prepare s.conn req) details req.now := by
    unfold handle
    rw [hbody]
  have hchain : chainCode (prepare s.conn req).ctx details = chainCode s.conn.ctx details := by
    obtain ⟨charging, hctx⟩ := hp.ctx
    rw [hctx]
    rfl
  rw [isoHandleRequest_eq s.conn req hne, hhandle] at hkept
  -- a challenge of this connection stays one
  have hissued' : s.conn.challengeIssued = true →
      (handleIsoPaymentDetails (prepare s.conn req) details req.now).conn.challengeIssued =
        true := fun h => hissued (hp.challengeIssued.trans h)
  unfold Session.handled
  rw [isoHandleRequest_eq s.conn req hne, hhandle]
  constructor
  · intro h
    exact absurd hstate (Nat.not_le.mpr h)
  · intro hlast
    rw [hbody] at hcurrent
    cases (hcurrent'.trans hcurrent).symm.trans hlast
  · intro hkey
    rcases hkeyCases with hsame | h | ⟨hcontract, hleaf, hrefused, hopen⟩
    · apply hissued'
      apply hinv.key
      exact (congrArg Option.isSome (hsame.trans hp.pubkey)).symm.trans hkey
    · exact h
    · -- the chain was refused: only an authorized session may go on
      rcases hadmitted with hflag | hcleared | hproper
      · cases (hopen hkept).symm.trans (hflag'.trans hflag)
      · exact hissued' (hinv.accepted (hcleared.2 (hoption.symm.trans hcontract)))
      · rw [hbody] at hproper
        exact absurd (hchain.trans (hproper (hoption.symm.trans hcontract) hleaf)) hrefused
  · intro h
    exact hissued' (hinv.accepted ((haccepted.trans hp.signatureAccepted).symm.trans h))
  · intro hselected
    rw [hbody] at hselected
    exact (hoption'.trans hoption).trans (hinv.selected_of_not rfl hselected)

theorem inv_authorization (hbody : req.body = .authorization auth) : Inv (s.handled req) := by
  have hne : req.body ≠ .unknown := by simp [hbody]
  have hp := prepared s.conn req hne
  obtain ⟨-, -, hflag', hoption, -⟩ := hp.frame
  have hhandle : handle (prepare s.conn req) req =
      handleIsoAuthorization (prepare s.conn req) auth req.now req.during := by
    unfold handle
    rw [hbody]
  have hneeds : needsProof (prepare s.conn req).ctx = needsProof s.conn.ctx := by
    obtain ⟨charging, h⟩ := hp.ctx
    rw [h]
    rfl
  have hproved : Proved (prepare s.conn req) auth ↔ Proved s.conn auth := by
    obtain ⟨charging, h⟩ := hp.ctx
    unfold Proved challengeValid checkIso2Signature
    rw [h, hp.pubkey]
  have hmono : s.Cleared ∨ s.conn.ctx.terminateConnectionOnFailedResponse = true ∨
      (s.conn.ctx.evseProcessing .auth = .finished →
        Agreed (prepare s.conn req).ctx req.during) := by
    rcases hadmitted with hflag | hcleared | hproper
    · exact .inr (.inl hflag)
    · exact .inl hcleared
    · rw [hbody] at hproper
      exact .inr (.inr (ProperAuthorization.agreed hbody hproper))
  rcases authorization_cases (prepare s.conn req) auth req.now req.during with
    ⟨hneed, hnot, hun⟩ | ⟨hneed, hproof, hstatus⟩ | ⟨hneed, hstatus⟩
  · -- the proof is refused: only an authorized session may go on
    rw [← hhandle] at hun
    have hcleared : s.Cleared := by
      rcases hadmitted with hflag | hcleared | hproper
      · rw [isoHandleRequest_eq s.conn req hne] at hkept
        cases (hun.failed hkept).symm.trans (hflag'.trans hflag)
      · exact hcleared
      · rw [hbody] at hproper
        exact absurd (hproved.mpr (hproper.1 (hneeds.symm.trans hneed))) hnot
    have haccepted : s.conn.ctx.isoSelectedPaymentOption = .contract →
        (handle (prepare s.conn req) req).conn.signatureAccepted = true := fun ho =>
      hun.accepted (hp.signatureAccepted.trans (hcleared.2 ho))
    apply inv_of_outcome hinv hne (by rw [hbody]; rfl) rfl (hun.option.trans hoption)
      (hun.pubkey.trans hp.pubkey) (hun.challengeIssued.trans hp.challengeIssued)
    · intro _
      exact ⟨Bool.or_eq_true_iff.mpr (.inl hcleared.1), haccepted⟩
    · intro _
      exact haccepted
    · intro h
      rcases hun.issued h with h | h
      · exact hinv.accepted (hp.signatureAccepted.symm.trans h)
      · exact hp.challengeIssued.symm.trans h
  · -- the proof is seen: its key comes with a challenge of this connection
    have hissued : s.conn.challengeIssued = true := by
      apply hinv.key
      have hsignature := hproof.2.1
      unfold checkIso2Signature at hsignature
      rw [hp.pubkey] at hsignature
      cases hkey : s.conn.pubkey with
      | none => rw [hkey] at hsignature; cases hsignature
      | some key => rfl
    rw [← hhandle] at hstatus
    refine inv_status hinv hkept (acceptSignature (prepare s.conn req)) hbody rfl hp.pubkey
      hp.challengeIssued ?_ ?_ hmono hstatus
    · intro _
      exact Bool.or_eq_true_iff.mpr (.inr (hp.challengeIssued.trans hissued))
    · intro _
      exact hissued
  · -- no proof is needed: external payment, or not the first request
    rw [← hhandle] at hstatus
    refine inv_status hinv hkept (prepare s.conn req) hbody rfl hp.pubkey hp.challengeIssued ?_ ?_
      hmono hstatus
    · intro ho
      have hlast : s.conn.ctx.lastV2gMsg = .authorization := by
        have h := hneeds.symm.trans hneed
        simpa [needsProof, ho] using h
      exact hp.signatureAccepted.trans (hinv.last hlast ho)
    · intro h
      exact hinv.accepted (hp.signatureAccepted.symm.trans h)

theorem inv_late (hmsg : req.body.msg ∈ lateMsgs) (hselects : selectsContract req.body = false)
    (hproper : Proper s.conn req req.body → isoAllowed s.conn.ctx req.body.msg = true)
    (hlate : Late (prepare s.conn req) (handle (prepare s.conn req) req)) :
    Inv (s.handled req) := by
  have hne : req.body ≠ .unknown := by
    intro h
    rw [h] at hmsg
    exact absurd hmsg (by decide)
  rw [isoHandleRequest_eq s.conn req hne] at hkept
  refine inv_of_keeps hinv hne ?_ hselects hlate.keeps ?_
  · intro h
    rw [h] at hmsg
    exact absurd hmsg (by decide)
  · intro _
    obtain ⟨-, hcurrent, hflag', -, hallowed⟩ := (prepared s.conn req hne).frame
    rcases hadmitted with hflag | hcleared | h
    · have hin := hlate.allowed hkept (hflag'.trans hflag)
      rw [hallowed, hcurrent] at hin
      exact hinv.beyond (six_le_state hmsg hin)
    · exact hcleared
    · exact hinv.beyond (six_le_state hmsg (hproper h))

/-- A request that is admitted keeps this. -/
theorem inv_handled : Inv (s.handled req) := by
  obtain ⟨sessionId, body, now, during⟩ := req
  cases body with
  -- the three handlers that touch the payment data
  | paymentServiceSelection option services => exact inv_paymentServiceSelection hinv rfl
  | paymentDetails details => exact inv_paymentDetails hinv hadmitted hkept rfl
  | authorization auth => exact inv_authorization hinv hadmitted hkept rfl
  -- requests up to the payment selection
  | sessionSetup random => exact inv_early hinv nofun nofun rfl (early_sessionSetup _ random)
  | serviceDiscovery => exact inv_early hinv nofun nofun rfl (early_serviceDiscovery _)
  | serviceDetail serviceId =>
    exact inv_early hinv nofun nofun rfl (early_respond (Keeps.refl _) _ (by decide))
  | certificateInstallation install =>
    exact inv_early hinv nofun nofun rfl (early_certificateInstallation _ install during)
  -- requests of the later phases
  | chargeParameterDiscovery param =>
    have hmsg : V2gMsgTypeId.chargeParameterDiscovery ∈ lateMsgs := by decide
    exact inv_late hinv hadmitted hkept hmsg rfl id (late_chargeParameterDiscovery _ param)
  | powerDelivery delivery =>
    have hmsg : V2gMsgTypeId.powerDelivery ∈ lateMsgs := by decide
    exact inv_late hinv hadmitted hkept hmsg rfl id (late_powerDelivery _ delivery during)
  | chargingStatus | meteringReceipt | cableCheck | preCharge | currentDemand
  | weldingDetection =>
    refine inv_late hinv hadmitted hkept ?_ rfl id (late_self _ _ _)
    simp [Body.msg, lateMsgs, energyMsgs]
  | certificateUpdate =>
    refine inv_of_keeps hinv nofun nofun rfl (Keeps.refl _) fun hstate => hinv.beyond ?_
    rw [← (prepared s.conn ⟨sessionId, .certificateUpdate, now, during⟩ nofun).frame.1]
    exact hstate
  | sessionStop chargingSession =>
    -- the last request of a session closes the connection
    rw [isoHandleRequest_eq _ ⟨sessionId, .sessionStop _, now, during⟩ nofun] at hkept
    cases (sessionStop_event _ _).symm.trans hkept
  | unknown =>
    -- ignored: only the session id has been read
    obtain ⟨hbeyond, hlast, hkey, haccepted, hselected⟩ := hinv
    refine ⟨?_, hlast, hkey, haccepted, ?_⟩
    · intro hstate
      obtain ⟨hauthorized, hproved⟩ := hbeyond hstate
      exact ⟨Bool.or_eq_true_iff.mpr (.inl hauthorized), hproved⟩
    · intro h
      exact hselected ((Bool.or_false _).symm.trans h)

end

/-! ## Runs -/

/-- An open connection has the invariant, a closed one is back in the first state. -/
def Good (s : Session) : Prop :=
  (s.isOpen = true ∧ Inv s) ∨ (s.isOpen = false ∧ s.conn.ctx.state = 0)

theorem good_close (s : Session) : Good s.close := .inr ⟨rfl, rfl⟩

theorem good_authorized (h : Good s) : Authorized s := by
  rintro ⟨msg, hmsg, hallowed⟩
  have hstate := six_le_state (List.mem_append_left _ hmsg) hallowed
  rcases h with ⟨-, hinv⟩ | ⟨-, hzero⟩
  · obtain ⟨hauthorized, hproved⟩ := hinv.beyond hstate
    exact ⟨hauthorized, fun hselected => hproved (hinv.selected hselected)⟩
  · omega

theorem good_step (s : Session) (label : Label) (hgood : Good s) (horderly : Orderly s label) :
    Good (step s label) := by
  rcases hgood with ⟨hopen, hinv⟩ | ⟨hclosed, hstate⟩
  · cases label with
    | request req =>
      rw [step, if_pos hopen]
      split
      · exact good_close _
      · rename_i hkept
        refine .inl ⟨hopen, ?_⟩
        exact inv_handled hinv (horderly hopen) (Bool.eq_false_iff.mpr hkept)
    | write w => exact .inl ⟨hopen, inv_write hinv w⟩
    | disconnect =>
      rw [step, if_pos hopen]
      exact good_close s
  · -- a closed connection handles nothing; the charger goes on writing
    have hnot : ¬ s.isOpen = true := Bool.eq_false_iff.mp hclosed
    cases label with
    | request req | disconnect =>
      rw [step, if_neg hnot]
      exact .inr ⟨hclosed, hstate⟩
    | write w => exact .inr ⟨hclosed, (frame_write s.conn.ctx w).state.trans hstate⟩

/-- While its requests are orderly, a connection only allows parameter discovery and energy
transfer once the session is authorized, and proved if a contract was selected. -/
theorem no_charging_without_authorization (c : Context) (isTlsConnection : Bool)
    (labels : List Label) (h : Along step Orderly (Session.start c isTlsConnection) labels) :
    Always step Authorized (Session.start c isTlsConnection) labels :=
  always_of_along good_step (fun _ => good_authorized) (.inl ⟨rfl, inv_start c isTlsConnection⟩) h

/-- Session setup, service discovery and the selection of contract payment; certificate and
challenge; the signed challenge, once before and once after the charger has authorized. -/
def contractFlow : List Label :=
  let challenge : List UInt8 := List.replicate 16 3
  let signed : Body := .authorization
    { genChallenge := some challenge, signatureIsUsed := true, signatureVerifies := (· == 5) }
  [.request { sessionId := 0, body := .sessionSetup 7 },
   .request { sessionId := 7, body := .serviceDiscovery },
   .request { sessionId := 7, body := .paymentServiceSelection .contract [1] },
   .request
     { sessionId := 7
       body := .paymentDetails
         { emaid := ['a'], certificateReceived := true, certificateParsed := true
           certEmaid := ['a'], publicKey := some 5, subCertificatesLoaded := true
           verifyResult := .verified, random := challenge } },
   .request { sessionId := 7, body := signed },
   .write (.evseProcessing .auth .finished),
   .request { sessionId := 7, body := signed }]

theorem contractFlow_authorized :
    Along step Orderly (Session.start {} true) contractFlow ∧
      Always step Authorized (Session.start {} true) contractFlow ∧
      PastAuthorization (run step (Session.start {} true) contractFlow).conn.ctx := by
  have h : Along step Orderly (Session.start {} true) contractFlow := by decide +kernel
  exact ⟨h, no_charging_without_authorization {} true contractFlow h, by decide +kernel⟩

/-- Session setup, then a CurrentDemandReq. -/
def skippingFlow : List Label :=
  [.request { sessionId := 0, body := .sessionSetup 7 },
   .request { sessionId := 7, body := .currentDemand }]

def skipped : Session := run step (Session.start {} false) skippingFlow

/-- The CurrentDemandReq is refused, and the next one is answered with `OK`. -/
theorem refused_request_skips_authorization :
    ¬ Always step Authorized (Session.start {} false) skippingFlow ∧
      skipped.isOpen = true ∧ skipped.authorized = false ∧
      (isoHandleRequest skipped.conn
        { sessionId := 7, body := .currentDemand }).res.responseCode = .ok := by
  refine ⟨fun h => ?_, by decide +kernel⟩
  exact absurd h.last (show ¬ Authorized skipped by decide +kernel)

end EverestCore.V2G.Iso
