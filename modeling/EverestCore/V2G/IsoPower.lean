import EverestCore.V2G.IsoServer

/-!
# ISO 15118-2: rejected requests and power

A request that is not expected, or that belongs to another session, is answered with a
failed code. Its handler has run by then, and the signals of the dispatcher and of
PowerDelivery go by the previous message and the request alone.
-/

namespace EverestCore.V2G.Iso

open List

/-! ## The property -/

/-- The variables that start power. -/
def power : Signal → Bool
  | .acCloseContactor | .v2gSetupFinished | .startCableCheck | .startPreCharge
  | .currentDemandStarted => true
  | _ => false

variable (conn : Connection)

variable (req : Request)

/-- The request is not allowed in the present state, or its session id makes the answer
`FAILED_UnknownSession`. -/
def Rejected : Prop :=
  isoAllowed conn.ctx req.body.msg = false ∨
    (req.body.msg ≠ .sessionSetup ∧ req.sessionId ≠ 0 ∧ conn.ctx.sessionId ≠ req.sessionId)
deriving Decidable

/-- While the request is handled no variable that starts power is published and
`is_charging` is not set. -/
def NoPowerEffect : Prop :=
  (∀ signal ∈ (isoHandleRequest conn req).conn.published, power signal = false) ∧
    ((isoHandleRequest conn req).conn.ctx.isCharging = true → conn.ctx.isCharging = true)
deriving Decidable

/-- The requests that start power, by the previous message. -/
def Triggers : Prop :=
  match req.body with
  | .powerDelivery delivery => delivery.chargeProgress = .start
  | .currentDemand => conn.ctx.lastV2gMsg = .powerDelivery
  | .cableCheck => conn.ctx.lastV2gMsg = .chargeParameterDiscovery
  | .preCharge => conn.ctx.lastV2gMsg = .cableCheck
  | _ => False

/-! ## Steps without power -/

/-- No signal that concerns power is new. -/
structure Calm (before after : Connection) : Prop where
  published : ∀ signal ∈ after.published, power signal = true → signal ∈ before.published
  isCharging : after.ctx.isCharging = true → before.ctx.isCharging = true

variable (conn : Connection)

theorem Calm.refl : Calm conn conn := ⟨fun _ h _ => h, id⟩

theorem Calm.publish {before after : Connection} (h : Calm before after) {signal : Signal}
    (hs : power signal = false) : Calm before (after.publish signal) := by
  refine ⟨?_, h.isCharging⟩
  intro s hmem hpower
  rcases mem_append.mp hmem with hmem | hmem
  · exact h.published s hmem hpower
  · rw [mem_singleton.mp hmem, hs] at hpower
    cases hpower

theorem Calm.of_eq {before after last : Connection} (h : Calm before after)
    (hpublished : last.published = after.published)
    (hcharging : last.ctx.isCharging = after.ctx.isCharging) : Calm before last :=
  ⟨fun s hs hp => h.published s (hpublished ▸ hs) hp, fun hc => h.isCharging (hcharging ▸ hc)⟩

theorem Calm.trans {a b c : Connection} (hab : Calm a b) (hbc : Calm b c) : Calm a c :=
  ⟨fun s hs hp => hab.published s (hbc.published s hs hp) hp,
    fun h => hab.isCharging (hbc.isCharging h)⟩

variable (c : Context)

theorem writes_isCharging (during : List Write) : (c.writes during).isCharging = c.isCharging := by
  apply Context.writes_of_write (f := Context.isCharging)
  intro c w
  cases w <;> rfl

/-! ## The handlers -/

theorem selectBidi_isCharging (serviceId : Nat) :
    (selectBidi c serviceId).isCharging = c.isCharging := by
  unfold selectBidi
  split
  · rfl
  · split <;> rfl

theorem selectServices_isCharging (charge : Bool) (services : List Nat) :
    (selectServices c charge services).1.isCharging = c.isCharging := by
  induction services generalizing c charge with
  | nil => rfl
  | cons serviceId rest ih =>
    unfold selectServices
    split
    · exact ih c true
    · split
      · exact (ih (selectBidi c serviceId) charge).trans (selectBidi_isCharging c serviceId)
      · rfl

theorem calm_publishOption (option : PaymentOption) : Calm conn (publishOption conn option) := by
  unfold publishOption
  split
  · exact (Calm.refl conn).publish rfl
  · exact Calm.refl conn

theorem calm_paymentDetails (req : PaymentDetailsReq) (now : Int) :
    Calm conn (handleIsoPaymentDetails conn req now).conn := by
  unfold handleIsoPaymentDetails
  dsimp only
  split
  · exact (Calm.refl conn).of_eq rfl rfl
  · split
    · exact (Calm.refl conn).of_eq rfl rfl
    · split <;> exact (Calm.refl conn).of_eq rfl rfl

theorem authorizationVerdict_isCharging (now : Int) :
    (authorizationVerdict c now).1.isCharging = c.isCharging := by
  unfold authorizationVerdict
  split
  · split <;> rfl
  · split <;> rfl

theorem calm_authorizationStatus {before conn : Connection} (h : Calm before conn) (now : Int)
    (during : List Write) : Calm before (authorizationStatus conn now during).conn := by
  refine h.of_eq ?_ ?_
  · rfl
  · exact (authorizationVerdict_isCharging _ now).trans (writes_isCharging conn.ctx during)

theorem calm_authorization (req : AuthorizationReq) (now : Int) (during : List Write) :
    Calm conn (handleIsoAuthorization conn req now during).conn := by
  unfold handleIsoAuthorization
  split
  · exact calm_authorizationStatus (Calm.refl conn) now during
  · split
    · exact (Calm.refl conn).of_eq rfl rfl
    · split
      · exact (Calm.refl conn).of_eq rfl rfl
      · dsimp only
        split
        · exact (Calm.refl conn).of_eq rfl rfl
        · rename_i emaid _
          have hpublish : Calm conn (conn.publish (.requireAuthPnc emaid)) :=
            (Calm.refl conn).publish rfl
          refine calm_authorizationStatus ?_ now during
          exact hpublish.of_eq rfl rfl

theorem calm_chargeParameterDiscovery (req : ChargeParameterDiscoveryReq) :
    Calm conn (handleIsoChargeParameterDiscovery conn req).conn := by
  unfold handleIsoChargeParameterDiscovery
  dsimp only
  split
  · refine (Calm.refl conn).of_eq rfl ?_
    unfold v2hParameter
    split
    · rfl
    · split <;> rfl
  · exact (Calm.refl conn).of_eq rfl rfl

theorem keepTuple_isCharging (tupleId : Nat) : (keepTuple c tupleId).isCharging = c.isCharging := by
  unfold keepTuple
  split <;> rfl

theorem resetIsolation_isCharging : (resetIsolation c).isCharging = c.isCharging := by
  unfold resetIsolation
  split <;> rfl

theorem powerDelivery_calm_after (req : PowerDeliveryReq) (during : List Write) :
    Calm (progressDelivery conn req during).1 (handleIsoPowerDelivery conn req during).conn := by
  have hkeep : ((progressDelivery conn req during).1.mapCtx
      (keepTuple · req.saScheduleTupleId)).ctx.isCharging =
      (progressDelivery conn req during).1.ctx.isCharging := keepTuple_isCharging _ _
  unfold handleIsoPowerDelivery
  dsimp only
  split
  · exact (Calm.refl _).of_eq rfl ((resetIsolation_isCharging _).trans hkeep)
  · split <;> exact (Calm.refl _).of_eq rfl hkeep

theorem calm_progressDelivery (req : PowerDeliveryReq) (during : List Write)
    (h : req.chargeProgress ≠ .start) :
    Calm conn (progressDelivery conn req during).1 := by
  unfold progressDelivery
  cases hp : req.chargeProgress with
  | start => exact absurd hp h
  | stop =>
    show Calm conn (stopDelivery conn)
    have hstop : Calm conn (conn.mapCtx ({ · with isCharging := false })) :=
      ⟨fun _ hs _ => hs, nofun⟩
    unfold stopDelivery
    dsimp only
    split
    · exact hstop.publish rfl
    · exact (hstop.publish rfl).publish rfl
  | renegotiate => exact (Calm.refl conn).of_eq rfl rfl
  | unknown => exact Calm.refl conn

theorem calm_certificateInstallation (req : CertificateInstallationReq) (during : List Write) :
    Calm conn (handleIsoCertificateInstallation conn req during).conn := by
  have hwait : (awaitCertificate conn.ctx req.timedOut during).isCharging =
      conn.ctx.isCharging := by
    unfold awaitCertificate
    split
    · rfl
    · dsimp only
      split <;> exact writes_isCharging conn.ctx during
  unfold handleIsoCertificateInstallation
  dsimp only
  split
  · exact (Calm.refl conn).of_eq rfl rfl
  · split
    · split <;> exact (Calm.refl conn).of_eq rfl hwait
    · exact (Calm.refl conn).of_eq rfl hwait

variable (req : Request)

/-- Handlers are calm unless charging is started. -/
theorem calm_handle
    (h : ∀ delivery, req.body = .powerDelivery delivery → delivery.chargeProgress ≠ .start) :
    Calm conn (handle conn req).conn := by
  unfold handle
  cases hbody : req.body with
  | sessionSetup random =>
    unfold handleIsoSessionSetup
    dsimp only
    split <;> exact (Calm.refl conn).of_eq rfl rfl
  | serviceDiscovery =>
    unfold handleIsoServiceDiscovery correctPaymentOptions
    dsimp only
    split <;> exact (Calm.refl conn).of_eq rfl rfl
  | paymentServiceSelection option services =>
    have hpublished := (calm_publishOption conn option).published
    have hcharging := selectServices_isCharging conn.ctx false services
    unfold handleIsoPaymentServiceSelection
    cases option with
    | contract | externalPayment => exact ⟨hpublished, fun h => hcharging.symm.trans h⟩
  | paymentDetails details => exact calm_paymentDetails conn details req.now
  | authorization auth => exact calm_authorization conn auth req.now req.during
  | chargeParameterDiscovery params => exact calm_chargeParameterDiscovery conn params
  | powerDelivery delivery =>
    exact (calm_progressDelivery conn delivery req.during (h delivery hbody)).trans
      (powerDelivery_calm_after conn delivery req.during)
  | certificateInstallation cert => exact calm_certificateInstallation conn cert req.during
  | sessionStop chargingSession =>
    unfold handleIsoSessionStop
    cases chargingSession with
    | terminate | unknown => exact (Calm.refl conn).of_eq rfl rfl
    | pause =>
      dsimp only
      split <;> exact (Calm.refl conn).of_eq rfl rfl
  | certificateUpdate | unknown => exact Calm.refl conn
  | currentDemand | serviceDetail | chargingStatus | meteringReceipt | cableCheck | preCharge
  | weldingDetection => exact (Calm.refl conn).of_eq rfl rfl

/-! ## The dispatcher -/

theorem calm_announce (msg : V2gMsgTypeId)
    (hdemand : msg = .currentDemand → conn.ctx.lastV2gMsg ≠ .powerDelivery)
    (hcable : msg = .cableCheck → conn.ctx.lastV2gMsg ≠ .chargeParameterDiscovery)
    (hpre : msg = .preCharge → conn.ctx.lastV2gMsg ≠ .cableCheck) :
    Calm conn (announce conn msg) := by
  unfold announce
  split
  · rw [if_neg (hdemand rfl)]
    exact Calm.refl conn
  · split
    · exact (Calm.refl conn).publish rfl
    · exact Calm.refl conn
  · rw [if_neg (hcable rfl)]
    exact Calm.refl conn
  · rw [if_neg (hpre rfl)]
    exact Calm.refl conn
  · exact Calm.refl conn

theorem calm_prepare (h : ¬ Triggers conn req) : Calm (receive conn req) (prepare conn req) := by
  have hannounce : ∀ msg, (msg = .currentDemand → conn.ctx.lastV2gMsg ≠ .powerDelivery) →
      (msg = .cableCheck → conn.ctx.lastV2gMsg ≠ .chargeParameterDiscovery) →
      (msg = .preCharge → conn.ctx.lastV2gMsg ≠ .cableCheck) →
      Calm (receive conn req) (announce (setCurrentMsg (receive conn req) msg) msg) := by
    intro msg hdemand hcable hpre
    have hset : Calm (receive conn req) (setCurrentMsg (receive conn req) msg) :=
      (Calm.refl _).of_eq rfl rfl
    exact hset.trans (calm_announce (setCurrentMsg (receive conn req) msg) msg hdemand hcable hpre)
  unfold prepare
  unfold Triggers at h
  cases hbody : req.body <;> rw [hbody] at h
  case unknown => exact Calm.refl _
  all_goals
    apply hannounce
    all_goals
      intro hmsg
      first
        | exact h
        | cases hmsg

theorem isoHandleRequest_published :
    (isoHandleRequest conn req).conn.published =
      (handle (prepare conn req) req).conn.published := by
  unfold isoHandleRequest
  split <;> rfl

theorem noPowerEffect_of_not_triggers {conn : Connection} {req : Request}
    (h : ¬ Triggers conn req) : NoPowerEffect conn req := by
  have hcalm : Calm (receive conn req) (handle (prepare conn req) req).conn := by
    apply (calm_prepare conn req h).trans
    apply calm_handle
    intro delivery hbody hstart
    apply h
    unfold Triggers
    rw [hbody]
    exact hstart
  refine ⟨?_, ?_⟩
  · intro signal hmem
    rw [isoHandleRequest_published] at hmem
    cases hpower : power signal with
    | false => rfl
    | true => cases hcalm.published signal hmem hpower
  · unfold isoHandleRequest
    split <;> exact hcalm.isCharging

theorem start_published (req : PowerDeliveryReq) (during : List Write)
    (h : req.chargeProgress = .start) :
    .v2gSetupFinished ∈ (handleIsoPowerDelivery conn req during).conn.published := by
  have hstart : .v2gSetupFinished ∈ (progressDelivery conn req during).1.published := by
    unfold progressDelivery
    rw [h]
    show .v2gSetupFinished ∈ (startDelivery conn req during).1.published
    unfold startDelivery
    dsimp only
    split
    · split
      · exact mem_concat_self
      · exact mem_append_left _ mem_concat_self
    · split
      · exact mem_append_left _ mem_concat_self
      · exact mem_concat_self
  unfold handleIsoPowerDelivery
  dsimp only
  split
  · exact hstart
  · split <;> exact hstart

theorem mem_announce {conn : Connection} :
    (conn.ctx.lastV2gMsg = .powerDelivery →
      .currentDemandStarted ∈ (announce conn .currentDemand).published) ∧
    (conn.ctx.lastV2gMsg = .chargeParameterDiscovery →
      .startCableCheck ∈ (announce conn .cableCheck).published) ∧
    (conn.ctx.lastV2gMsg = .cableCheck →
      .startPreCharge ∈ (announce conn .preCharge).published) := by
  refine ⟨?_, ?_, ?_⟩ <;> intro h <;> rw [announce, if_pos h] <;> exact mem_concat_self

theorem triggers_published {conn : Connection} {req : Request} (h : Triggers conn req) :
    ∃ signal ∈ (isoHandleRequest conn req).conn.published, power signal = true := by
  rw [isoHandleRequest_published]
  unfold Triggers at h
  unfold handle prepare
  cases hbody : req.body <;> rw [hbody] at h <;> try exact absurd h id
  case powerDelivery delivery =>
    exact ⟨.v2gSetupFinished, start_published _ delivery req.during h, rfl⟩
  case currentDemand =>
    refine ⟨.currentDemandStarted, ?_, rfl⟩
    exact mem_announce.1 h
  case cableCheck =>
    refine ⟨.startCableCheck, ?_, rfl⟩
    exact mem_announce.2.1 h
  case preCharge =>
    refine ⟨.startPreCharge, ?_, rfl⟩
    exact mem_announce.2.2 h

/-! ## Main results -/

/-- Power is started by the triggering requests and by no others. Whether the request is
rejected plays no part in it. -/
theorem noPowerEffect_iff : NoPowerEffect conn req ↔ ¬ Triggers conn req := by
  refine ⟨?_, noPowerEffect_of_not_triggers⟩
  intro hnone htriggers
  obtain ⟨signal, hmem, hpower⟩ := triggers_published htriggers
  rw [hnone.1 signal hmem] at hpower
  cases hpower

/-- **A rejected request has no effect on power** exactly if it is not one of the
triggering requests. -/
theorem rejected_has_no_power_effect_iff (conn : Connection) (req : Request) :
    (Rejected conn req → NoPowerEffect conn req) ↔ ¬ (Rejected conn req ∧ Triggers conn req) := by
  rw [noPowerEffect_iff, not_and]

def freshAc : Connection := { ctx := { isDcCharger := false } }

def startReq : Request :=
  { sessionId := 0
    body := .powerDelivery
      { chargeProgress := .start, saScheduleTupleId := 1
        chargingProfileInvalid := false, timedOut := false }
    during := [.contactorIsClosed true] }

/-- As the very first request of a connection, PowerDelivery is answered with
`FAILED_SequenceError` and closes the contactor. -/
theorem first_request_closes_contactor :
    Rejected freshAc startReq ∧
      (isoHandleRequest freshAc startReq).res.responseCode = .failedSequenceError ∧
      (isoHandleRequest freshAc startReq).conn.published = [.v2gSetupFinished, .acCloseContactor] ∧
      (isoHandleRequest freshAc startReq).conn.ctx.isCharging = true ∧
      ¬ NoPowerEffect freshAc startReq := by
  decide +kernel

end EverestCore.V2G.Iso
