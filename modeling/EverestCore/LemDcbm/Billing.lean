import EverestCore.LemDcbm.Exchanges
import EverestCore.Lib.Machine

/-!
# Which record a stopped transaction is billed with

A stop that is answered with `ok` carries a signed record. It should be one that the
meter delivered for the transaction that is stopped.
-/

namespace EverestCore.LemDcbm

open EverestCore.Lib

/-- The meter has delivered the record for the transaction. -/
def Delivered (log : List Exchange) (tid body : String) : Prop :=
  ∃ v2, (⟨.getOcmf v2 tid, .ok ⟨200, body⟩⟩ : Exchange) ∈ log

/-- The transaction a stop is about. -/
def regarded (w : World) (transactionId : String) : String :=
  if transactionId = "" then w.currentTransactionId else transactionId

/-- An answer that reports success has a record delivered for the transaction. -/
def Bills (log : List Exchange) (tid : String) (response : TransactionStopResponse) : Prop :=
  response.status = .ok →
    ∃ value, response.signedMeterValue = some value ∧ Delivered log tid value.signedMeterData

variable (env : Setup)

/-- What a call must meet: a stop that returns bills its own transaction. -/
def Billed (w : World) : Call → Prop
  | .stopTransaction transactionId =>
    Ends (fun response after => Bills after.log (regarded w transactionId) response)
      (fun _ _ => True) ((stopTransaction env transactionId).exec w)
  | _ => True

def LosesConnection (needToExecuteDeviceStopTransaction : Bool) (tid : String) (w : World) :
    Prop :=
  Ends (fun _ _ => False) (fun e _ => ∃ reason, e = .httpClientError reason)
    ((callWithRetry (stopAndFetch env needToExecuteDeviceStopTransaction tid)
      env.config.transactionNumberOfHttpRetries).exec w)

/-- A stop that loses its connection finds no remembered record, or one of the transaction it
is about. -/
def OwnRecord (w : World) : Call → Prop
  | .stopTransaction transactionId =>
    match planStop transactionId w with
    | (.noDanglingTransaction, _) => True
    | (.attempt execute tid, planned) =>
      LosesConnection env execute tid planned →
        w.currentSignedMeterValue.publicKey.isSome →
          Delivered w.log (regarded w transactionId) w.currentSignedMeterValue.signedMeterData
  | _ => True

/-! ## Fetching a record -/

section

variable {env}

/-- An exchange that delivers no record. -/
def Exchange.Bare (x : Exchange) : Prop :=
  ∀ v2 tid body, body ≠ "" → x ≠ ⟨.getOcmf v2 tid, .ok ⟨200, body⟩⟩

theorem bare_of_request {x : Exchange} (hreq : x.request.isOcmf = false) : x.Bare := by
  rintro v2 tid body - rfl
  cases hreq

theorem fetchOcmfResult_spec {P : World → Prop} (tid : String) :
    Triple P (fetchOcmfResult env tid)
      (fun body after => body ≠ "" ∧ ∃ w v2, P w ∧
        after = w.logged ⟨.getOcmf v2 tid, .ok ⟨200, body⟩⟩)
      (fun _ after => ∃ w x, P w ∧ x.Bare ∧ after = w.logged x) := by
  refine triple_bind (triple_get (Q := fun _ => P) fun _ h => h) fun world => ?_
  refine triple_bind (Q := fun response after => response.statusCode = 200 ∧ ∃ w, P w ∧
    after = w.logged ⟨.getOcmf world.v2Capable tid, .ok response⟩)
    (triple_sendExpecting ?_ ?_ ?_) fun response => ?_
  · intro w body hw
    exact ⟨rfl, w, hw, rfl⟩
  · intro w response hw hcode
    refine ⟨w, _, hw, ?_, rfl⟩
    rintro v2 tid body - heq
    cases heq
    exact hcode rfl
  · intro w reason hw
    refine ⟨w, _, hw, ?_, rfl⟩
    rintro v2 tid body - heq
    cases heq
  · obtain ⟨code, body⟩ := response
    by_cases hbody : body = ""
    · rw [if_pos hbody]
      refine triple_throw ?_
      rintro _ ⟨-, w, hw, rfl⟩
      refine ⟨w, _, hw, ?_, rfl⟩
      rintro v2 tid body' hne heq
      cases heq
      exact hne hbody
    · rw [if_neg hbody]
      refine triple_pure ?_
      rintro _ ⟨hcode, w, hw, rfl⟩
      cases hcode
      exact ⟨hbody, w, _, hw, rfl⟩

/-- Since `w₀`, no record was delivered and none was remembered. -/
structure Unbilled (w₀ w : World) : Prop where
  remembered : w.currentSignedMeterValue = w₀.currentSignedMeterValue
  delivered : ∀ tid body, body ≠ "" → (Delivered w.log tid body ↔ Delivered w₀.log tid body)

theorem Unbilled.refl (w : World) : Unbilled w w := ⟨rfl, fun _ _ _ => Iff.rfl⟩

theorem Unbilled.logged {w₀ w : World} (h : Unbilled w₀ w) {x : Exchange} (hx : x.Bare) :
    Unbilled w₀ (w.logged x) := by
  refine ⟨h.remembered, fun tid body hbody => ?_⟩
  rw [← h.delivered tid body hbody]
  refine ⟨fun ⟨v2, hmem⟩ => ?_, fun ⟨v2, hmem⟩ => ⟨v2, List.mem_append_left _ hmem⟩⟩
  rcases List.mem_append.mp hmem with hold | hnew
  · exact ⟨v2, hold⟩
  · exact absurd (List.mem_singleton.mp hnew).symm (hx v2 tid body hbody)

theorem fetchSignedMeterValue_spec (w₀ : World) (tid : String) :
    Triple (Unbilled w₀) (fetchSignedMeterValue env tid)
      (fun response w => Bills w.log tid response) (fun _ => Unbilled w₀) := by
  refine triple_bind ((fetchOcmfResult_spec tid).conseq (fun _ h => h) (fun _ _ h => h) ?_)
    fun ocmf => ?_
  · rintro _ _ ⟨w, x, hw, hx, rfl⟩
    exact hw.logged hx
  · refine triple_bind (Q := fun _ w => Delivered w.log tid ocmf) (triple_get ?_) fun world =>
      triple_pure fun w hw _ => ⟨_, rfl, hw⟩
    rintro _ ⟨-, w, v2, -, rfl⟩
    exact ⟨v2, List.mem_concat_self⟩

theorem stopAndFetch_spec (w₀ : World) (execute : Bool) (tid : String) :
    Triple (Unbilled w₀) (stopAndFetch env execute tid) (fun response w => Bills w.log tid response)
      (fun _ => Unbilled w₀) := by
  have hstop : Keeps (Unbilled w₀) (requestDeviceToStopTransaction env tid) :=
    keeps_requestDeviceToStopTransaction (fun _ _ hreq h => h.logged (bare_of_request hreq)) tid
  cases execute with
  | true => exact triple_bind hstop fun _ => fetchSignedMeterValue_spec w₀ tid
  | false => exact fetchSignedMeterValue_spec w₀ tid

end

/-! ## The remembered record -/

/-- The remembered record is not an empty one. -/
def Remembered (w : World) : Prop :=
  w.currentSignedMeterValue.publicKey.isSome → w.currentSignedMeterValue.signedMeterData ≠ ""

section

variable {env}

theorem remembered_logged (w : World) (exchange : Exchange) (_ : exchange.request.isOcmf = false)
    (h : Remembered w) : Remembered (w.logged exchange) := h

theorem remembered_saved (w : World) (saved : Bool) (h : Remembered w) :
    Remembered { w with dcbmNtpSettingsSaved := saved } := h

theorem keeps_updateLemStatus : Keeps Remembered (updateLemStatus env) :=
  keeps_bind (keeps_sendExpecting remembered_logged _ rfl) fun _ =>
    keeps_bind (keeps_orThrow _ _) fun _ => keeps_bind (keeps_modify fun _ h => h) fun _ =>
      keeps_bind (keeps_getCurrentTransaction remembered_logged) fun _ => keeps_modify fun _ h => h

theorem keeps_fetchMeterIdFromDevice : Keeps Remembered (fetchMeterIdFromDevice env) := by
  have field {α β : Type} (err : String → Err) (r : Except String α) (f : α → World → World)
      (rest : M β) (hf : ∀ a w, Remembered w → Remembered (f a w)) (hrest : Keeps Remembered rest) :
      Keeps Remembered (do let a ← orThrow err r; modify (f a); rest) :=
    keeps_bind (keeps_orThrow _ _) fun a => keeps_bind (keeps_modify (hf a)) fun _ => hrest
  refine keeps_bind (keeps_sendExpecting remembered_logged _ rfl) fun _ => ?_
  refine field _ _ _ _ (fun _ _ h => h) (field _ _ _ _ (fun _ _ h => h)
    (field _ _ _ _ (fun _ _ h => h) (field _ _ _ _ (fun _ _ h => h) ?_)))
  exact keeps_bind (keeps_getCurrentTransaction remembered_logged) fun _ =>
    keeps_modify fun _ h => h

theorem keeps_init : Keeps Remembered (init env) :=
  keeps_bind (keeps_retry keeps_fetchMeterIdFromDevice _) fun _ => keeps_modify fun _ h => h

theorem keeps_startTransaction (value : TransactionReq) :
    Keeps Remembered (startTransaction env value) := by
  refine keeps_tryCatch ?_ fun e => ?_
  · refine keeps_bind (keeps_bind keeps_get fun world => keeps_ite ?_ keeps_pure) fun _ =>
      keeps_bind (keeps_retry (keeps_requestDeviceToStartTransaction remembered_logged
        remembered_saved value) _) fun _ => keeps_bind (keeps_modify fun _ h => h) fun _ =>
          keeps_pure
    refine keeps_tryCatch (keeps_bind
      (keeps_requestDeviceToStopTransaction remembered_logged _) fun _ =>
        keeps_modify fun _ h => h) fun e => ?_
    cases e with
    | unexpectedResponseCode _ _ _ => exact keeps_pure
    | unexpectedResponseBody _ _ | httpClientError _ | json _ => exact keeps_throw
  · cases e with
    | json _ => exact keeps_throw
    | httpClientError _ | unexpectedResponseCode _ _ _
    | unexpectedResponseBody _ _ => exact keeps_pure

theorem keeps_stopAndFetch (execute : Bool) (tid : String) :
    Keeps Remembered (stopAndFetch env execute tid) := by
  have hfetch : Keeps Remembered (fetchSignedMeterValue env tid) := by
    refine keeps_bind ((fetchOcmfResult_spec tid).conseq (fun _ h => h) ?_ ?_) fun _ =>
      keeps_bind keeps_get fun _ => keeps_pure
    · rintro _ _ ⟨-, w, _, hw, rfl⟩
      exact hw
    · rintro _ _ ⟨w, _, hw, -, rfl⟩
      exact hw
  cases execute with
  | true =>
    exact keeps_bind (keeps_requestDeviceToStopTransaction remembered_logged tid) fun _ => hfetch
  | false => exact hfetch

theorem keeps_finishStop (execute : Bool) (tid : String) :
    Keeps Remembered (finishStop env execute tid) := by
  refine keeps_tryCatch (keeps_retry (keeps_stopAndFetch execute tid) _) fun e => ?_
  cases e with
  | json _ => exact keeps_throw
  | httpClientError _ =>
    refine keeps_bind keeps_get fun _ => keeps_ite keeps_pure (keeps_bind (keeps_modify ?_)
      fun _ => keeps_pure)
    rintro w - ⟨⟩
  | unexpectedResponseCode _ _ _ => exact keeps_pure
  | unexpectedResponseBody _ _ => exact keeps_pure

variable (transactionId : String)

theorem planStop_world (w : World) :
    (planStop transactionId w).2.currentSignedMeterValue = w.currentSignedMeterValue ∧
      (planStop transactionId w).2.log = w.log := by
  simp only [planStop]
  split_ifs <;> exact ⟨rfl, rfl⟩

theorem planStop_tid {transactionId tid : String} {w : World} {execute : Bool}
    (h : (planStop transactionId w).1 = .attempt execute tid) : tid = regarded w transactionId := by
  cases hempty : transactionId == "" with
  | false =>
    rw [regarded, if_neg (by simpa using hempty)]
    simp only [planStop, hempty, Bool.and_false, Bool.false_eq_true, if_false] at h
    cases h
    rfl
  | true =>
    rw [regarded, if_pos (by simpa using hempty)]
    cases hneed : w.needToStopTransaction <;>
      cases hcurrent : transactionId == w.currentTransactionId <;>
      simp [planStop, hneed, hcurrent, hempty] at h
    -- a transaction without an id, and one with an id
    · exact h.2.symm
    · rw [← h.2]
      simpa using hcurrent

theorem exec_stopTransaction (w : World) :
    (stopTransaction env transactionId).exec w = match (planStop transactionId w).1 with
      | .noDanglingTransaction =>
        (.ok { status := .unexpectedError, error := some "No dangling transaction open" },
          (planStop transactionId w).2)
      | .attempt execute tid => (finishStop env execute tid).exec (planStop transactionId w).2 := by
  rw [stopTransaction, exec_bind]
  show ((modify _ >>= _ : M TransactionStopResponse).exec w) = _
  rw [exec_bind]
  show Eff.exec (match (planStop transactionId w).1 with
    | .noDanglingTransaction => _
    | .attempt execute tid => _) (planStop transactionId w).2 = _
  cases (planStop transactionId w).1 with
  | noDanglingTransaction => rfl
  | attempt execute tid => rfl

theorem keeps_stopTransaction : Keeps Remembered (stopTransaction env transactionId) := by
  refine keeps_bind keeps_get fun world => keeps_bind (keeps_modify fun w hw => ?_) fun _ => ?_
  · unfold Remembered
    rw [(planStop_world transactionId w).1]
    exact hw
  · cases (planStop transactionId world).1 with
    | noDanglingTransaction => exact keeps_pure
    | attempt execute tid => exact keeps_finishStop execute tid

theorem keeps_rememberOcmf (timestamp : String) :
    Keeps Remembered (rememberOcmf env timestamp) := by
  refine keeps_bind keeps_get fun world => keeps_ite ?_ keeps_pure
  refine triple_tryCatch (F := fun _ => Remembered) (triple_bind
    ((fetchOcmfResult_spec world.currentTransactionId).conseq (fun _ h => h) (fun _ _ h => h) ?_)
    fun ocmf => triple_modify ?_) fun e => ?_
  · rintro _ _ ⟨w, _, hw, -, rfl⟩
    exact hw
  · rintro w ⟨hne, -⟩ -
    exact hne
  · cases e with
    | json _ => exact keeps_throw
    | httpClientError _ => exact keeps_pure
    | unexpectedResponseCode _ _ _ => exact keeps_pure
    | unexpectedResponseBody _ _ => exact keeps_pure

theorem keeps_getPowermeter : Keeps Remembered (getPowermeter env) :=
  keeps_bind (keeps_syncIfDeadlineExpired remembered_logged remembered_saved) fun _ =>
    keeps_bind keeps_get fun _ => keeps_bind (keeps_sendExpecting remembered_logged _ rfl) fun _ =>
      keeps_bind (keeps_orThrow _ _) fun _ => keeps_bind (keeps_rememberOcmf _) fun _ => keeps_pure

/-- Every call keeps what is known about the record. -/
theorem remembered_step (w : World) (call : Call) (h : Remembered w) :
    Remembered (step env w call) := by
  cases call with
  | init => exact keeps_init.after w h
  | startTransaction value => exact (keeps_startTransaction value).after w h
  | stopTransaction transactionId => exact (keeps_stopTransaction transactionId).after w h
  | getPowermeter => exact keeps_getPowermeter.after w h
  | updateLemStatus => exact keeps_updateLemStatus.after w h

end

/-! ## Results -/

section

variable {env}

theorem finishStop_bills_iff (execute : Bool) (tid : String) (w : World) (hw : Remembered w) :
    Ends (fun response after => Bills after.log tid response) (fun _ _ => True)
        ((finishStop env execute tid).exec w) ↔
      (LosesConnection env execute tid w → w.currentSignedMeterValue.publicKey.isSome →
        Delivered w.log tid w.currentSignedMeterValue.signedMeterData) := by
  have hends : Ends (fun response after => Bills after.log tid response) (fun _ => Unbilled w)
      ((callWithRetry (stopAndFetch env execute tid)
        env.config.transactionNumberOfHttpRetries).exec w) :=
    triple_retry (stopAndFetch_spec w execute tid) (fun _ _ h => h) _ w (Unbilled.refl w)
  rw [finishStop, exec_tryCatch, LosesConnection]
  match hexec : (callWithRetry (stopAndFetch env execute tid)
      env.config.transactionNumberOfHttpRetries).exec w with
  | (.ok response, after) =>
    rw [hexec] at hends
    exact ⟨fun _ hlost => hlost.elim, fun _ => hends⟩
  | (.error (.json reason), after) => exact ⟨fun _ ⟨_, heq⟩ => (nomatch heq), fun _ => trivial⟩
  | (.error (.unexpectedResponseCode endpoint code response), after)
  | (.error (.unexpectedResponseBody endpoint error), after) =>
    exact ⟨fun _ ⟨_, heq⟩ => (nomatch heq), fun _ hok => (nomatch hok)⟩
  | (.error (.httpClientError reason), after) =>
    rw [hexec] at hends
    obtain ⟨hremembered, hdelivered⟩ := hends
    show Ends _ _ (Eff.exec (get >>= _ : M TransactionStopResponse) after) ↔ _
    rw [exec_bind]
    show Ends _ _ (Eff.exec (if after.currentSignedMeterValue.publicKey.isSome then _ else _)
      after) ↔ _
    rw [hremembered]
    by_cases hkey : w.currentSignedMeterValue.publicKey.isSome
    · rw [if_pos hkey]
      have hiff := hdelivered tid _ (hw hkey)
      refine ⟨fun h _ _ => ?_, fun h _ => ⟨_, rfl, hiff.mpr (h ⟨_, rfl⟩ hkey)⟩⟩
      obtain ⟨value, heq, hvalue⟩ := h rfl
      cases heq
      exact hiff.mp hvalue
    · rw [if_neg hkey]
      exact ⟨fun _ _ hsome => absurd hsome hkey, fun _ hok => (nomatch hok)⟩

theorem billed_iff_ownRecord (w : World) (call : Call) (hw : Remembered w) :
    Billed env w call ↔ OwnRecord env w call := by
  cases call with
  | stopTransaction transactionId =>
    obtain ⟨hremembered, hlog⟩ := planStop_world transactionId w
    rw [Billed, exec_stopTransaction, OwnRecord]
    match hplan : planStop transactionId w with
    | (.noDanglingTransaction, planned) => exact ⟨fun _ => trivial, fun _ hok => (nomatch hok)⟩
    | (.attempt execute tid, planned) =>
      rw [hplan] at hremembered hlog
      have hplanned : Remembered planned := by
        unfold Remembered
        rw [hremembered]
        exact hw
      rw [← planStop_tid (congrArg Prod.fst hplan), ← hlog, ← hremembered]
      exact finishStop_bills_iff execute tid planned hplanned
  | init | startTransaction value | getPowermeter | updateLemStatus => exact Iff.rfl

/-- The records are right in exactly the runs in which every stop that loses its connection
finds its own record remembered, or none. -/
theorem billed_with_own_record_iff (env : Setup) (calls : List Call) :
    Along (step env) (Billed env) {} calls ↔ Along (step env) (OwnRecord env) {} calls :=
  along_congr (fun w call => remembered_step w call) (fun w call => billed_iff_ownRecord w call)
    calls nofun

/-! A meter that is cut off while transaction `B` is being stopped. -/

def cutOffSetup : Setup where
  config :=
    { initNumberOfHttpRetries := 1, transactionNumberOfHttpRetries := 1, cableId := 0,
      tariffId := 0, meterTimezone := "+00:00", meterDst := "null", SC := 0, UV := "", UD := "",
      ntpEnabled := false }
  parse :=
    { meterId := fun _ => .ok "meter", publicKeyOcmf := fun _ => .ok "key",
      transactionIsOnGoing := fun _ => .ok false,
      applicationFirmwareVersion := fun _ => .ok "0.1.0.0",
      transactionId := fun _ => .ok "", running := fun _ => .ok true,
      transactionStatus := fun _ => .ok 0, result := fun _ => .ok 1,
      livemeasure := fun _ => .ok ⟨"noon", 0, 0, 0, 0, 0, 0, 0⟩ }
  peer := fun _ request => match request with
    | .postLegal _ _ => .ok ⟨201, "running"⟩
    | .putLegal _ tid => if tid = "B" then .error "timeout" else .ok ⟨200, "stopped"⟩
    | .getOcmf _ tid => if tid = "B" then .error "timeout" else .ok ⟨200, "OCMF record of A"⟩
    | _ => .ok ⟨200, "fine"⟩
  unsafePeriodOver := fun _ => true
  deadlineForNextSyncReached := fun _ => false

def twoTransactions : List Call :=
  [.init, .startTransaction ⟨"evse", "A", none, none⟩, .getPowermeter, .stopTransaction "A",
    .startTransaction ⟨"evse", "B", none, none⟩]

/-- Transaction `B` is billed with the record that was fetched while `A` was running. -/
theorem record_of_other_transaction_is_billed :
    ((stopTransaction cutOffSetup "B").exec (run (step cutOffSetup) {} twoTransactions)).1 =
        .ok { status := .ok
              signedMeterValue := some
                { signedMeterData := "OCMF record of A", encodingMethod := "OCMF",
                  publicKey := some "key", timestamp := some "noon" } } ∧
      ¬ Along (step cutOffSetup) (Billed cutOffSetup) {}
        (twoTransactions ++ [.stopTransaction "B"]) := by
  refine ⟨rfl, fun h => ?_⟩
  obtain ⟨hbilled, -⟩ := ((along_append _ _ _).mp h).2
  obtain ⟨value, heq, v2, hmem⟩ := hbilled rfl
  -- the record of `B` was not even requested
  have hnot : ∀ v2, Request.getOcmf v2 "B" ∉
      (run (step cutOffSetup) {} (twoTransactions ++ [.stopTransaction "B"])).log.map
        Exchange.request := by decide
  exact hnot v2 (List.mem_map_of_mem (f := Exchange.request) hmem)

end

end EverestCore.LemDcbm
