import EverestCore.LemDcbm.Controller
import Mathlib.Logic.Basic

/-!
# What the controller's exchanges leave unchanged

Specifications of the exchanges, and of the functions that do little more: a property that
only requests for records can touch survives all other exchanges.
-/

namespace EverestCore.LemDcbm

open EverestCore.Lib

def World.logged (w : World) (exchange : Exchange) : World :=
  { w with log := w.log ++ [exchange] }

def Request.isOcmf : Request → Bool
  | .getOcmf _ _ => true
  | _ => false

section

variable {env : Setup} {P : World → Prop} {E : Err → World → Prop} {request : Request}
    {Q : HttpResponse → World → Prop}

theorem triple_send (hok : ∀ w response, P w → Q response (w.logged ⟨request, .ok response⟩))
    (herr : ∀ w reason, P w → E (.httpClientError reason) (w.logged ⟨request, .error reason⟩)) :
    Triple P (send env request) Q E := by
  intro w hw
  rw [send, exec_bind]
  show Ends Q E ((modify _ >>= _ : M HttpResponse).exec w)
  match hpeer : env.peer w.log request with
  | .ok response => exact hok w response hw
  | .error reason => exact herr w reason hw

theorem triple_sendExpecting {code : Nat}
    (hok : ∀ w body, P w → Q ⟨code, body⟩ (w.logged ⟨request, .ok ⟨code, body⟩⟩))
    (hcode : ∀ w response, P w → response.statusCode ≠ code →
      E (.unexpectedResponseCode request.endpoint code response)
        (w.logged ⟨request, .ok response⟩)) (herr : ∀ w reason, P w →
      E (.httpClientError reason) (w.logged ⟨request, .error reason⟩)) :
    Triple P (sendExpecting env code request) Q E := by
  refine triple_bind (Q := fun response w' => ∃ w, P w ∧ w' = w.logged ⟨request, .ok response⟩)
    (triple_send (fun w response hw => ⟨w, hw, rfl⟩) herr) fun response => ?_
  by_cases hexpected : response.statusCode = code
  · rw [if_neg (not_not.mpr hexpected)]
    refine triple_pure ?_
    rintro _ ⟨w, hw, rfl⟩
    obtain ⟨_, body⟩ := response
    subst hexpected
    exact hok w body hw
  · rw [if_pos hexpected]
    refine triple_throw ?_
    rintro _ ⟨w, hw, rfl⟩
    exact hcode w response hw hexpected

variable (hlog : ∀ w exchange, exchange.request.isOcmf = false → P w → P (w.logged exchange))

include hlog

theorem keeps_sendExpecting (code : Nat) (hreq : request.isOcmf = false) :
    Keeps P (sendExpecting env code request) :=
  triple_sendExpecting (fun w _ hw => hlog w _ hreq hw) (fun w _ hw _ => hlog w _ hreq hw)
    (fun w _ hw => hlog w _ hreq hw)

omit hlog in
theorem keeps_orThrow {α : Type} (err : String → Err) (r : Except String α) :
    Keeps P (orThrow err r) := by
  cases r with
  | ok a => exact keeps_pure
  | error what => exact keeps_throw

theorem keeps_requestDeviceToStopTransaction (tid : String) :
    Keeps P (requestDeviceToStopTransaction env tid) := by
  refine keeps_bind keeps_get fun world => keeps_bind (keeps_sendExpecting hlog _ rfl) fun response
    =>
    keeps_bind (keeps_orThrow _ _) fun status => ?_
  exact keeps_ite keeps_throw keeps_pure

theorem keeps_getCurrentTransaction : Keeps P (getCurrentTransaction env) :=
  keeps_bind keeps_get fun _ => keeps_bind (keeps_sendExpecting hlog _ rfl) fun _ =>
    keeps_orThrow _ _

/-! ## Time synchronisation -/

theorem keeps_putSetting (setting : Setting) : Keeps P (putSetting env setting) :=
  keeps_bind (keeps_sendExpecting hlog _ rfl) fun _ => keeps_bind (keeps_orThrow _ _) fun _ =>
    keeps_ite keeps_pure keeps_throw

variable (hsaved : ∀ w saved, P w → P { w with dcbmNtpSettingsSaved := saved })

include hsaved

theorem keeps_sync : Keeps P (sync env) := by
  refine keeps_bind keeps_get fun world => keeps_ite keeps_pure ?_
  have hrest : Keeps P (do syncTimezone env; syncDst env) :=
    keeps_bind (keeps_putSetting hlog _) fun _ => keeps_putSetting hlog _
  exact keeps_ite (c := env.config.ntpEnabled = true)
    (keeps_bind (keeps_bind (keeps_putSetting hlog _) fun _ => keeps_bind (keeps_bind keeps_get fun
      _ => keeps_pure) fun _ => keeps_modify fun w hw => hsaved w _ hw) fun _ => hrest)
    (keeps_bind (keeps_putSetting hlog _) fun _ => hrest)

theorem keeps_syncIfDeadlineExpired : Keeps P (syncIfDeadlineExpired env) := by
  refine keeps_bind keeps_get fun world => keeps_ite keeps_pure (keeps_ite ?_ keeps_pure)
  refine keeps_tryCatch (keeps_sync hlog hsaved) fun e => ?_
  cases e with
  | unexpectedResponseCode _ _ _ => exact keeps_pure
  | unexpectedResponseBody _ _ => exact keeps_pure
  | httpClientError _ => exact keeps_throw
  | json _ => exact keeps_throw

theorem keeps_requestDeviceToStartTransaction (value : TransactionReq) :
    Keeps P (requestDeviceToStartTransaction env value) :=
  keeps_bind (keeps_sync hlog hsaved) fun _ => keeps_bind keeps_get fun _ =>
    keeps_bind (keeps_sendExpecting hlog _ rfl) fun _ => keeps_bind (keeps_orThrow _ _) fun _ =>
      keeps_ite keeps_pure keeps_throw

end

end EverestCore.LemDcbm
