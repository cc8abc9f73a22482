import EverestCore.Iskra.Meter
import EverestCore.Lib.Machine
import Mathlib.Logic.Basic

/-!
# Which metadata complete a transaction after a power failure
-/

namespace EverestCore.Iskra

open EverestCore.Lib MeterState

/-- The metadata belong to the transaction they complete: those of its request if its start has
returned `ok`, and never those of another one. -/
def Completion.Own (c : Completion) : Prop :=
  ∀ t ∈ c.transaction,
    (t.started = true → t.request.map TransactionReq.metadata = some c.metadata) ∧
      (c.metadata = ("", "") ∨ t.request.map TransactionReq.metadata = some c.metadata)
deriving Decidable

/-- No transaction is running on the meter when one is started. -/
def Unoccupied (w : World) : Call → Prop
  | .startTransaction _ => w.meter.running = none
  | .stopTransaction => True

instance (w : World) : ∀ call, Decidable (Unoccupied w call)
  | .startTransaction _ => inferInstanceAs (Decidable (w.meter.running = none))
  | .stopTransaction => .isTrue trivial

variable {env : Setup}

theorem fromRegister_stateRegister (m : Meter) :
    fromRegister m.stateRegister = .idle ↔ m.running = none := by
  obtain ⟨running, activity⟩ := m
  cases running with
  | none => exact ⟨fun _ => rfl, fun _ => rfl⟩
  | some t => cases activity <;> exact ⟨fun h => (nomatch h), fun h => (nomatch h)⟩

/-! ## Accesses -/

/-- A property that the state of the line and interruptions of the meter do not touch. -/
def Stable (P : World → Prop) : Prop :=
  ∀ w log activity, P w → P { w with meter := { w.meter with activity }, log }

section

variable {P : World → Prop}

theorem exec_access (env : Setup) (a : Access) (effect : Meter → Meter) (w : World) :
    ∃ activity, (access env a effect).exec w =
      ((env.line w.log a).answer, { w with
        meter := if (env.line w.log a).takesEffect then effect { w.meter with activity }
          else { w.meter with activity }
        log := w.log ++ [a] }) := by
  refine ⟨((env.line w.log a).interruption.map Interruption.activity).getD w.meter.activity, ?_⟩
  rw [access, exec_bind]
  show (modify _ >>= _ : M (List Nat)).exec w = _
  rw [exec_bind]
  cases (env.line w.log a).answer with
  | ok registers => rfl
  | error error => rfl

theorem keeps_access (hP : Stable P) (a : Access) : Keeps P (access env a id) := by
  intro w hw
  obtain ⟨activity, hexec⟩ := exec_access env a id w
  rw [hexec]
  have hafter := hP w (w.log ++ [a]) activity hw
  cases (env.line w.log a).answer <;> cases (env.line w.log a).takesEffect <;> exact hafter

theorem keeps_orThrow {α : Type} (r : Except String α) : Keeps P (orThrow r) := by
  cases r with
  | ok a => exact keeps_pure
  | error error => exact keeps_throw

theorem keeps_retry {func : M RetryState} (hfunc : Keeps P func) (duration : String) (n : Nat) :
    Keeps P (retry func duration n) := by
  induction n with
  | zero => exact keeps_throw
  | succ n ih =>
    refine keeps_bind hfunc fun result => ?_
    cases result with
    | done => exact keeps_pure
    | keepTrying => exact ih

variable (hP : Stable P)

include hP

theorem keeps_readHoldingRegisters (address count : Nat) :
    Keeps P (readHoldingRegisters env address count) :=
  keeps_bind (keeps_access hP _) fun _ => keeps_ite keeps_throw keeps_pure

theorem keeps_readHoldingRegister (address : Nat) : Keeps P (readHoldingRegister env address) :=
  keeps_bind (keeps_readHoldingRegisters hP _ _) fun _ => keeps_pure

theorem keeps_writeSingleRegister (address value : Nat) :
    Keeps P (writeSingleRegister env address value) :=
  keeps_bind (keeps_access hP _) fun _ => keeps_pure

theorem keeps_readState : Keeps P (readState env) :=
  keeps_bind keeps_get fun _ => keeps_bind (keeps_access hP _) fun _ => keeps_bind keeps_get
    fun _ => keeps_pure

theorem keeps_reaches (expected : MeterState) : Keeps P (reaches env expected) :=
  keeps_bind (keeps_readState hP) fun _ => keeps_pure

theorem keeps_checkSignatureStatus : Keeps P (checkSignatureStatus env) := by
  refine keeps_bind keeps_get fun _ => keeps_retry ?_ _ _
  refine keeps_bind (keeps_bind (keeps_readHoldingRegister hP _) fun _ => keeps_orThrow _)
    fun status => ?_
  cases status with
  | notInitialized | idle | signatureInProgress | signatureOk => exact keeps_pure
  | error name => exact keeps_throw

theorem keeps_setTime : Keeps P (setTime env) :=
  keeps_bind keeps_get fun _ => keeps_bind (keeps_writeSingleRegister hP _ _) fun _ =>
    keeps_bind (keeps_writeSingleRegister hP _ _) fun _ =>
      keeps_bind (keeps_writeSingleRegister hP _ _) fun _ => keeps_writeSingleRegister hP _ _

theorem keeps_writeMetadata (metadata : String × String) : Keeps P (writeMetadata env metadata) :=
  keeps_bind keeps_get fun _ => keeps_bind (keeps_access hP _) fun _ =>
    keeps_bind (keeps_writeSingleRegister hP _ _) fun _ =>
      keeps_bind (keeps_readHoldingRegisters hP _ _) fun _ =>
        keeps_bind (keeps_orThrow _) fun _ => keeps_pure

theorem keeps_writeLcdText (mainText labelText : String) :
    Keeps P (writeLcdText env mainText labelText) :=
  keeps_bind (keeps_readHoldingRegister hP _) fun _ =>
    keeps_bind (keeps_writeSingleRegister hP _ _) fun _ => keeps_bind (keeps_access hP _) fun _ =>
      keeps_bind (keeps_access hP _) fun _ => keeps_pure

theorem keeps_readSignature : Keeps P (readSignature env) :=
  keeps_bind (keeps_readHoldingRegister hP _) fun _ =>
    keeps_bind (keeps_readHoldingRegisters hP _ _) fun _ => keeps_pure

theorem keeps_readSignedMeterValues : Keeps P (readSignedMeterValues env) :=
  keeps_bind (keeps_readHoldingRegister hP _) fun _ =>
    keeps_bind (keeps_readHoldingRegisters hP _ _) fun _ =>
      keeps_bind (keeps_orThrow _) fun _ => keeps_pure

theorem keeps_readPublicKey (hkey : ∀ w publicKey, P w → P { w with publicKey }) :
    Keeps P (readPublicKey env) := by
  refine keeps_bind keeps_get fun world => ?_
  cases world.publicKey with
  | some key => exact keeps_pure
  | none =>
    exact keeps_bind (keeps_readHoldingRegisters hP _ _) fun _ =>
      keeps_bind (keeps_modify fun w hw => hkey w _ hw) fun _ => keeps_pure

theorem readState_spec :
    Triple P (readState env)
      (fun state w => P w ∧ (state = .unknown ∨ state = .fromRegister w.meter.stateRegister))
      (fun _ => P) := by
  refine triple_bind (triple_get (Q := fun _ => P) fun _ h => h) fun world =>
    triple_bind (keeps_access hP _) fun _ =>
      triple_bind (Q := fun after w => P w ∧ after = w) (triple_get fun _ h => ⟨h, rfl⟩)
        fun after => triple_pure ?_
  rintro w ⟨hw, rfl⟩
  refine ⟨hw, ?_⟩
  split
  · exact .inl rfl
  · exact .inr rfl

theorem waitIdle_spec :
    Triple P (retryWithin env (reaches env .idle) "1s")
      (fun _ w => P w ∧ w.meter.running = none) (fun _ => P) := by
  refine triple_bind (triple_get (Q := fun _ => P) fun _ h => h) fun world => ?_
  generalize env.polls world.log = n
  induction n with
  | zero => exact triple_throw fun _ h => h
  | succ n ih =>
    refine triple_bind (Q := fun result w => P w ∧ (result = .done → w.meter.running = none))
      (triple_bind (readState_spec hP) fun state => triple_pure ?_) fun result => ?_
    · rintro w ⟨hw, hstate⟩
      refine ⟨hw, fun hdone => ?_⟩
      by_cases hidle : state = .idle
      · subst hidle
        rcases hstate with hunknown | hknown
        · cases hunknown
        · exact (fromRegister_stateRegister w.meter).mp hknown.symm
      · rw [if_neg hidle] at hdone
        cases hdone
    · cases result with
      | done => exact triple_pure fun w hw => ⟨hw.1, hw.2 rfl⟩
      | keepTrying => exact ih.conseq (fun _ h => h.1) (fun _ _ h => h) (fun _ _ h => h)

end

/-! ## The remembered request -/

/-- The driver knows the request of the running transaction. -/
structure Remembers (w : World) : Prop where
  request : ∀ t, w.meter.running = some t → w.transaction = t.request
  known : ∀ t, w.meter.running = some t → t.started = true → t.request.isSome
  own : ∀ c ∈ w.completions, c.Own

theorem remembers_stable : Stable Remembers := fun _ _ _ h => ⟨h.request, h.known, h.own⟩

/-- Nothing is running, and all is well. -/
def Rests (w : World) : Prop := Remembers w ∧ w.meter.running = none

theorem rests_stable : Stable Rests := fun w log activity h =>
  ⟨remembers_stable w log activity h.1, h.2⟩

theorem remembers_of_none {w : World} (h : w.meter.running = none)
    (hown : ∀ c ∈ w.completions, c.Own) : Remembers w := by
  refine ⟨fun t ht => ?_, fun t ht => ?_, hown⟩ <;>
    · rw [h] at ht
      cases ht

theorem own_completion {w : World} (h : Remembers w) :
    Completion.Own
      ⟨w.meter.running, (w.transaction.map TransactionReq.metadata).getD ("", "")⟩ := by
  intro t ht
  rw [h.request t ht]
  have hknown := h.known t ht
  cases hrequest : t.request with
  | none =>
    rw [hrequest] at hknown
    exact ⟨fun hstarted => (nomatch hknown hstarted), .inl rfl⟩
  | some req => exact ⟨fun _ => rfl, .inr rfl⟩

theorem keeps_completeTransaction : Keeps Remembers (completeTransaction env) := by
  refine triple_bind (Q := fun world w => Remembers w ∧ world = w)
    (triple_get fun _ h => ⟨h, rfl⟩) fun world => ?_
  refine triple_bind (triple_modify (Q := fun _ => Remembers) ?_) fun _ =>
    keeps_writeMetadata remembers_stable _
  rintro w ⟨hw, rfl⟩
  refine ⟨hw.request, hw.known, List.forall_mem_append.mpr ⟨hw.own, ?_⟩⟩
  exact List.forall_mem_singleton.mpr (own_completion hw)

theorem keeps_prepareStop (state : MeterState) : Keeps Remembers (prepareStop env state) := by
  cases state with
  | idle => exact keeps_throw
  | active | activeAfterReset | unknown => exact keeps_pure
  | activeAfterPowerFailure =>
    exact keeps_bind (keeps_setTime remembers_stable) fun _ => keeps_completeTransaction

theorem keeps_finish (a : Access) : Keeps Remembers (access env a Meter.finish) := by
  intro w hw
  obtain ⟨activity, hexec⟩ := exec_access env a Meter.finish w
  rw [hexec]
  have hafter : Remembers { w with
      meter := if (env.line w.log a).takesEffect then Meter.finish { w.meter with activity }
        else { w.meter with activity }
      log := w.log ++ [a] } := by
    cases (env.line w.log a).takesEffect with
    | true => exact remembers_of_none rfl hw.own
    | false => exact remembers_stable w _ activity hw
  cases (env.line w.log a).answer <;> exact hafter

theorem keeps_readRecord : Keeps Rests (readRecord env) := by
  refine keeps_bind (keeps_checkSignatureStatus rests_stable) fun _ =>
    keeps_bind (keeps_readSignature rests_stable) fun _ =>
      keeps_bind (keeps_readSignedMeterValues rests_stable) fun _ =>
        keeps_bind (keeps_writeLcdText rests_stable _ _) fun _ =>
          keeps_bind (keeps_modify fun w hw => ⟨remembers_of_none hw.2 hw.1.own, hw.2⟩) fun _ => ?_
  refine keeps_bind (keeps_tryCatch (keeps_bind (keeps_readPublicKey rests_stable ?_)
    fun _ => keeps_pure) fun _ => keeps_pure) fun _ => keeps_pure
  exact fun w _ hw => ⟨⟨hw.1.request, hw.1.known, hw.1.own⟩, hw.2⟩

theorem keeps_stopTransaction : Keeps Remembers (stopTransaction env) := by
  refine keeps_bind (keeps_readState remembers_stable) fun state =>
    keeps_bind (keeps_prepareStop state) fun _ => keeps_bind (keeps_finish _) fun _ => ?_
  refine triple_bind (waitIdle_spec remembers_stable) fun _ => ?_
  exact keeps_readRecord.conseq (fun _ h => h) (fun _ _ h => h.1) (fun _ _ h => h.1)

/-! ## Starting -/

variable (req : TransactionReq)

/-- Nothing is running, and the request that is being started is remembered. -/
def Starts (w : World) : Prop :=
  w.transaction = some req ∧ Rests w

theorem starts_stable : Stable (Starts req) := fun w log activity h =>
  ⟨h.1, rests_stable w log activity h.2⟩

/-- The request that is being started is remembered, its transaction running or not. -/
def Started (w : World) : Prop :=
  w.transaction = some req ∧ Remembers w

theorem started_stable : Stable (Started req) := fun w log activity h =>
  ⟨h.1, remembers_stable w log activity h.2⟩

theorem begin_spec (a : Access) (number : Nat) :
    Triple (Starts req) (access env a (Meter.begin ⟨some req, number, false⟩))
      (fun _ => Started req) (fun _ => Started req) := by
  rintro w ⟨hreq, hremembers, hnone⟩
  obtain ⟨activity, hexec⟩ := exec_access env a (Meter.begin ⟨some req, number, false⟩) w
  rw [hexec]
  have hafter : Started req { w with
      meter := if (env.line w.log a).takesEffect then
          Meter.begin ⟨some req, number, false⟩ { w.meter with activity }
        else { w.meter with activity }
      log := w.log ++ [a] } := by
    cases (env.line w.log a).takesEffect with
    | false => exact ⟨hreq, remembers_stable w _ activity hremembers⟩
    | true =>
      have hbegin : Meter.begin ⟨some req, number, false⟩ { w.meter with activity } =
          ⟨some ⟨some req, number, false⟩, .normal⟩ := by
        simp [Meter.begin, hnone]
      refine ⟨hreq, ⟨fun t ht => ?_, fun t ht hstarted => ?_, hremembers.own⟩⟩
      · rw [if_pos rfl, hbegin] at ht
        cases ht
        exact hreq
      · rw [if_pos rfl, hbegin] at ht
        cases ht
        cases hstarted
  cases (env.line w.log a).answer <;> exact hafter

theorem Starts.remembers {req : TransactionReq} (w : World) (h : Starts req w) : Remembers w :=
  h.2.1

theorem Started.remembers {req : TransactionReq} (w : World) (h : Started req w) : Remembers w :=
  h.2

theorem stopStuckTransaction_spec (state : MeterState) :
    Triple
      (fun w => Starts req w ∧
        (state = .unknown ∨ state = .fromRegister w.meter.stateRegister))
      (stopStuckTransaction env state) (fun _ => Starts req) (fun _ => Remembers) := by
  have himpossible {α : Type} {m : M α} {Q : α → World → Prop} {E : String → World → Prop}
      (hunknown : state ≠ .unknown) (hidle : state ≠ .idle) :
      Triple (fun w => Starts req w ∧
        (state = .unknown ∨ state = .fromRegister w.meter.stateRegister)) m Q E := by
    rintro w ⟨hstarts, hstate | hstate⟩
    · exact absurd hstate hunknown
    · exact absurd (hstate.trans ((fromRegister_stateRegister w.meter).mpr hstarts.2.2)) hidle
  cases state with
  | idle => exact triple_pure fun _ h => h.1
  | unknown => exact triple_pure fun _ h => h.1
  | active | activeAfterReset | activeAfterPowerFailure => exact himpossible noConfusion noConfusion

theorem remembers_returnStart {req : TransactionReq} (w : World) (h : Started req w) :
    Remembers w.returnStart := by
  obtain ⟨hreq, hremembers⟩ := h
  have hrunning : ∀ t, w.returnStart.meter.running = some t →
      ∃ t', w.meter.running = some t' ∧ t.request = t'.request := by
    intro t ht
    obtain ⟨t', ht', rfl⟩ := Option.map_eq_some_iff.mp ht
    refine ⟨t', ht', ?_⟩
    split <;> rfl
  refine ⟨fun t ht => ?_, fun t ht _ => ?_, hremembers.own⟩
  · obtain ⟨t', ht', heq⟩ := hrunning t ht
    rw [heq]
    exact hremembers.request t' ht'
  · obtain ⟨t', ht', heq⟩ := hrunning t ht
    rw [heq, ← hremembers.request t' ht', hreq]
    rfl

theorem startTransaction_spec :
    Triple Rests (startTransaction env req) (fun _ => Remembers) (fun _ => Remembers) := by
  have hstarts := starts_stable req
  have hstarted := started_stable req
  refine triple_bind (triple_modify (Q := fun _ => Starts req) fun w hw =>
    ⟨rfl, remembers_of_none hw.2 hw.1.own, hw.2⟩) fun _ => ?_
  refine triple_bind ((readState_spec hstarts).conseq (fun _ h => h) (fun _ _ h => h)
    fun _ => Starts.remembers) fun state => ?_
  refine triple_bind (stopStuckTransaction_spec req state) fun _ => ?_
  refine triple_bind ((keeps_setTime hstarts).triple Starts.remembers) fun _ => ?_
  refine triple_bind ((keeps_writeSingleRegister hstarts _ _).triple Starts.remembers) fun _ => ?_
  refine triple_bind ((keeps_writeMetadata hstarts _).triple Starts.remembers) fun _ => ?_
  refine triple_bind ((keeps_writeLcdText hstarts _ _).triple Starts.remembers) fun _ => ?_
  refine triple_bind (triple_get (Q := fun _ => Starts req) fun _ h => h) fun world => ?_
  refine triple_bind ((begin_spec req _ _).conseq (fun _ h => h) (fun _ _ h => h)
    fun _ => Started.remembers) fun _ => ?_
  have hactive : Keeps (Started req) (retryWithin env (reaches env .active) "1s") :=
    keeps_bind keeps_get fun _ => keeps_retry (keeps_reaches hstarted _) _ _
  refine triple_bind (hactive.triple Started.remembers) fun _ => ?_
  refine triple_bind ((keeps_checkSignatureStatus hstarted).triple Started.remembers) fun _ => ?_
  exact triple_modify fun w hw => remembers_returnStart w hw

/-! ## Results -/

/-- Every call keeps this. -/
theorem remembers_step (w : World) (call : Call) (h : Remembers w) (hcall : Unoccupied w call) :
    Remembers (step env w call) := by
  cases call with
  | stopTransaction => exact keeps_stopTransaction.after w h
  | startTransaction req => exact (startTransaction_spec req).after w ⟨h, hcall⟩

/-- The meter at the start of the process: a transaction of an earlier one may be running. -/
def initial (left : Bool) (activity : Activity) : World :=
  { meter := ⟨if left then some ⟨none, 0, false⟩ else none, activity⟩ }

/-- If starts are called only while no transaction is running on the meter, each transaction that
is finished after a power failure is completed with its own metadata. -/
theorem completed_with_own_metadata (env : Setup) (left : Bool) (activity : Activity)
    (calls : List Call) (h : Along (step env) Unoccupied (initial left activity) calls) :
    Always (step env) (fun w => ∀ c ∈ w.completions, c.Own) (initial left activity) calls := by
  refine always_of_along (I := Remembers) remembers_step (fun _ hw => hw.own) ?_ h
  cases left with
  | false => exact remembers_of_none rfl nofun
  | true =>
    refine ⟨fun t ht => ?_, fun t ht hstarted => ?_, nofun⟩
    · cases ht
      rfl
    · cases ht
      cases hstarted

/-! A meter that works, and loses power before its `failure`-th access. -/

def workingSetup (failure : Nat) : Setup where
  ocmfData := {}
  mainText := "main"
  labelText := "label"
  line := fun log a =>
    { interruption := if log.length = failure then some .powerFailure else none
      answer := match a with
        | .readHolding address count =>
          .ok (List.replicate count (if address = 7052 then 15 else 0))
        | _ => .ok [] }
  polls := fun _ => 1
  sessionId := fun _ => "session"
  timestamp := fun _ => 0
  offsetMin := 0
  toJson := fun _ => "json"
  to8String := fun _ => .ok ""
  toSignature := fun _ => ""
  toHexString := fun _ => ""

def requestA : TransactionReq := ⟨"evse A", "A", some "tariff A"⟩

def requestB : TransactionReq := ⟨"evse B", "B", some "tariff B"⟩

/-- A power failure between the start and the stop of a transaction. -/
theorem powerFailure_completed :
    Always (step (workingSetup 16)) (fun w => ∀ c ∈ w.completions, c.Own) (initial false .normal)
        [.startTransaction requestA, .stopTransaction] ∧
      (run (step (workingSetup 16)) (initial false .normal)
        [.startTransaction requestA, .stopTransaction]).completions.map Completion.metadata =
          [("evse A", "tariff A")] :=
  ⟨completed_with_own_metadata (workingSetup 16) false .normal _ (by decide +kernel),
    by decide +kernel⟩

/-- The request of the next transaction completes the one that was left after a power failure. -/
theorem transaction_completed_with_next_request :
    (run (step (workingSetup 16)) (initial false .normal)
        [.startTransaction requestA, .startTransaction requestB]).completions =
          [⟨some ⟨some requestA, 1, true⟩, ("evse B", "tariff B")⟩] ∧
      ¬ Always (step (workingSetup 16)) (fun w => ∀ c ∈ w.completions, c.Own)
        (initial false .normal) [.startTransaction requestA, .startTransaction requestB] := by
  refine ⟨by decide +kernel, fun h => ?_⟩
  have hown := h.last
  revert hown
  decide +kernel

end EverestCore.Iskra
