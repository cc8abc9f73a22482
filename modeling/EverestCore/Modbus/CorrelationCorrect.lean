import EverestCore.Lib.Machine
import EverestCore.Modbus.Correlation

/-!
# When the correlation layer delivers correctly

`Correct` says of a state that every PDU went to the one it is meant for and is still
there, that no call has returned a PDU from before its request, and that no ended
call has an entry. It does not hold in every run: a call that times out leaves its
entry behind, and an entry takes PDUs before the request is sent and after it has
been answered.
-/

namespace EverestCore.Modbus.Correlation

open EverestCore.Lib List

/-! ## The property -/

/-- The recipient is a call the PDU is meant for, or `on_pdu` if there is none. -/
def Delivery.Right (d : Delivery) : Prop :=
  match d.recipient with
  | .call i => (d.calls i).Awaits d.received
  | .onPdu => ∀ i, ¬ (d.calls i).Awaits d.received

variable (s : State)

/-- What a call has been given it has returned, or it is pending and has it in its
entry. -/
def Kept (i : Nat) (r : Received) : Prop :=
  (s.calls i).stage = .returned (some r) ∨
    ¬ (s.calls i).Ended ∧ ∃ e ∈ s.listeningForResponse, e.owner = i ∧ e.pdu = some r

/-- The PDU was handed to the call. -/
def Given (i : Nat) (r : Received) : Prop :=
  ∃ d ∈ s.deliveries, d.received = r ∧ d.recipient = .call i

/-- Every PDU went where it belongs, once, and is not lost. -/
structure Correct : Prop where
  right : ∀ d ∈ s.deliveries, d.Right
  kept : ∀ i r, Given s i r → Kept s i r
  once : ((s.inFlight ++ s.deliveries.map (·.received)).map (·.number)).Perm
    (List.range s.received)
  returned : ∀ i r, (s.calls i).stage = .returned (some r) →
    Given s i r ∧ (s.calls i).sentAt ≤ r.number
  noEntry : ∀ i, (s.calls i).Ended → ∀ e ∈ s.listeningForResponse, e.owner ≠ i

/-- The condition on a step: no call times out or fails to send while it listens; the
entry that gets a PDU belongs to a call the PDU is meant for; and a call that finds a
response finds it in its own entry. -/
def Undisturbed : Label → Prop
  | .expire i => (s.calls i).stage ≠ .looping
  | .sendFails i => (s.calls i).stage ≠ .listening
  | .correlate k => ∀ r ∈ s.inFlight[k]?,
      ∀ e ∈ s.listeningForResponse.find? (Entry.listensFor r), (s.calls e.owner).Awaits r
  | .wake i => (s.calls i).stage = .waiting →
      ∀ index ∈ lastIndex (s.calls i).context s.listeningForResponse,
        ∀ e ∈ s.listeningForResponse[index]?, e.pdu.isSome → e.owner = i
  | _ => True

/-! ## The invariant -/

/-- An entry belongs to a pending call. -/
structure EntryOk (e : Entry) : Prop where
  pending : (s.calls e.owner).stage.phase = .pending
  context : e.context = (s.calls e.owner).context
  functionCode : e.functionCode = (s.calls e.owner).request.functionCode
  answered : (s.calls e.owner).answered = e.pdu.isSome
  unsent : (s.calls e.owner).stage = .listening → e.pdu = none
  filled : ∀ r, e.pdu = some r → Given s e.owner r ∧ (s.calls e.owner).sentAt ≤ r.number

/-- A pending call is listed with what it waits for. -/
structure CallOk (i : Nat) : Prop where
  entry : ∀ e ∈ s.listeningForResponse, e.owner = i → EntryOk s e
  listed : (s.calls i).stage.phase = .pending → ∃ e ∈ s.listeningForResponse, e.owner = i
  early : (s.calls i).stage.phase = .early → (s.calls i).answered = false
  kept : ∀ r, Given s i r → Kept s i r
  returned : ∀ r, (s.calls i).stage = .returned (some r) →
    Given s i r ∧ (s.calls i).sentAt ≤ r.number

/-- All calls, with one entry for each at most. -/
structure Good : Prop where
  calls : ∀ i, CallOk s i
  owners : (s.listeningForResponse.map (·.owner)).Nodup
  right : ∀ d ∈ s.deliveries, d.Right
  once : ((s.inFlight ++ s.deliveries.map (·.received)).map (·.number)).Perm
    (List.range s.received)

variable {s : State}

theorem Good.correct (h : Good s) : Correct s where
  right := h.right
  kept := fun i => (h.calls i).kept
  once := h.once
  returned := fun i => (h.calls i).returned
  noEntry := by
    intro i hended e he howner
    have hpending := ((h.calls i).entry e he howner).pending
    rw [howner, hended] at hpending
    cases hpending

theorem Good.owner_inj (h : Good s) {n m : Nat} {e e' : Entry}
    (hn : s.listeningForResponse[n]? = some e) (hm : s.listeningForResponse[m]? = some e')
    (howner : e.owner = e'.owner) : n = m := by
  have hn' : (s.listeningForResponse.map (·.owner))[n]? = some e.owner := by
    rw [getElem?_map, hn]
    rfl
  have hm' : (s.listeningForResponse.map (·.owner))[m]? = some e.owner := by
    rw [List.getElem?_map, hm, howner]
    rfl
  exact (List.getElem?_inj (List.getElem?_eq_some_iff.mp hn').1 h.owners).mp (hn'.trans hm'.symm)

theorem Good.eq_of_owner (h : Good s) {e e' : Entry} (he : e ∈ s.listeningForResponse)
    (he' : e' ∈ s.listeningForResponse) (howner : e.owner = e'.owner) : e = e' :=
  inj_on_of_nodup_map h.owners he he' howner

theorem given_of_deliveries {s s' : State} {d : Delivery}
    (hd : s'.deliveries = d :: s.deliveries) (i : Nat) (r : Received) :
    Given s' i r ↔ (d.received = r ∧ d.recipient = .call i) ∨ Given s i r := by
  simp [Given, hd]

theorem CallOk.congr {s s' : State} {j : Nat} (h : CallOk s j) (hcall : s'.calls j = s.calls j)
    (hentries : ∀ e, e.owner = j → (e ∈ s'.listeningForResponse ↔ e ∈ s.listeningForResponse))
    (hgiven : ∀ r, Given s' j r ↔ Given s j r) : CallOk s' j := by
  constructor
  case entry =>
    rintro e he rfl
    have ok := h.entry e ((hentries e rfl).mp he) rfl
    constructor <;> rw [hcall]
    · exact ok.pending
    · exact ok.context
    · exact ok.functionCode
    · exact ok.answered
    · exact ok.unsent
    · intro r hr
      exact ⟨(hgiven r).mpr (ok.filled r hr).1, (ok.filled r hr).2⟩
  case listed =>
    rw [hcall]
    intro hpending
    obtain ⟨e, he, howner⟩ := h.listed hpending
    exact ⟨e, (hentries e howner).mpr he, howner⟩
  case early =>
    rw [hcall]
    exact h.early
  case kept =>
    intro r hr
    unfold Kept
    rw [hcall]
    rcases h.kept r ((hgiven r).mp hr) with hreturned | ⟨hended, e, he, howner, hpdu⟩
    · exact .inl hreturned
    · exact .inr ⟨hended, e, (hentries e howner).mpr he, howner, hpdu⟩
  case returned =>
    rw [hcall]
    intro r hr
    exact ⟨(hgiven r).mpr (h.returned r hr).1, (h.returned r hr).2⟩

theorem setCall_self (s : State) (i : Nat) (c : Call) : (s.setCall i c).calls i = c := by
  simp [State.setCall]

theorem setCall_of_ne (s : State) {i j : Nat} (h : j ≠ i) (c : Call) :
    (s.setCall i c).calls j = s.calls j := by
  simp [State.setCall, h]

section

variable {s : State} {i : Nat}

/-- A step that concerns one call has to be right for this call only. -/
theorem Good.callOk (h : Good s) {s' : State} (hcall : CallOk s' i)
    (hcalls : ∀ j, j ≠ i → s'.calls j = s.calls j)
    (hentries : ∀ e, e.owner ≠ i → (e ∈ s'.listeningForResponse ↔ e ∈ s.listeningForResponse))
    (hgiven : ∀ j, j ≠ i → ∀ r, Given s' j r ↔ Given s j r) (j : Nat) : CallOk s' j := by
  by_cases hji : j = i
  · rw [hji]
    exact hcall
  · refine (h.calls j).congr (hcalls j hji) (fun e heq => hentries e ?_) (hgiven j hji)
    rw [heq]
    exact hji

theorem Good.of_call (h : Good s) {c : Call} (hcall : CallOk (s.setCall i c) i) :
    Good (s.setCall i c) where
  calls := h.callOk hcall (fun _ hji => setCall_of_ne s hji c) (fun _ _ => Iff.rfl)
    (fun _ _ _ => Iff.rfl)
  owners := h.owners
  right := h.right
  once := h.once

/-- A call with an entry has been given what is in the entry, and nothing else. -/
theorem CallOk.of_entry {e : Entry} (he : e ∈ s.listeningForResponse) (ok : EntryOk s e)
    (hunique : ∀ e' ∈ s.listeningForResponse, e'.owner = e.owner → e' = e)
    (hgiven : ∀ r, Given s e.owner r → e.pdu = some r) : CallOk s e.owner := by
  constructor
  case entry =>
    intro e' he' heq
    rw [hunique e' he' heq]
    exact ok
  case listed => exact fun _ => ⟨e, he, rfl⟩
  case early =>
    rw [ok.pending]
    exact nofun
  case kept =>
    intro r hr
    refine .inr ⟨?_, e, he, rfl, hgiven r hr⟩
    rw [Call.Ended, ok.pending]
    exact nofun
  case returned =>
    intro r hr
    have hpending := ok.pending
    rw [hr] at hpending
    cases hpending

theorem Good.pdu_of_given (h : Good s) {e : Entry} (he : e ∈ s.listeningForResponse)
    {r : Received} (hgiven : Given s e.owner r) : e.pdu = some r := by
  rcases (h.calls e.owner).kept r hgiven with hreturned | ⟨-, e', he', howner, hpdu⟩
  · have hpending := ((h.calls e.owner).entry e he rfl).pending
    rw [hreturned] at hpending
    cases hpending
  · rw [← h.eq_of_owner he' he howner]
    exact hpdu

theorem Good.congr (h : Good s) (sendingUnitId currentTransactionId : UInt16)
    (sent : List (Context × GenericPDU)) :
    Good { s with
      sendingUnitId := sendingUnitId
      currentTransactionId := currentTransactionId
      sent := sent } where
  calls := fun j => (h.calls j).congr rfl (fun _ _ => Iff.rfl) (fun _ => Iff.rfl)
  owners := h.owners
  right := h.right
  once := h.once

/-! ## Calls without an entry -/

theorem CallOk.of_early (h : CallOk s i) (hearly : (s.calls i).stage.phase = .early) :
    (∀ e ∈ s.listeningForResponse, e.owner ≠ i) ∧ ∀ r, ¬ Given s i r := by
  have howner : ∀ e ∈ s.listeningForResponse, e.owner ≠ i := by
    rintro e he rfl
    have hpending := (h.entry e he rfl).pending
    rw [hearly] at hpending
    cases hpending
  refine ⟨howner, ?_⟩
  intro r hgiven
  rcases h.kept r hgiven with hreturned | ⟨-, e, he, heq, -⟩
  · rw [hreturned] at hearly
    cases hearly
  · exact howner e he heq

variable (h : Good s)

include h

/-- Before its entry is there a call does what it likes, as long as it returns no
PDU. -/
theorem good_setCall_early (hearly : (s.calls i).stage.phase = .early) {c : Call}
    (hphase : c.stage.phase ≠ .pending) (hanswered : c.stage.phase = .early → c.answered = false)
    (hnothing : ∀ r, c.stage ≠ .returned (some r)) : Good (s.setCall i c) := by
  obtain ⟨howner, hnone⟩ := (h.calls i).of_early hearly
  apply h.of_call
  constructor
  case entry => exact fun e he heq => absurd heq (howner e he)
  case listed =>
    rw [setCall_self]
    exact fun hpending => absurd hpending hphase
  case early =>
    rw [setCall_self]
    exact hanswered
  case kept => exact fun r hgiven => absurd hgiven (hnone r)
  case returned =>
    rw [setCall_self]
    exact fun r hr => absurd hr (hnothing r)

theorem good_request (expectsResponse : Bool) (r : GenericPDU) :
    Good (request s i expectsResponse r) := by
  unfold request
  cases hstage : (s.calls i).stage with
  | none =>
    apply good_setCall_early h (congrArg Stage.phase hstage)
    · exact nofun
    · exact fun _ => rfl
    · exact nofun
  | _ => exact h

theorem good_readTransactionId : Good (readTransactionId s i) := by
  unfold readTransactionId
  cases hstage : (s.calls i).stage with
  | called =>
    have hearly : (s.calls i).stage.phase = .early := congrArg Stage.phase hstage
    apply good_setCall_early h hearly
    · exact nofun
    · exact fun _ => (h.calls i).early hearly
    · exact nofun
  | _ => exact h

theorem good_writeTransactionId : Good (writeTransactionId s i) := by
  unfold writeTransactionId
  cases hstage : (s.calls i).stage with
  | idRead transactionId =>
    have hearly : (s.calls i).stage.phase = .early := congrArg Stage.phase hstage
    apply Good.congr
    apply good_setCall_early h hearly
    · exact nofun
    · exact fun _ => (h.calls i).early hearly
    · exact nofun
  | _ => exact h

theorem good_listen : Good (listen s i) := by
  unfold listen
  cases hstage : (s.calls i).stage with
  | contextTaken =>
    cases (s.calls i).expectsResponse with
    | false => exact h
    | true =>
      have hearly : (s.calls i).stage.phase = .early := congrArg Stage.phase hstage
      obtain ⟨howner, hnone⟩ := (h.calls i).of_early hearly
      have hcall := setCall_self s i { s.calls i with stage := .listening }
      constructor
      case calls =>
        apply h.callOk
        · refine CallOk.of_entry mem_concat_self ?_ ?_ fun r hgiven => absurd hgiven (hnone r)
          · constructor
            · exact congrArg (fun c => Stage.phase (Call.stage c)) hcall
            · exact (congrArg Call.context hcall).symm
            · exact (congrArg (fun c => GenericPDU.functionCode (Call.request c)) hcall).symm
            · exact (congrArg Call.answered hcall).trans ((h.calls i).early hearly)
            · exact fun _ => rfl
            · exact nofun
          · intro e he heq
            rcases mem_append.mp he with he | he
            · exact absurd heq (howner e he)
            · exact mem_singleton.mp he
        · exact fun j hji => setCall_of_ne s hji _
        · intro e hne
          show e ∈ s.listeningForResponse ++ _ ↔ _
          rw [mem_append, mem_singleton]
          refine or_iff_left ?_
          rintro rfl
          exact hne rfl
        · exact fun _ _ _ => Iff.rfl
      case owners =>
        show ((s.listeningForResponse ++ _).map (·.owner)).Nodup
        rw [map_append, nodup_append]
        refine ⟨h.owners, nodup_singleton _, ?_⟩
        intro a ha b hb
        obtain ⟨e, he, rfl⟩ := mem_map.mp ha
        obtain rfl := mem_singleton.mp hb
        exact howner e he
      case right => exact h.right
      case once => exact h.once
  | _ => exact h

/-! ## Calls with an entry -/

theorem good_setCall_pending (stage : Stage) (sentAt : Nat)
    (hpending : (s.calls i).stage.phase = .pending) (hphase : stage.phase = .pending)
    (hne : stage ≠ .listening)
    (hsent : sentAt = (s.calls i).sentAt ∨ (s.calls i).stage = .listening) :
    Good (s.setCall i { s.calls i with stage := stage, sentAt := sentAt }) := by
  have hcall := setCall_self s i { s.calls i with stage := stage, sentAt := sentAt }
  obtain ⟨e, he, rfl⟩ := (h.calls i).listed hpending
  have ok := (h.calls e.owner).entry e he rfl
  apply h.of_call
  refine CallOk.of_entry he ?_ (fun e' he' heq => h.eq_of_owner he' he heq)
    fun r hgiven => h.pdu_of_given he hgiven
  constructor <;> rw [hcall]
  · exact hphase
  · exact ok.context
  · exact ok.functionCode
  · exact ok.answered
  · exact fun hlistening => absurd hlistening hne
  · intro r hr
    refine ⟨(ok.filled r hr).1, ?_⟩
    rcases hsent with rfl | hlistening
    · exact (ok.filled r hr).2
    · rw [ok.unsent hlistening] at hr
      cases hr

theorem good_startWaiting : Good (startWaiting s i) := by
  unfold startWaiting
  cases hstage : (s.calls i).stage with
  | looping =>
    exact good_setCall_pending h .waiting _ (congrArg Stage.phase hstage) rfl nofun (.inl rfl)
  | _ => exact h

theorem good_send : Good (send s i) := by
  unfold send
  cases hstage : (s.calls i).stage with
  | listening =>
    apply Good.congr
    exact good_setCall_pending h .looping s.received (congrArg Stage.phase hstage) rfl
      nofun (.inr hstage)
  | contextTaken =>
    cases (s.calls i).expectsResponse with
    | true => exact h
    | false =>
      apply Good.congr
      apply good_setCall_early h (congrArg Stage.phase hstage)
      · exact nofun
      · exact nofun
      · exact nofun
  | _ => exact h

theorem good_sendFails (hnot : (s.calls i).stage ≠ .listening) : Good (sendFails s i) := by
  unfold sendFails
  cases hstage : (s.calls i).stage with
  | listening => exact absurd hstage hnot
  | contextTaken =>
    cases (s.calls i).expectsResponse with
    | true => exact h
    | false =>
      apply good_setCall_early h (congrArg Stage.phase hstage)
      · exact nofun
      · exact nofun
      · exact nofun
  | _ => exact h

theorem good_expire (hnot : (s.calls i).stage ≠ .looping) : Good (expire s i) := by
  unfold expire
  cases hstage : (s.calls i).stage with
  | looping => exact absurd hstage hnot
  | _ => exact h

omit h

theorem lastIndex_eq_some {context : Context} {entries : List Entry} {index : Nat}
    (h : lastIndex context entries = some index) :
    ∃ e, entries[index]? = some e ∧ e.context = context := by
  induction entries generalizing index with
  | nil => cases h
  | cons e rest ih =>
    rw [lastIndex] at h
    cases hrest : lastIndex context rest with
    | some k =>
      rw [hrest] at h
      cases h
      exact ih hrest
    | none =>
      rw [hrest] at h
      split_ifs at h with hcontext
      cases h
      exact ⟨e, rfl, hcontext⟩

theorem lastIndex_eq_none {context : Context} {entries : List Entry}
    (h : lastIndex context entries = none) : ∀ e ∈ entries, e.context ≠ context := by
  induction entries with
  | nil => exact nofun
  | cons e rest ih =>
    rw [lastIndex] at h
    cases hrest : lastIndex context rest with
    | some k =>
      rw [hrest] at h
      cases h
    | none =>
      rw [hrest] at h
      split_ifs at h with hcontext
      exact forall_mem_cons.mpr ⟨hcontext, ih hrest⟩

theorem good_takeResponse (h : Good s) {index : Nat} {e : Entry} {response : Received}
    (hindex : s.listeningForResponse[index]? = some e) (howner : e.owner = i)
    (hpdu : e.pdu = some response) :
    Good { s.setCall i { s.calls i with stage := .returned (some response) } with
      listeningForResponse := s.listeningForResponse.eraseIdx index } := by
  have ok := (h.calls i).entry e (mem_of_getElem? hindex) howner
  have hcall := setCall_self s i { s.calls i with stage := .returned (some response) }
  have hothers : ∀ e', e' ∈ s.listeningForResponse.eraseIdx index ↔
      e' ∈ s.listeningForResponse ∧ e'.owner ≠ i := by
    intro e'
    rw [mem_eraseIdx_iff_getElem?]
    constructor
    · rintro ⟨n, hne, hn⟩
      refine ⟨mem_of_getElem? hn, ?_⟩
      intro heq
      exact hne (h.owner_inj hn hindex (heq.trans howner.symm))
    · rintro ⟨hmem, hne⟩
      obtain ⟨n, hn⟩ := mem_iff_getElem?.mp hmem
      refine ⟨n, ?_, hn⟩
      rintro rfl
      rw [hindex] at hn
      cases hn
      exact hne howner
  constructor
  case calls =>
    apply h.callOk
    · constructor
      case entry => exact fun e' he' heq => absurd heq ((hothers e').mp he').2
      case listed =>
        show ((s.setCall i _).calls i).stage.phase = .pending → _
        rw [hcall]
        exact nofun
      case early =>
        show ((s.setCall i _).calls i).stage.phase = .early → _
        rw [hcall]
        exact nofun
      case kept =>
        intro r hgiven
        -- the only PDU the call was given is the one in its entry
        have hr := h.pdu_of_given (mem_of_getElem? hindex) (howner ▸ hgiven)
        rw [hpdu] at hr
        cases hr
        exact .inl (congrArg Call.stage hcall)
      case returned =>
        show ∀ r, ((s.setCall i _).calls i).stage = _ → _ ∧ ((s.setCall i _).calls i).sentAt ≤ _
        rw [hcall]
        rintro r ⟨⟩
        have hfilled := ok.filled response hpdu
        rw [howner] at hfilled
        exact hfilled
    · exact fun j hji => setCall_of_ne s hji _
    · exact fun e' hne => (hothers e').trans (and_iff_left hne)
    · exact fun _ _ _ => Iff.rfl
  case owners => exact h.owners.sublist ((eraseIdx_sublist _ _).map _)
  case right => exact h.right
  case once => exact h.once

theorem good_wake (h : Good s)
    (hown : (s.calls i).stage = .waiting →
      ∀ index ∈ lastIndex (s.calls i).context s.listeningForResponse,
        ∀ e ∈ s.listeningForResponse[index]?, e.pdu.isSome → e.owner = i) :
    Good (wake s i) := by
  unfold wake
  cases hstage : (s.calls i).stage with
  | waiting =>
    have hpending : (s.calls i).stage.phase = .pending := congrArg Stage.phase hstage
    cases hlast : lastIndex (s.calls i).context s.listeningForResponse with
    | none =>
      -- the entry of the call is there, and has its context
      obtain ⟨e, he, howner⟩ := (h.calls i).listed hpending
      have hcontext := ((h.calls i).entry e he howner).context
      rw [howner] at hcontext
      exact absurd hcontext (lastIndex_eq_none hlast e he)
    | some index =>
      obtain ⟨e, hindex, -⟩ := lastIndex_eq_some hlast
      dsimp only
      rw [hindex, Option.bind_some]
      cases hpdu : e.pdu with
      | none => exact good_setCall_pending h .looping _ hpending rfl nofun (.inl rfl)
      | some response =>
        have howner := hown hstage index hlast e hindex (hpdu ▸ rfl)
        exact good_takeResponse h hindex howner hpdu
  | _ => exact h

/-! ## Polls -/

theorem good_receive (h : Good s) (context : Context) (pdu : GenericPDU) :
    Good (receive s context pdu) where
  calls := fun j => (h.calls j).congr rfl (fun _ _ => Iff.rfl) (fun _ => Iff.rfl)
  owners := h.owners
  right := h.right
  once := by
    show ((s.inFlight ++ [_] ++ s.deliveries.map Delivery.received).map Received.number).Perm
      (range (s.received + 1))
    rw [append_assoc, singleton_append, range_succ]
    refine (perm_middle.map _).trans ?_
    rw [map_cons]
    exact (h.once.cons s.received).trans (perm_append_singleton _ _).symm

variable {r : Received}

theorem once_delivered (h : Good s) {k : Nat} (hk : s.inFlight[k]? = some r) :
    ((s.inFlight.eraseIdx k ++ r :: s.deliveries.map (·.received)).map (·.number)).Perm
      (List.range s.received) := by
  obtain ⟨hlt, rfl⟩ := List.getElem?_eq_some_iff.mp hk
  refine (List.Perm.map _ ?_).trans h.once
  refine List.perm_middle.trans ?_
  rw [← cons_append]
  exact (getElem_cons_eraseIdx_perm hlt).append_right _

theorem good_fillEntry (h : Good s) {k index : Nat} {e : Entry} (hk : s.inFlight[k]? = some r)
    (hindex : s.listeningForResponse[index]? = some e) (hawaits : (s.calls e.owner).Awaits r) :
    Good (fillEntry { s with inFlight := s.inFlight.eraseIdx k } r index) := by
  have ok := (h.calls e.owner).entry e (mem_of_getElem? hindex) rfl
  have hempty : e.pdu = none := by
    have hanswered := ok.answered
    rw [hawaits.1.2] at hanswered
    cases hpdu : e.pdu with
    | none => rfl
    | some r' =>
      rw [hpdu] at hanswered
      cases hanswered
  have hcall := setCall_self s e.owner { s.calls e.owner with answered := true }
  have hentries : ∀ e', e' ∈ s.listeningForResponse.set index { e with pdu := some r } ↔
      e' = { e with pdu := some r } ∨ e' ∈ s.listeningForResponse ∧ e'.owner ≠ e.owner := by
    intro e'
    rw [List.mem_iff_getElem?]
    obtain ⟨hlt, -⟩ := List.getElem?_eq_some_iff.mp hindex
    constructor
    · rintro ⟨n, hn⟩
      rw [getElem?_set] at hn
      split_ifs at hn with heq
      · cases hn
        exact .inl rfl
      · refine .inr ⟨mem_of_getElem? hn, ?_⟩
        intro howner
        exact heq (h.owner_inj hindex hn howner.symm)
    · rintro (rfl | ⟨hmem, hne⟩)
      · exact ⟨index, getElem?_set_self hlt⟩
      · obtain ⟨n, hn⟩ := mem_iff_getElem?.mp hmem
        refine ⟨n, ?_⟩
        rw [getElem?_set_ne, hn]
        rintro rfl
        rw [hindex] at hn
        cases hn
        exact hne rfl
  unfold fillEntry
  rw [hindex]
  constructor
  case calls =>
    apply h.callOk
    · refine CallOk.of_entry ((hentries _).mpr (.inl rfl)) ?_ ?_ ?_
      · constructor
        · exact (congrArg (fun c => Stage.phase (Call.stage c)) hcall).trans ok.pending
        · exact ok.context.trans (congrArg Call.context hcall).symm
        · exact ok.functionCode.trans
            (congrArg (fun c => GenericPDU.functionCode (Call.request c)) hcall).symm
        · exact congrArg Call.answered hcall
        · intro hlistening
          have hlistening' := (congrArg Call.stage hcall).symm.trans hlistening
          rcases hawaits.1.1 with hstage | hstage
          · exact absurd (hstage.symm.trans hlistening') nofun
          · exact absurd (hstage.symm.trans hlistening') nofun
        · rintro r' ⟨⟩
          refine ⟨⟨_, mem_cons_self, rfl, rfl⟩, ?_⟩
          exact (congrArg Call.sentAt hcall).trans_le hawaits.2.1
      · exact fun e' he' heq => ((hentries e').mp he').resolve_right fun hold => hold.2 heq
      · intro r' hgiven
        rcases (given_of_deliveries rfl _ _).mp hgiven with ⟨hr', -⟩ | hgiven
        · exact congrArg some hr'
        · -- nothing can have been given to the call before, its entry was empty
          have hpdu := h.pdu_of_given (mem_of_getElem? hindex) hgiven
          rw [hempty] at hpdu
          cases hpdu
    · exact fun j hj => setCall_of_ne s hj _
    · intro e' hne
      refine (hentries e').trans ⟨?_, fun hmem => .inr ⟨hmem, hne⟩⟩
      rintro (rfl | hmem)
      · exact absurd rfl hne
      · exact hmem.1
    · intro j hj r'
      refine (given_of_deliveries rfl j r').trans (or_iff_right ?_)
      rintro ⟨-, ⟨⟩⟩
      exact hj rfl
  case owners =>
    show ((s.listeningForResponse.set index _).map (·.owner)).Nodup
    obtain ⟨hlt, rfl⟩ := List.getElem?_eq_some_iff.mp hindex
    rw [List.map_set, ← List.getElem_map Entry.owner, List.set_getElem_self]
    · exact h.owners
    · rwa [length_map]
  case right => exact forall_mem_cons.mpr ⟨hawaits, h.right⟩
  case once => exact once_delivered h hk

theorem listensFor_of_awaits (h : Good s) (hawaits : (s.calls i).Awaits r) :
    ∃ e ∈ s.listeningForResponse, e.listensFor r = true := by
  have hpending : (s.calls i).stage.phase = .pending := by
    rcases hawaits.1.1 with hstage | hstage <;> rw [hstage] <;> rfl
  obtain ⟨e, he, howner⟩ := (h.calls i).listed hpending
  have ok := (h.calls i).entry e he howner
  refine ⟨e, he, ?_⟩
  unfold Entry.listensFor
  rw [ok.context, ok.functionCode, howner, hawaits.2.2.1, hawaits.2.2.2, beq_self_eq_true]
  rfl

theorem good_callOnPdu (h : Good s) (onPdu : Option (GenericPDU → Option GenericPDU)) {k : Nat}
    (hk : s.inFlight[k]? = some r)
    (hnobody : ∀ e ∈ s.listeningForResponse, e.listensFor r = false) :
    Good (callOnPdu onPdu { s with inFlight := s.inFlight.eraseIdx k } r) where
  calls := by
    intro j
    refine (h.calls j).congr rfl (fun _ _ => Iff.rfl) ?_
    intro r'
    exact (given_of_deliveries rfl j r').trans (or_iff_right nofun)
  owners := h.owners
  right := by
    refine forall_mem_cons.mpr ⟨fun i hawaits => ?_, h.right⟩
    obtain ⟨e, he, hlistens⟩ := listensFor_of_awaits h hawaits
    rw [hnobody e he] at hlistens
    cases hlistens
  once := once_delivered h hk

theorem find?_of_findIdx? {index : Nat}
    (h : s.listeningForResponse.findIdx? (Entry.listensFor r) = some index) :
    ∃ e, s.listeningForResponse[index]? = some e ∧
      s.listeningForResponse.find? (Entry.listensFor r) = some e := by
  obtain ⟨hlt, hlistens, hfirst⟩ := findIdx?_eq_some_iff_getElem.mp h
  refine ⟨s.listeningForResponse[index], getElem?_eq_getElem hlt, ?_⟩
  exact find?_eq_some_iff_getElem.mpr ⟨hlistens, index, hlt, rfl, fun j hj => by
    rw [Bool.not_eq_true']
    exact Bool.eq_false_iff.mpr (hfirst j hj)⟩

theorem good_correlate (h : Good s) (onPdu : Option (GenericPDU → Option GenericPDU)) (k : Nat)
    (hmeant : ∀ r ∈ s.inFlight[k]?,
      ∀ e ∈ s.listeningForResponse.find? (Entry.listensFor r), (s.calls e.owner).Awaits r) :
    Good (correlate onPdu s k) := by
  unfold correlate
  cases hk : s.inFlight[k]? with
  | none => exact h
  | some r =>
    dsimp only
    cases hfind : s.listeningForResponse.findIdx? (Entry.listensFor r) with
    | some index =>
      obtain ⟨e, hindex, hentry⟩ := find?_of_findIdx? hfind
      exact good_fillEntry h hk hindex (hmeant r hk e hentry)
    | none => exact good_callOnPdu h onPdu hk (findIdx?_eq_none_iff.mp hfind)

end

/-- A step that disturbs no call keeps them right. -/
theorem good_step (onPdu : Option (GenericPDU → Option GenericPDU)) {label : Label} (h : Good s)
    (hundisturbed : Undisturbed s label) : Good (step onPdu s label) := by
  cases label with
  | request i expectsResponse r => exact good_request h expectsResponse r
  | readTransactionId i => exact good_readTransactionId h
  | writeTransactionId i => exact good_writeTransactionId h
  | listen i => exact good_listen h
  | send i => exact good_send h
  | sendFails i => exact good_sendFails h hundisturbed
  | startWaiting i => exact good_startWaiting h
  | expire i => exact good_expire h hundisturbed
  | wake i => exact good_wake h hundisturbed
  | receive context pdu => exact good_receive h context pdu
  | correlate k => exact good_correlate h onPdu k hundisturbed

/-! ## Disturbed steps -/

section

variable {s : State} {i : Nat}

theorem not_correct_of_thrown (h : Good s) (hpending : (s.calls i).stage.phase = .pending)
    {c : Call} (hended : c.Ended) : ¬ Correct (s.setCall i c) := by
  intro hcorrect
  obtain ⟨e, he, howner⟩ := (h.calls i).listed hpending
  refine hcorrect.noEntry i ?_ e he howner
  rw [setCall_self]
  exact hended

theorem not_correct_of_stolen (h : Good s) {index : Nat} {e : Entry} {response : Received}
    (hindex : s.listeningForResponse[index]? = some e) (howner : e.owner ≠ i)
    (hpdu : e.pdu = some response) :
    ¬ Correct { s.setCall i { s.calls i with stage := .returned (some response) } with
      listeningForResponse := s.listeningForResponse.eraseIdx index } := by
  intro hcorrect
  have ok := (h.calls e.owner).entry e (mem_of_getElem? hindex) rfl
  have hcall := setCall_of_ne s howner { s.calls i with stage := .returned (some response) }
  rcases hcorrect.kept e.owner response (ok.filled response hpdu).1 with
    hreturned | ⟨-, e', he', heq, -⟩
  · have hstage := (congrArg Call.stage hcall).symm.trans hreturned
    have hpending := ok.pending
    rw [hstage] at hpending
    cases hpending
  · obtain ⟨n, hne, hn⟩ := mem_eraseIdx_iff_getElem?.mp he'
    exact hne (h.owner_inj hn hindex heq)

theorem bad_step (onPdu : Option (GenericPDU → Option GenericPDU)) {label : Label}
    (h : Good s) (hdisturbed : ¬ Undisturbed s label) : ¬ Correct (step onPdu s label) := by
  cases label with
  | expire i =>
    have hstage : (s.calls i).stage = .looping := not_not.mp hdisturbed
    show ¬ Correct (expire s i)
    rw [expire, hstage]
    exact not_correct_of_thrown h (congrArg Stage.phase hstage) rfl
  | sendFails i =>
    have hstage : (s.calls i).stage = .listening := not_not.mp hdisturbed
    show ¬ Correct (sendFails s i)
    rw [sendFails, hstage]
    exact not_correct_of_thrown h (congrArg Stage.phase hstage) rfl
  | wake i =>
    simp only [Undisturbed] at hdisturbed
    push Not at hdisturbed
    obtain ⟨hstage, index, hlast, e, hindex, hpdu, howner⟩ := hdisturbed
    obtain ⟨response, hresponse⟩ := Option.isSome_iff_exists.mp hpdu
    rw [Option.mem_def] at hlast hindex
    show ¬ Correct (wake s i)
    simp only [wake, hstage, hlast, hindex, Option.bind_some, hresponse]
    exact not_correct_of_stolen h hindex howner hresponse
  | correlate k =>
    simp only [Undisturbed] at hdisturbed
    push Not at hdisturbed
    obtain ⟨r, hk, e, hentry, hnot⟩ := hdisturbed
    rw [Option.mem_def] at hk hentry
    intro hcorrect
    cases hfind : s.listeningForResponse.findIdx? (Entry.listensFor r) with
    | none =>
      have hnone := findIdx?_eq_none_iff.mp hfind e (mem_of_find?_eq_some hentry)
      rw [find?_some hentry] at hnone
      cases hnone
    | some index =>
      obtain ⟨e', hindex, hentry'⟩ := find?_of_findIdx? hfind
      rw [hentry] at hentry'
      cases hentry'
      have hright := hcorrect.right
      simp only [step, correlate, hk, hfind, fillEntry, hindex] at hright
      exact hnot (hright _ mem_cons_self)
  | _ => exact absurd trivial hdisturbed

end

/-! ## Whole runs -/

theorem good_init (sendingUnitId transactionId : UInt16) :
    Good (init sendingUnitId transactionId) where
  calls := by
    intro i
    constructor
    case entry => exact nofun
    case listed => exact nofun
    case early => exact fun _ => rfl
    case kept =>
      rintro r ⟨d, hd, -⟩
      cases hd
    case returned => exact nofun
  owners := nodup_nil
  right := nofun
  once := List.Perm.refl _

/-- **PDUs are never misdelivered** in exactly those runs in which no step is
disturbed. -/
theorem pdus_never_misdelivered_iff (onPdu : Option (GenericPDU → Option GenericPDU))
    (sendingUnitId transactionId : UInt16) (labels : List Label) :
    Always (step onPdu) Correct (init sendingUnitId transactionId) labels ↔
      Along (step onPdu) Undisturbed (init sendingUnitId transactionId) labels := by
  apply always_iff_along (I := Good)
  · intro s label h _ hundisturbed
    exact good_step onPdu h hundisturbed
  · intro s label h _
    constructor
    · intro hcorrect
      by_contra hdisturbed
      exact bad_step onPdu h hdisturbed hcorrect
    · intro hundisturbed
      exact (good_step onPdu h hundisturbed).correct
  · exact good_init sendingUnitId transactionId
  · exact (good_init sendingUnitId transactionId).correct

/-- A call reads register values and times out; the answer comes late. -/
def lateAnswer : List Label :=
  [.request 0 true ⟨3, [0, 0, 0, 1]⟩, .readTransactionId 0, .writeTransactionId 0, .listen 0,
    .send 0, .startWaiting 0, .wake 0, .expire 0,
    .receive (newSendContext 0xFF 0) ⟨3, [2, 0, 1]⟩, .correlate 0]

/-- The call has thrown, and yet its entry is still there and swallows the late
answer, which does not reach `on_pdu`. -/
theorem late_answer_is_swallowed :
    ¬ Always (step (some fun _ => none)) Correct (init 0xFF 0) lateAnswer ∧
      ((run (step (some fun _ => none)) (init 0xFF 0) lateAnswer).calls 0).stage =
        .thrown .timeout ∧
      (run (step (some fun _ => none)) (init 0xFF 0) lateAnswer).deliveries.map (·.recipient) =
        [.call 0] ∧
      (run (step (some fun _ => none)) (init 0xFF 0) lateAnswer).listeningForResponse.map
        (·.owner) = [0] := by
  refine ⟨?_, by decide, by decide, by decide⟩
  intro h
  exact h.last.noEntry 0 rfl _ mem_cons_self rfl

end EverestCore.Modbus.Correlation
