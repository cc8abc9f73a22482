import Mathlib.Algebra.Order.BigOperators.Group.List
import Mathlib.Algebra.Order.Ring.Nat
import EverestCore.Lib.Relay
import EverestCore.Ocpp.StartUp

/-!
# No session event is lost or overtaken at start-up

Whether it is depends on two moments: a session event must not be handed over directly while
earlier ones are queued, and it must not be pushed to a queue that the drain has passed.
-/

namespace EverestCore.Ocpp.StartUp

open EverestCore.Lib StartUp.System Callback QueuedEvent List Function

/-! ## The relay of an EVSE -/

def Callback.inHand : Callback → Option Occurrence
  | .idle => none
  | .received occurrence | .queueing occurrence | .direct occurrence => some occurrence

/-- The drain will not look at the queue of an EVSE again. -/
def Ready.passed (evse : Nat) : Ready → Bool
  | .starting | .delaying => false
  | .testing k | .processing k _ | .popping k => evse < k
  | .advancing k => evse ≤ k
  | .done => true

/-- The queue without the event that has been handed over and is not popped yet. -/
def System.remaining (s : System) (evse : Nat) : List QueuedEvent :=
  if s.ready = .popping evse then (s.eventQueue.queue evse).tail else s.eventQueue.queue evse

/-- The queued session events that are not handed over yet. -/
def System.pending (s : System) (evse : Nat) : List Occurrence :=
  (s.remaining evse).filterMap session

/-- Start-up seen as a relay, for one EVSE. -/
def System.relay (evse : Nat) (s : System) : Relay Occurrence where
  received := s.received evse
  inHand := (s.callback evse).inHand
  backlog := s.pending evse
  delivered := s.handed evse
  closed := s.ready.passed evse

def Callback.isQueueing : Callback → Bool
  | .queueing _ => true
  | _ => false

def Callback.isDirect : Callback → Bool
  | .direct _ => true
  | _ => false

/-- The callback of an EVSE pushes an event only while the drain will look at its queue, and
hands one over only while no other is queued. -/
def InTurn (evse : Nat) (s : System) : Label → Prop
  | .push k => k = evse → (s.callback k).isQueueing = true → s.ready.passed evse = false
  | .call k => k = evse → (s.callback k).isDirect = true → s.pending evse = []
  | _ => True

instance (evse : Nat) (s : System) : (label : Label) → Decidable (InTurn evse s label)
  | .push k | .call k => inferInstanceAs (Decidable (k = evse → _ → _))
  | .receive _ _ | .test _ | .other _ _ | .ready => inferInstanceAs (Decidable True)

/-! ## Well-formed states -/

/-- What `ready()` has copied is still at the front of its queue. -/
def Ready.Fits (q : EventQueue) : Ready → Prop
  | .processing evse front => ∃ rest, q.queue evse = front :: rest
  | .popping evse => ∃ front rest, q.queue evse = front :: rest
  | _ => True

/-- The drain is at a place of the queue. -/
structure Wf (s : System) : Prop where
  fits : s.ready.Fits s.eventQueue
  numbers : ∀ evse, ∀ o ∈ s.received evse, o.number < (s.received evse).length

theorem wf_init : Wf {} where
  fits := trivial
  numbers _ _ h := by cases h

variable {q : EventQueue}

theorem Ready.Fits.push {r : Ready} (h : r.Fits q) (evse : Nat) (x : QueuedEvent) :
    r.Fits (q.push evse x) := by
  cases r with
  | processing k front =>
    obtain ⟨rest, hqueue⟩ := h
    exact EventQueue.push_cons hqueue evse x
  | popping k =>
    obtain ⟨front, rest, hqueue⟩ := h
    exact ⟨front, EventQueue.push_cons hqueue evse x⟩
  | _ => trivial

variable {s : System}

theorem Wf.receive (h : Wf s) (evse : Nat) (event : SessionEvent) : Wf (s.receive evse event) := by
  unfold System.receive
  split
  · refine ⟨h.fits, ?_⟩
    intro k o ho
    dsimp only at ho ⊢
    by_cases hk : k = evse
    · subst hk
      rw [update_self] at ho ⊢
      rw [length_append, length_singleton]
      rcases mem_append.mp ho with hold | hnew
      · have := h.numbers k o hold
        omega
      · rw [mem_singleton.mp hnew]
        exact Nat.lt_succ_self _
    · rw [update_of_ne hk] at ho ⊢
      exact h.numbers k o ho
  · exact h

theorem Wf.iterate (h : Wf s) (position : Option Nat) : Wf (s.iterate position) := by
  cases position with
  | none => exact ⟨trivial, h.numbers⟩
  | some k => exact ⟨trivial, h.numbers⟩

theorem Wf.readyStep (h : Wf s) : Wf s.readyStep := by
  have hfits := h.fits
  unfold System.readyStep
  split <;> rename_i hready <;> rw [hready] at hfits
  · exact ⟨trivial, h.numbers⟩
  · exact h.iterate _
  · split
    · exact ⟨trivial, h.numbers⟩
    · rename_i front rest hqueue
      exact ⟨⟨rest, hqueue⟩, h.numbers⟩
  · exact ⟨⟨_, hfits⟩, h.numbers⟩
  · exact ⟨⟨_, hfits⟩, h.numbers⟩
  · exact ⟨trivial, h.numbers⟩
  · exact h.iterate _
  · exact h

theorem wf_step (s : System) (label : Label) (h : Wf s) : Wf (step s label) := by
  cases label with
  | receive evse event => exact h.receive evse event
  | test evse =>
    show Wf (s.test evse)
    unfold test
    split
    · exact ⟨h.fits, h.numbers⟩
    · exact h
  | push evse =>
    show Wf (s.push evse)
    unfold push
    split
    · exact ⟨h.fits.push evse _, h.numbers⟩
    · exact h
  | call evse =>
    show Wf (s.call evse)
    unfold call
    split
    · exact ⟨h.fits, h.numbers⟩
    · exact h
  | other evse event => exact ⟨h.fits.push evse _, h.numbers⟩
  | ready => exact h.readyStep

/-! ## Each step is one of the relay -/

theorem pending_push (h : Wf s) (evse : Nat) (x : QueuedEvent) (callback : Nat → Callback) :
    pending { s with eventQueue := s.eventQueue.push evse x, callback := callback } evse =
      s.pending evse ++ x.session.toList := by
  have hremaining : remaining
      { s with eventQueue := s.eventQueue.push evse x, callback := callback } evse =
        s.remaining evse ++ [x] := by
    unfold remaining
    rw [EventQueue.push_self]
    split
    · -- the queue is not empty while its front is popped
      rename_i hready
      have hfits := h.fits
      rw [hready] at hfits
      obtain ⟨front, rest, hqueue⟩ := hfits
      rw [hqueue]
      rfl
    · rfl
  unfold pending
  rw [hremaining, filterMap_append]
  cases x <;> rfl

variable {evse : Nat}

theorem pending_of_ne (h : s.ready ≠ .popping evse) :
    s.pending evse = (s.eventQueue.queue evse).filterMap session := by
  unfold pending remaining
  rw [if_neg h]

theorem pending_popping (h : s.ready = .popping evse) :
    s.pending evse = (s.eventQueue.queue evse).tail.filterMap session := by
  unfold pending remaining
  rw [if_pos h]

theorem pending_congr {s t : System} (hready : t.ready = s.ready)
    (hqueue : t.eventQueue.queue evse = s.eventQueue.queue evse) :
    t.pending evse = s.pending evse := by
  unfold pending remaining
  rw [hready, hqueue]

theorem inHand_self (callback : Nat → Callback) (evse : Nat) (c : Callback) :
    (Function.update callback evse c evse).inHand = c.inHand := by rw [update_self]

theorem inHand_of_ne (callback : Nat → Callback) {evse k : Nat} (c : Callback) (h : evse ≠ k) :
    (Function.update callback k c evse).inHand = (callback evse).inHand := by
  rw [update_of_ne h]

section

variable {s t : System} {evse : Nat}

theorem skip_act (hreceived : t.received evse = s.received evse)
    (hhand : (t.callback evse).inHand = (s.callback evse).inHand)
    (hready : t.ready = s.ready) (hpending : t.pending evse = s.pending evse)
    (hhanded : t.handed evse = s.handed evse) :
    t.relay evse = (s.relay evse).step .skip := by
  exact Relay.ext hreceived hhand hpending hhanded (congrArg (Ready.passed evse) hready)

theorem ready_act (hreceived : t.received evse = s.received evse)
    (hcallback : t.callback evse = s.callback evse) (hpending : t.pending evse = s.pending evse)
    (hhanded : t.handed evse = s.handed evse)
    (hpassed : t.ready.passed evse = s.ready.passed evse ∨
      (t.ready.passed evse = true ∧ s.pending evse = [])) :
    ∃ act, t.relay evse = (s.relay evse).step act ∧ (s.relay evse).InTurn act := by
  rcases hpassed with hsame | ⟨hpassed, hempty⟩
  · refine ⟨.skip, ?_, trivial⟩
    exact Relay.ext hreceived (congrArg inHand hcallback) hpending hhanded hsame
  · refine ⟨.close, ?_, trivial⟩
    rw [Relay.step_close hempty]
    exact Relay.ext hreceived (congrArg inHand hcallback) hpending hhanded hpassed

theorem move_act {r : Ready} (hs : s.ready ≠ .popping evse) (hr : r ≠ .popping evse)
    (hpassed : r.passed evse = s.ready.passed evse ∨
      (r.passed evse = true ∧ s.eventQueue.queue evse = [])) :
    ∃ act, relay evse { s with ready := r } = (s.relay evse).step act ∧
      (s.relay evse).InTurn act := by
  refine ready_act rfl rfl ?_ rfl ?_
  · rw [pending_of_ne hs, pending_of_ne hr]
  · refine hpassed.imp_right fun ⟨hpassed, hempty⟩ => ⟨hpassed, ?_⟩
    rw [pending_of_ne hs, hempty]
    rfl

end

theorem iterate_act {position : Option Nat} (hs : s.ready ≠ .popping evse)
    (hnone : position = none → s.ready.passed evse = true ∨ s.eventQueue.queue evse = [])
    (hsome : ∀ k, position = some k → (decide (evse < k)) = s.ready.passed evse ∨
      (evse < k ∧ s.eventQueue.queue evse = [])) :
    ∃ act, (s.iterate position).relay evse = (s.relay evse).step act ∧
      (s.relay evse).InTurn act := by
  cases position with
  | none =>
    refine move_act hs (by intro h; cases h) ?_
    exact (hnone rfl).imp (fun h => h.symm) fun h => ⟨rfl, h⟩
  | some k =>
    refine move_act hs (by intro h; cases h) ?_
    exact (hsome k rfl).imp_right fun h => ⟨decide_eq_true h.1, h.2⟩

theorem processing_act {evse k : Nat} {o : Occurrence} {rest : List QueuedEvent}
    (hready : s.ready = .processing k (.sessionEvent o))
    (hqueue : s.eventQueue.queue k = .sessionEvent o :: rest) :
    ∃ act, relay evse { s.handOver k o with ready := .popping k } =
      (s.relay evse).step act ∧ (s.relay evse).InTurn act := by
  have hs : s.ready ≠ .popping evse := by rw [hready]; intro h; cases h
  by_cases hk : evse = k
  · subst hk
    have hpending : s.pending evse = o :: rest.filterMap session := by
      rw [pending_of_ne hs, hqueue]
      rfl
    have hpending' : pending { s.handOver evse o with ready := .popping evse } evse =
        rest.filterMap session := by
      rw [pending_popping rfl]
      exact congrArg (fun queue => queue.tail.filterMap session) hqueue
    have hpassed : s.ready.passed evse = false := by
      rw [hready]
      exact decide_eq_false (Nat.lt_irrefl _)
    refine ⟨.drain, ?_, trivial⟩
    rw [Relay.step_drain hpassed hpending]
    exact Relay.ext rfl rfl hpending' (update_self ..)
      ((decide_eq_false (Nat.lt_irrefl _)).trans hpassed.symm)
  · refine ready_act rfl rfl ?_ (update_of_ne hk ..) (.inl (by rw [hready]; rfl))
    rw [pending_of_ne hs, pending_of_ne fun h => hk (Ready.popping.inj h).symm]
    rfl

variable (evse)

theorem readyStep_act (hwf : Wf s) :
    ∃ act, s.readyStep.relay evse = (s.relay evse).step act ∧ (s.relay evse).InTurn act := by
  have hfits := hwf.fits
  unfold readyStep
  split <;> rename_i hready <;> rw [hready] at hfits
  · have hs : s.ready ≠ .popping evse := by rw [hready]; intro h; cases h
    refine ready_act rfl rfl ?_ rfl (.inl (by rw [hready]; rfl))
    rw [pending_of_ne hs, pending_of_ne (by intro h; cases h)]
  · -- the iterator skips absent queues only
    have hs : s.ready ≠ .popping evse := by rw [hready]; intro h; cases h
    refine iterate_act hs (fun h => .inr (EventQueue.first_none h evse)) ?_
    intro k hk
    by_cases hlt : evse < k
    · exact .inr ⟨hlt, EventQueue.first_some hk hlt⟩
    · rw [hready]
      exact .inl (decide_eq_false hlt)
  · rename_i k
    have hs : s.ready ≠ .popping evse := by rw [hready]; intro h; cases h
    split
    · rename_i hqueue
      refine move_act hs (by intro h; cases h) ?_
      rw [hready]
      by_cases hk : evse = k
      · subst hk
        exact .inr ⟨decide_eq_true (Nat.le_refl _), hqueue⟩
      · left
        show decide (evse ≤ k) = decide (evse < k)
        rw [decide_eq_decide]
        omega
    · refine move_act hs (by intro h; cases h) ?_
      rw [hready]
      exact .inl rfl
  · obtain ⟨rest, hqueue⟩ := hfits
    exact processing_act hready hqueue
  · -- the event at the front is none of the session
    rename_i k event
    obtain ⟨rest, hqueue⟩ := hfits
    have hs : s.ready ≠ .popping evse := by rw [hready]; intro h; cases h
    refine ready_act rfl rfl ?_ rfl (.inl (by rw [hready]; rfl))
    rw [pending_of_ne hs]
    by_cases hk : evse = k
    · subst hk
      rw [pending_popping rfl, hqueue]
      rfl
    · rw [pending_of_ne fun h => hk (Ready.popping.inj h).symm]
  · rename_i k
    refine ready_act rfl rfl ?_ rfl (.inl (by rw [hready]; rfl))
    rw [pending_of_ne (by intro h; cases h)]
    by_cases hk : evse = k
    · subst hk
      rw [pending_popping hready, ← s.eventQueue.pop_self]
    · rw [pending_of_ne fun h => hk (Ready.popping.inj (hready.symm.trans h)).symm,
        ← s.eventQueue.pop_of_ne hk]
  · -- the increment skips absent queues only
    rename_i k
    have hs : s.ready ≠ .popping evse := by rw [hready]; intro h; cases h
    have hpassed : s.ready.passed evse = decide (evse ≤ k) := by rw [hready]; rfl
    by_cases hle : evse ≤ k
    · refine iterate_act hs (fun _ => .inl (hpassed.trans (decide_eq_true hle))) ?_
      intro k' hk'
      have hlt := EventQueue.lt_of_next hk'
      left
      rw [hpassed, decide_eq_decide]
      omega
    · have hlt : k < evse := Nat.lt_of_not_le hle
      refine iterate_act hs (fun h => .inr (EventQueue.next_none h hlt)) ?_
      intro k' hk'
      by_cases hlt' : evse < k'
      · exact .inr ⟨hlt', EventQueue.next_some hk' hlt hlt'⟩
      · left
        rw [hpassed, decide_eq_decide]
        omega
  · exact ⟨.skip, rfl, trivial⟩

/-! ## The callback -/

variable (evse k : Nat)

theorem receive_act (event : SessionEvent) (hwf : Wf s) :
    ∃ act, (s.receive k event).relay evse = (s.relay evse).step act ∧
      (s.relay evse).InTurn act := by
  unfold receive
  split
  · rename_i hidle
    by_cases hk : evse = k
    · subst hk
      have hfresh : ⟨(s.received evse).length, event⟩ ∉ (s.relay evse).received := by
        intro hmem
        exact Nat.lt_irrefl _ (hwf.numbers evse _ hmem)
      refine ⟨.receive ⟨(s.received evse).length, event⟩, ?_, trivial⟩
      rw [Relay.step_receive (congrArg inHand hidle) hfresh]
      exact Relay.ext (update_self ..) (inHand_self ..) rfl rfl rfl
    · refine ⟨.skip, ?_, trivial⟩
      exact skip_act (update_of_ne hk ..) (inHand_of_ne _ _ hk) rfl rfl rfl
  · exact ⟨.skip, rfl, trivial⟩

theorem test_act (s : System) : (s.test k).relay evse = (s.relay evse).step .skip := by
  unfold test
  split
  · rename_i o hreceived
    refine skip_act rfl ?_ rfl rfl rfl
    dsimp only
    by_cases hk : evse = k
    · subst hk
      rw [update_self, hreceived]
      split <;> rfl
    · rw [update_of_ne hk]
  · rfl

theorem push_act (hwf : Wf s) :
    ∃ act, (s.push k).relay evse = (s.relay evse).step act ∧
      (InTurn evse s (.push k) ↔ (s.relay evse).InTurn act) := by
  unfold push
  cases hcallback : s.callback k with
  | queueing o =>
    by_cases hk : evse = k
    · subst hk
      have hhand : (s.relay evse).inHand = some o := congrArg inHand hcallback
      refine ⟨.park, ?_, ?_⟩
      · rw [Relay.step_park hhand]
        exact Relay.ext rfl (inHand_self ..) (pending_push hwf evse (.sessionEvent o) _) rfl rfl
      · constructor
        · intro h
          exact .inr (h rfl (congrArg isQueueing hcallback))
        · rintro (hnone | hopen) _ _
          · cases hhand.symm.trans hnone
          · exact hopen
    · refine ⟨.skip, ?_, ?_⟩
      · exact skip_act rfl (inHand_of_ne _ _ hk) rfl
          (pending_congr rfl (s.eventQueue.push_of_ne _ hk)) rfl
      · exact iff_of_true (fun h => absurd h.symm hk) trivial
  | _ =>
    refine ⟨.skip, rfl, iff_of_true ?_ trivial⟩
    intro _ hqueueing
    rw [hcallback] at hqueueing
    cases hqueueing

theorem call_act (s : System) :
    ∃ act, (s.call k).relay evse = (s.relay evse).step act ∧
      (InTurn evse s (.call k) ↔ (s.relay evse).InTurn act) := by
  unfold call
  cases hcallback : s.callback k with
  | direct o =>
    by_cases hk : evse = k
    · subst hk
      have hhand : (s.relay evse).inHand = some o := congrArg inHand hcallback
      refine ⟨.direct, ?_, ?_⟩
      · rw [Relay.step_direct hhand]
        exact Relay.ext rfl (inHand_self ..) rfl (update_self ..) rfl
      · constructor
        · intro h
          exact .inr (h rfl (congrArg isDirect hcallback))
        · rintro (hnone | hempty) _ _
          · cases hhand.symm.trans hnone
          · exact hempty
    · refine ⟨.skip, ?_, ?_⟩
      · exact skip_act rfl (inHand_of_ne _ _ hk) rfl rfl (update_of_ne hk ..)
      · exact iff_of_true (fun h => absurd h.symm hk) trivial
  | _ =>
    refine ⟨.skip, rfl, iff_of_true ?_ trivial⟩
    intro _ hdirect
    rw [hcallback] at hdirect
    cases hdirect

/-- Every step is an act of the relay. -/
theorem exists_act (s : System) (label : Label) (hwf : Wf s) :
    ∃ act, (step s label).relay evse = (s.relay evse).step act ∧
      (InTurn evse s label ↔ (s.relay evse).InTurn act) := by
  have hquiet : ∀ t : System,
      (∃ act, t.relay evse = (s.relay evse).step act ∧ (s.relay evse).InTurn act) →
      ∃ act, t.relay evse = (s.relay evse).step act ∧ (True ↔ (s.relay evse).InTurn act) :=
    fun t ⟨act, hact, hturn⟩ => ⟨act, hact, iff_of_true trivial hturn⟩
  cases label with
  | receive k event => exact hquiet _ (receive_act evse k event hwf)
  | test k => exact hquiet _ ⟨.skip, test_act evse k s, trivial⟩
  | push k => exact push_act evse k hwf
  | call k => exact call_act evse k s
  | other k event =>
    refine hquiet _ ⟨.skip, skip_act rfl rfl rfl ?_ rfl, trivial⟩
    by_cases hk : evse = k
    · subst hk
      exact (pending_push hwf evse (.other event) s.callback).trans (append_nil _)
    · exact pending_congr rfl (s.eventQueue.push_of_ne _ hk)
  | ready => exact hquiet _ (readyStep_act evse hwf)

/-! ## The drain ends -/

/-- The steps that a queue takes, its test and the increment after it included. -/
def EventQueue.cost (q : EventQueue) (evse : Nat) : Nat := 3 * (q.queue evse).length + 2

/-- The steps that some queues take. -/
def EventQueue.costs (q : EventQueue) (keys : List Nat) : Nat := (keys.map q.cost).sum

def EventQueue.after (q : EventQueue) (evse : Nat) : List Nat := q.keys.filter (evse < ·)

theorem EventQueue.cost_add (q : EventQueue) {k : Nat} {keys : List Nat} (h : k ∈ keys) :
    q.cost k + q.costs (keys.filter (k < ·)) ≤ q.costs keys := by
  induction keys with
  | nil => cases h
  | cons first rest ih =>
    have hcosts : q.costs (first :: rest) = q.cost first + q.costs rest := sum_cons
    by_cases hlt : k < first
    · rcases mem_cons.mp h with rfl | hmem
      · omega
      · have hrest := ih hmem
        have hfirst : q.costs ((first :: rest).filter (k < ·)) =
            q.cost first + q.costs (rest.filter (k < ·)) := by
          rw [filter_cons_of_pos (p := fun i => decide (k < i)) (decide_eq_true hlt)]
          exact sum_cons
        omega
    · rw [filter_cons_of_neg (p := fun i => decide (k < i)) fun h => hlt (of_decide_eq_true h)]
      rcases mem_cons.mp h with rfl | hmem
      · have hrest : q.costs (rest.filter (k < ·)) ≤ q.costs rest :=
          (filter_sublist.map q.cost).sum_le_sum fun _ _ => Nat.zero_le _
        omega
      · have hrest := ih hmem
        omega

theorem EventQueue.first_cost {k : Nat} (h : q.first = some k) :
    q.cost k + q.costs (q.after k) ≤ q.costs q.keys :=
  q.cost_add (min?_eq_some_iff.mp h).1

theorem EventQueue.next_cost {k k' : Nat} (h : q.next k = some k') :
    q.cost k' + q.costs (q.after k') ≤ q.costs (q.after k) := by
  have hlt := EventQueue.lt_of_next h
  have hafter : q.after k' = (q.after k).filter (k' < ·) := by
    unfold EventQueue.after
    rw [filter_filter]
    apply filter_congr
    intro i _
    rw [← Bool.decide_and, decide_eq_decide]
    omega
  rw [hafter]
  exact q.cost_add (min?_eq_some_iff.mp h).1

/-- The steps that `ready()` has still to make, if no more events are pushed. -/
def Ready.rank (q : EventQueue) : Ready → Nat
  | .starting => q.costs q.keys + 2
  | .delaying => q.costs q.keys + 1
  | .testing k => q.cost k + q.costs (q.after k)
  | .processing k _ => 3 * (q.queue k).length + 1 + q.costs (q.after k)
  | .popping k => 3 * (q.queue k).length + q.costs (q.after k)
  | .advancing k => q.costs (q.after k) + 1
  | .done => 0

theorem rank_iterate {position : Option Nat} {bound : Nat} (h : ∀ k, position = some k →
      s.eventQueue.cost k + s.eventQueue.costs (s.eventQueue.after k) ≤ bound) :
    (s.iterate position).ready.rank s.eventQueue < bound + 1 := by
  cases position with
  | none => exact Nat.succ_pos _
  | some k => exact Nat.lt_succ_of_le (h k rfl)

theorem readyStep_rank (hwf : Wf s) (hdone : s.ready ≠ .done) :
    s.readyStep.ready.rank s.readyStep.eventQueue < s.ready.rank s.eventQueue := by
  have hfits := hwf.fits
  unfold readyStep
  split <;> rename_i hready <;> rw [hready] at hfits ⊢
  · exact Nat.lt_succ_self _
  · exact rank_iterate fun k hk => EventQueue.first_cost hk
  · rename_i k
    split
    · rename_i hqueue
      unfold Ready.rank EventQueue.cost
      dsimp only
      omega
    · unfold Ready.rank EventQueue.cost
      dsimp only
      omega
  · exact Nat.add_lt_add_right (Nat.lt_succ_self _) _
  · exact Nat.add_lt_add_right (Nat.lt_succ_self _) _
  · -- the queue gets shorter, the others stay
    rename_i k
    obtain ⟨front, rest, hqueue⟩ := hfits
    have hafter : (s.eventQueue.pop k).costs ((s.eventQueue.pop k).after k) =
        s.eventQueue.costs (s.eventQueue.after k) := by
      unfold EventQueue.costs
      congr 1
      apply map_congr_left
      intro i hi
      have hne : i ≠ k := by
        have := of_decide_eq_true (mem_filter.mp hi).2
        omega
      unfold EventQueue.cost
      rw [s.eventQueue.pop_of_ne hne]
    show (s.eventQueue.pop k).cost k + _ < 3 * (s.eventQueue.queue k).length + _
    unfold EventQueue.cost
    rw [hafter, s.eventQueue.pop_self, hqueue, tail_cons, length_cons]
    omega
  · exact rank_iterate fun k hk => EventQueue.next_cost hk
  · exact absurd hready hdone

theorem ready_finishes (hwf : Wf s) :
    ∃ n, (run step s (List.replicate n .ready)).ready = .done := by
  induction hrank : s.ready.rank s.eventQueue using Nat.strongRecOn generalizing s with
  | _ rank ih =>
    by_cases hready : s.ready = .done
    · exact ⟨0, hready⟩
    · obtain ⟨n, hn⟩ := ih _ (hrank ▸ readyStep_rank hwf hready) (wf_step s .ready hwf) rfl
      exact ⟨n + 1, hn⟩

theorem callback_finishes (s : System) (evse : Nat) :
    (run step s [.test evse, .push evse, .call evse]).callback evse = .idle ∧
      (run step s [.test evse, .push evse, .call evse]).ready = s.ready := by
  show (((s.test evse).push evse).call evse).callback evse = .idle ∧
    (((s.test evse).push evse).call evse).ready = s.ready
  cases hcallback : s.callback evse with
  | received o =>
    cases hstarted : s.started <;> simp [test, push, call, handOver, hcallback, hstarted]
  | _ => simp [test, push, call, handOver, hcallback]

/-! ## Main result -/

def Complete (s : System) : Prop := s.ready = .done ∧ s.callback evse = .idle

/-- Events are handed over in the order in which they were received, at the end each one. -/
def HandedInOrder (labels : List Label) : Prop :=
  Always step (fun s => s.handed evse <+: s.received evse) {} labels ∧
    (Complete evse (run step {} labels) →
      (run step {} labels).handed evse = (run step {} labels).received evse)

theorem relay_init : relay evse {} = {} := rfl

/-- Every run can be completed. If the steps of a run are all in turn, the events are handed
over once and in order; in a complete run, only then. -/
theorem session_events_in_order_iff (evse : Nat) (labels : List Label) :
    (∃ n, Complete evse (run step {}
      (labels ++ List.replicate n .ready ++ [.test evse, .push evse, .call evse]))) ∧
    (Along step (InTurn evse) {} labels → HandedInOrder evse labels) ∧
    (Complete evse (run step {} labels) →
      (HandedInOrder evse labels ↔ Along step (InTurn evse) {} labels)) := by
  obtain ⟨acts, hrun, halong, halways⟩ :=
    exists_abstract_run wf_step (exists_act evse) labels wf_init
  rw [relay_init] at hrun halong halways
  have hinorder : Along step (InTurn evse) {} labels → HandedInOrder evse labels := by
    intro hturn
    have hgood := Relay.always_good (halong.mp hturn)
    refine ⟨(halways Relay.Ordered).mpr (hgood.imp fun _ h => h.ordered), ?_⟩
    rintro ⟨hready, hidle⟩
    have hlast := hgood.last
    rw [← hrun] at hlast
    exact hlast.eq (congrArg (Ready.passed evse) hready) (congrArg inHand hidle)
  refine ⟨?_, hinorder, fun hcomplete => ⟨?_, hinorder⟩⟩
  · have hwf : Wf (run step {} labels) := invariant_run wf_step labels wf_init
    obtain ⟨n, hn⟩ := ready_finishes hwf
    refine ⟨n, ?_⟩
    rw [run_append, run_append]
    obtain ⟨hidle, hready⟩ :=
      callback_finishes (run step (run step {} labels) (replicate n .ready)) evse
    exact ⟨hready.trans hn, hidle⟩
  · rintro ⟨-, hend⟩
    apply halong.mpr
    apply Relay.along_of_eq
    rw [← hrun]
    exact hend hcomplete

variable {evse}

/-- The EV is plugged in before OCPP is started, and authorized once the queue is drained. -/
def quietStart : List Label :=
  [.receive 1 { uuid := 1, kind := .sessionStarted .evConnected none none },
   .test 1, .push 1] ++ List.replicate 7 .ready ++
  [.receive 1 { uuid := 1, kind := .transactionStarted { idToken := 7 } none }, .test 1, .call 1]

theorem quietStart_in_order : Complete 1 (run step {} quietStart) ∧ HandedInOrder 1 quietStart :=
  ⟨⟨rfl, rfl⟩, (session_events_in_order_iff 1 quietStart).2.1 (by decide)⟩

/-- The EV is authorized while OCPP is delayed: the queue is not drained yet. -/
def authorizedInDelay : List Label :=
  [.receive 1 { uuid := 1, kind := .sessionStarted .evConnected none none },
   .test 1, .push 1, .ready,
   .receive 1 { uuid := 1, kind := .transactionStarted { idToken := 7 } none }, .test 1,
   .call 1] ++ List.replicate 6 .ready

/-- The callback finds `started` unset, but pushes its event after the drain. -/
def pushedTooLate : List Label :=
  [.receive 1 { uuid := 1, kind := .sessionStarted .evConnected none none }, .test 1, .ready,
   .ready, .push 1]

/-- In the first run the later event is handed over first; in the second one the event is
never handed over. -/
theorem queued_event_is_overtaken :
    (Complete 1 (run step {} authorizedInDelay) ∧
      ((run step {} authorizedInDelay).handed 1).map (·.number) = [1, 0] ∧
      ¬ HandedInOrder 1 authorizedInDelay) ∧
    (Complete 1 (run step {} pushedTooLate) ∧
      (run step {} pushedTooLate).handed 1 = [] ∧ ¬ HandedInOrder 1 pushedTooLate) := by
  have hfirst : Complete 1 (run step {} authorizedInDelay) := ⟨rfl, rfl⟩
  have hsecond : Complete 1 (run step {} pushedTooLate) := ⟨rfl, rfl⟩
  refine ⟨⟨hfirst, rfl, ?_⟩, hsecond, rfl, ?_⟩
  · intro h
    exact absurd (h.2 hfirst) (by decide)
  · intro h
    exact absurd (h.2 hsecond) (by decide)

end EverestCore.Ocpp.StartUp
