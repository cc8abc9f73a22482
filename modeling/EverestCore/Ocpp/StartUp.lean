import Mathlib.Logic.Function.Basic
import EverestCore.Ocpp.SessionEvents

/-!
# Session events across start-up

Until `started` is set, the callbacks of `OCPP201.cpp` push what they receive to
`event_queue`; afterwards they hand it over directly. `ready()` sets the flag, waits for
`DelayOcppStart` and then drains the queues one EVSE after the other. The callback tests the
flag without holding the mutex, and the drain does not hold it at all.

The unsynchronised accesses to a queue are taken to be atomic.
-/

namespace EverestCore.Ocpp.StartUp

open List Function

/-! ## Event queues -/

/-- A session event as the callback receives it. Equal events are told apart by their
number. -/
structure Occurrence where
  number : Nat
  event : SessionEvent
  deriving DecidableEq

inductive OtherEvent
  | eventData | meterValue | firmwareUpdateStatus | logStatus
  deriving DecidableEq

inductive QueuedEvent
  | sessionEvent (occurrence : Occurrence)
  | other (event : OtherEvent)
  deriving DecidableEq

def QueuedEvent.session : QueuedEvent → Option Occurrence
  | .sessionEvent occurrence => some occurrence
  | .other _ => none

structure EventQueue where
  keys : List Nat := []
  queue : Nat → List QueuedEvent := fun _ => []
  absent : ∀ evse, evse ∉ keys → queue evse = [] := by exact fun _ _ => rfl

namespace EventQueue

variable (q : EventQueue)

/-- `event_queue[evse].push(event)`, which creates the queue if there is none. -/
def push (evse : Nat) (event : QueuedEvent) : EventQueue where
  keys := q.keys.insert evse
  queue := Function.update q.queue evse (q.queue evse ++ [event])
  absent other hother := by
    rw [List.mem_insert_iff, not_or] at hother
    rw [Function.update_of_ne hother.1]
    exact q.absent other hother.2

def pop (evse : Nat) : EventQueue where
  keys := q.keys
  queue := Function.update q.queue evse (q.queue evse).tail
  absent other hother := by
    by_cases h : other = evse
    · rw [h, Function.update_self, q.absent evse (h ▸ hother)]
      rfl
    · rw [Function.update_of_ne h]
      exact q.absent other hother

theorem push_self (evse : Nat) (x : QueuedEvent) :
    (q.push evse x).queue evse = q.queue evse ++ [x] := update_self ..

theorem push_of_ne {evse k : Nat} (x : QueuedEvent) (h : k ≠ evse) :
    (q.push evse x).queue k = q.queue k := update_of_ne h ..

theorem pop_self (evse : Nat) :
    (q.pop evse).queue evse = (q.queue evse).tail := update_self ..

theorem pop_of_ne {evse k : Nat} (h : k ≠ evse) :
    (q.pop evse).queue k = q.queue k := update_of_ne h ..

variable {q : EventQueue}

theorem push_cons {k : Nat} {x : QueuedEvent} {rest : List QueuedEvent} (h : q.queue k = x :: rest)
    (evse : Nat) (y : QueuedEvent) :
    ∃ rest', (q.push evse y).queue k = x :: rest' := by
  by_cases hk : k = evse
  · subst hk
    rw [q.push_self, h]
    exact ⟨rest ++ [y], rfl⟩
  · rw [q.push_of_ne y hk]
    exact ⟨rest, h⟩

/-- The smallest key, `begin()`. -/
def first : Option Nat := q.keys.min?

/-- The smallest key after `evse`, the iterator's increment. -/
def next (evse : Nat) : Option Nat := (q.keys.filter (evse < ·)).min?

theorem first_none (h : q.first = none) (evse : Nat) : q.queue evse = [] := by
  apply q.absent
  rw [min?_eq_none_iff.mp h]
  exact not_mem_nil

theorem first_some {k : Nat} (h : q.first = some k) {evse : Nat} (hlt : evse < k) :
    q.queue evse = [] := by
  apply q.absent
  intro hmem
  have hle := (min?_eq_some_iff.mp h).2 evse hmem
  omega

theorem next_none {k : Nat} (h : q.next k = none) {evse : Nat} (hlt : k < evse) :
    q.queue evse = [] := by
  apply q.absent
  intro hmem
  have hin : evse ∈ q.keys.filter (k < ·) := mem_filter.mpr ⟨hmem, decide_eq_true hlt⟩
  rw [min?_eq_none_iff.mp h] at hin
  cases hin

theorem lt_of_next {k k' : Nat} (h : q.next k = some k') : k < k' :=
  of_decide_eq_true (mem_filter.mp (min?_eq_some_iff.mp h).1).2

theorem next_some {k k' : Nat} (h : q.next k = some k') {evse : Nat} (hk : k < evse)
    (hlt : evse < k') : q.queue evse = [] := by
  apply q.absent
  intro hmem
  have hle := (min?_eq_some_iff.mp h).2 evse (mem_filter.mpr ⟨hmem, decide_eq_true hk⟩)
  omega

end EventQueue

/-! ## The module -/

inductive Callback
  | idle
  | received (occurrence : Occurrence)
  /-- it has found `started` unset -/
  | queueing (occurrence : Occurrence)
  /-- it has found `started` set -/
  | direct (occurrence : Occurrence)
  deriving DecidableEq

inductive Ready
  /-- up to the start of the charge point -/
  | starting
  /-- `started` is set: the EVSEs are told, and OCPP is delayed -/
  | delaying
  /-- at the condition of the while loop -/
  | testing (evse : Nat)
  | processing (evse : Nat) (front : QueuedEvent)
  | popping (evse : Nat)
  /-- the queue was empty, the iterator is to be incremented -/
  | advancing (evse : Nat)
  | done
  deriving DecidableEq

structure System where
  started : Bool := false
  eventQueue : EventQueue := {}
  callback : Nat → Callback := fun _ => .idle
  ready : Ready := .starting
  /-- the session events of each EVSE, as its callback received them -/
  received : Nat → List Occurrence := fun _ => []
  /-- the session events of each EVSE that were handed to `process_session_event` -/
  handed : Nat → List Occurrence := fun _ => []

inductive Label
  /-- the callback of an EVSE is called -/
  | receive (evse : Nat) (event : SessionEvent)
  /-- it tests `started` -/
  | test (evse : Nat)
  /-- it pushes the event -/
  | push (evse : Nat)
  /-- it calls `process_session_event` -/
  | call (evse : Nat)
  /-- another callback pushes to the same queue -/
  | other (evse : Nat) (event : OtherEvent)
  /-- `ready()` makes a step -/
  | ready
  deriving DecidableEq

namespace System

variable (s : System)

variable (evse : Nat)

def receive (event : SessionEvent) : System :=
  match s.callback evse with
  | .idle =>
    let occurrence : Occurrence := ⟨(s.received evse).length, event⟩
    { s with
      callback := Function.update s.callback evse (.received occurrence)
      received := Function.update s.received evse (s.received evse ++ [occurrence]) }
  | _ => s

def test : System :=
  match s.callback evse with
  | .received occurrence =>
    { s with
      callback := Function.update s.callback evse
        (if s.started then .direct occurrence else .queueing occurrence) }
  | _ => s

def push (evse : Nat) : System :=
  match s.callback evse with
  | .queueing occurrence =>
    { s with
      callback := Function.update s.callback evse .idle
      eventQueue := s.eventQueue.push evse (.sessionEvent occurrence) }
  | _ => s

def handOver (occurrence : Occurrence) : System :=
  { s with handed := Function.update s.handed evse (s.handed evse ++ [occurrence]) }

def call : System :=
  match s.callback evse with
  | .direct occurrence =>
    { s.handOver evse occurrence with callback := Function.update s.callback evse .idle }
  | _ => s

def iterate (position : Option Nat) : System :=
  { s with ready := (position.map Ready.testing).getD .done }

def readyStep : System :=
  match s.ready with
  | .starting => { s with started := true, ready := .delaying }
  | .delaying => s.iterate s.eventQueue.first
  | .testing evse =>
    match s.eventQueue.queue evse with
    | [] => { s with ready := .advancing evse }
    | front :: _ => { s with ready := .processing evse front }
  | .processing evse (.sessionEvent occurrence) =>
    { s.handOver evse occurrence with ready := .popping evse }
  | .processing evse (.other _) => { s with ready := .popping evse }
  | .popping evse => { s with eventQueue := s.eventQueue.pop evse, ready := .testing evse }
  | .advancing evse => s.iterate (s.eventQueue.next evse)
  | .done => s

end System

def step (s : System) : Label → System
  | .receive evse event => s.receive evse event
  | .test evse => s.test evse
  | .push evse => s.push evse
  | .call evse => s.call evse
  | .other evse event => { s with eventQueue := s.eventQueue.push evse (.other event) }
  | .ready => s.readyStep

end EverestCore.Ocpp.StartUp
