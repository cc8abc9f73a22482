import Mathlib.Data.List.Nodup
import EverestCore.Lib.Machine

/-!
# Relays

A relay hands messages on to a receiver. It takes them one at a time and passes each one on
directly, or parks it in a backlog. The backlog is drained from its front and closed once,
when it is empty.
-/

namespace EverestCore.Lib

open List

@[ext] structure Relay (α : Type) where
  received : List α := []
  /-- the message the relay is dealing with -/
  inHand : Option α := none
  backlog : List α := []
  delivered : List α := []
  closed : Bool := false

namespace Relay

inductive Act (α : Type)
  | receive (a : α)
  | park
  | direct
  | drain
  | close
  | skip

variable {α : Type}

/-- Each message is received once. -/
def step [DecidableEq α] (r : Relay α) : Act α → Relay α
  | .receive a =>
    if r.inHand = none ∧ a ∉ r.received then
      { r with received := r.received ++ [a], inHand := some a }
    else r
  | .park =>
    match r.inHand with
    | some a => { r with inHand := none, backlog := r.backlog ++ [a] }
    | none => r
  | .direct =>
    match r.inHand with
    | some a => { r with inHand := none, delivered := r.delivered ++ [a] }
    | none => r
  | .drain =>
    match r.closed, r.backlog with
    | false, a :: rest => { r with backlog := rest, delivered := r.delivered ++ [a] }
    | _, _ => r
  | .close => if r.backlog = [] then { r with closed := true } else r
  | .skip => r

/-- A message does not overtake, and is not left behind. -/
def InTurn (r : Relay α) : Act α → Prop
  | .park => r.inHand = none ∨ r.closed = false
  | .direct => r.inHand = none ∨ r.backlog = []
  | _ => True

/-- Messages are delivered in order, without a gap. -/
def Ordered (r : Relay α) : Prop := r.delivered <+: r.received

/-! ## In order so far -/

/-- Delivered, parked and in hand: every message once, in order. -/
structure Good (r : Relay α) : Prop where
  order : r.delivered ++ r.backlog ++ r.inHand.toList = r.received
  nodup : r.received.Nodup
  emptied : r.closed = true → r.backlog = []

theorem good_init : Good ({} : Relay α) where
  order := rfl
  nodup := nodup_nil
  emptied _ := rfl

variable {r : Relay α}

theorem Good.ordered (h : Good r) : r.Ordered := by
  unfold Ordered
  rw [← h.order, append_assoc]
  exact prefix_append _ _

/-! ## Steps out of turn -/

/-- No message is lost from sight, but the order is broken or a message is stuck. -/
structure Doomed (r : Relay α) : Prop where
  count : r.delivered.length + r.backlog.length + r.inHand.toList.length = r.received.length
  broken : ¬ r.Ordered ∨ (r.closed = true ∧ r.backlog ≠ [])

/-- No message is lost from sight. -/
def Counted (r : Relay α) : Prop :=
  r.delivered.length + r.backlog.length + r.inHand.toList.length = r.received.length

theorem Good.counted (h : Good r) : r.Counted := by
  unfold Counted
  rw [← h.order, length_append, length_append]

theorem not_ordered_of_overtaken {delivered backlog received : List α} {a b : α}
    (horder : delivered ++ (b :: backlog) ++ [a] = received) (hnodup : received.Nodup) :
    ¬ delivered ++ [a] <+: received := by
  intro hprefix
  rw [← horder, append_assoc, prefix_append_right_inj, cons_append, cons_prefix_cons] at hprefix
  rw [← horder, hprefix.1] at hnodup
  have hdisjoint := (nodup_append.mp hnodup).2.2
  exact hdisjoint b mem_append_cons_self b mem_cons_self rfl

theorem not_prefix_append {delivered received : List α} (more news : List α)
    (hlength : delivered.length ≤ received.length) (h : ¬ delivered <+: received) :
    ¬ delivered ++ more <+: received ++ news := by
  intro hprefix
  apply h
  exact prefix_of_prefix_length_le ((prefix_append _ _).trans hprefix) (prefix_append _ _) hlength

/-! ## Steps -/

variable [DecidableEq α]

theorem step_receive {a : α} (hidle : r.inHand = none) (hnew : a ∉ r.received) :
    r.step (.receive a) = { r with received := r.received ++ [a], inHand := some a } :=
  if_pos ⟨hidle, hnew⟩

theorem step_park {a : α} (h : r.inHand = some a) :
    r.step .park = { r with inHand := none, backlog := r.backlog ++ [a] } := by
  simp [step, h]

theorem step_direct {a : α} (h : r.inHand = some a) :
    r.step .direct = { r with inHand := none, delivered := r.delivered ++ [a] } := by
  simp [step, h]

theorem step_drain {a : α} {rest : List α} (hopen : r.closed = false)
    (hbacklog : r.backlog = a :: rest) :
    r.step .drain = { r with backlog := rest, delivered := r.delivered ++ [a] } := by
  simp [step, hopen, hbacklog]

theorem step_close (hempty : r.backlog = []) :
    r.step .close = { r with closed := true } := if_pos hempty

/-- What an act does to the relay. -/
inductive Moved (r : Relay α) : Act α → Relay α → Prop
  | stays {act : Act α} (hturn : r.InTurn act) : Moved r act r
  | received {a : α} (hidle : r.inHand = none) (hnew : a ∉ r.received) :
    Moved r (.receive a) { r with received := r.received ++ [a], inHand := some a }
  | parked {a : α} (hhand : r.inHand = some a) :
    Moved r .park { r with inHand := none, backlog := r.backlog ++ [a] }
  | passed {a : α} (hhand : r.inHand = some a) :
    Moved r .direct { r with inHand := none, delivered := r.delivered ++ [a] }
  | drained {a : α} {rest : List α} (hopen : r.closed = false) (hbacklog : r.backlog = a :: rest) :
    Moved r .drain { r with backlog := rest, delivered := r.delivered ++ [a] }
  | closed (hempty : r.backlog = []) : Moved r .close { r with closed := true }

theorem moved_step (r : Relay α) (act : Act α) : Moved r act (r.step act) := by
  cases act with
  | receive a =>
    rw [step]
    split
    · rename_i hfresh
      exact .received hfresh.1 hfresh.2
    · exact .stays trivial
  | park =>
    rw [step]
    split
    · rename_i hhand
      exact .parked hhand
    · rename_i hhand
      exact .stays (.inl hhand)
  | direct =>
    rw [step]
    split
    · rename_i hhand
      exact .passed hhand
    · rename_i hhand
      exact .stays (.inl hhand)
  | drain =>
    rw [step]
    split
    · rename_i hopen hbacklog
      exact .drained hopen hbacklog
    · exact .stays trivial
  | close =>
    rw [step]
    split
    · rename_i hempty
      exact .closed hempty
    · exact .stays trivial
  | skip => exact .stays trivial

/-- Acts in turn keep the relay good. -/
theorem good_step (r : Relay α) (act : Act α) (h : Good r) (hturn : r.InTurn act) :
    Good (r.step act) := by
  have horder := h.order
  have hmoved := moved_step r act
  generalize r.step act = r' at hmoved ⊢
  cases hmoved with
  | stays => exact h
  | @received a hidle hnew =>
    rw [hidle, Option.toList_none, append_nil] at horder
    refine ⟨congrArg (· ++ [a]) horder, ?_, h.emptied⟩
    refine nodup_append.mpr ⟨h.nodup, nodup_singleton a, ?_⟩
    intro b hb c hc
    rw [mem_singleton.mp hc]
    rintro rfl
    exact hnew hb
  | parked hhand =>
    -- parked in turn: the backlog is still open
    rw [hhand, Option.toList_some, append_assoc] at horder
    rcases hturn with hnone | hopen
    · cases hhand.symm.trans hnone
    · refine ⟨(append_nil _).trans horder, h.nodup, ?_⟩
      intro hclosed
      cases hopen.symm.trans hclosed
  | passed hhand =>
    -- passed on in turn: nothing is parked
    rcases hturn with hnone | hempty
    · cases hhand.symm.trans hnone
    · rw [hhand, hempty, append_nil] at horder
      refine ⟨?_, h.nodup, h.emptied⟩
      rw [hempty, append_nil]
      exact (append_nil _).trans horder
  | drained hopen hbacklog =>
    rw [hbacklog, append_cons] at horder
    refine ⟨horder, h.nodup, ?_⟩
    intro hclosed
    cases hopen.symm.trans hclosed
  | closed hempty => exact ⟨horder, h.nodup, fun _ => hempty⟩

theorem Counted.step (h : r.Counted) (act : Act α) : (r.step act).Counted := by
  have hmoved := moved_step r act
  generalize r.step act = r' at hmoved ⊢
  unfold Counted at h ⊢
  cases hmoved with
  | stays | closed => exact h
  | received hidle =>
    simp [hidle] at h ⊢
    omega
  | parked hhand | passed hhand =>
    simp [hhand] at h ⊢
    omega
  | drained _ hbacklog =>
    simp [hbacklog] at h ⊢
    omega

/-- An act out of turn dooms it. -/
theorem bad_step (r : Relay α) (act : Act α) (h : Good r) (hturn : ¬ r.InTurn act) :
    Doomed (r.step act) := by
  refine ⟨h.counted.step act, ?_⟩
  have hmoved := moved_step r act
  generalize r.step act = r' at hmoved ⊢
  cases hmoved with
  | stays hin => exact absurd hin hturn
  | received | drained | closed => exact absurd trivial hturn
  | parked hhand =>
    refine .inr ⟨(Bool.not_eq_false _).mp (not_or.mp hturn).2, ?_⟩
    exact append_ne_nil_of_right_ne_nil _ (cons_ne_nil _ _)
  | passed hhand =>
    have horder := h.order
    obtain ⟨b, rest, hbacklog⟩ := exists_cons_of_ne_nil (not_or.mp hturn).2
    rw [hhand, hbacklog] at horder
    exact .inl (not_ordered_of_overtaken horder h.nodup)

theorem doomed_step (r : Relay α) (act : Act α) (h : Doomed r) : Doomed (r.step act) := by
  have hcount := h.count
  have hlength : r.delivered.length ≤ r.received.length := by omega
  refine ⟨Counted.step hcount act, ?_⟩
  have hmoved := moved_step r act
  generalize r.step act = r' at hmoved ⊢
  cases hmoved with
  | stays => exact h.broken
  | @received a =>
    refine h.broken.imp_left fun hnot => ?_
    have hgrown := not_prefix_append [] [a] hlength hnot
    rwa [append_nil] at hgrown
  | parked =>
    refine h.broken.imp_right fun hstuck => ⟨hstuck.1, ?_⟩
    exact append_ne_nil_of_left_ne_nil hstuck.2 _
  | @passed a =>
    refine h.broken.imp_left fun hnot => ?_
    have hgrown := not_prefix_append [a] [] hlength hnot
    rwa [append_nil] at hgrown
  | @drained a _ hopen =>
    -- the backlog is open, so the order is what is broken
    rcases h.broken with hnot | ⟨hclosed, -⟩
    · have hgrown := not_prefix_append [a] [] hlength hnot
      rw [append_nil] at hgrown
      exact .inl hgrown
    · cases hopen.symm.trans hclosed
  | closed hempty => exact h.broken.imp_right fun hstuck => absurd hempty hstuck.2

/-! ## Runs -/

omit [DecidableEq α] in
theorem Doomed.ne (h : Doomed r) : r.delivered ≠ r.received := by
  intro heq
  rcases h.broken with hnot | ⟨-, hstuck⟩
  · apply hnot
    show r.delivered <+: r.received
    exact heq ▸ prefix_rfl
  · have hcount := h.count
    have hpos := length_pos_of_ne_nil hstuck
    rw [heq] at hcount
    omega

omit [DecidableEq α] in
theorem Good.eq (h : Good r) (hclosed : r.closed = true)
    (hidle : r.inHand = none) : r.delivered = r.received := by
  rw [← h.order, h.emptied hclosed, hidle]
  simp

theorem always_good {acts : List (Act α)} (halong : Along step InTurn ({} : Relay α) acts) :
    Always step Good ({} : Relay α) acts :=
  always_of_along good_step (fun _ h => h) good_init halong

theorem along_of_eq {acts : List (Act α)}
    (heq : (run step ({} : Relay α) acts).delivered = (run step ({} : Relay α) acts).received) :
    Along step InTurn ({} : Relay α) acts := by
  rcases good_or_doomed good_step bad_step doomed_step acts good_init with
    ⟨halong, -⟩ | ⟨-, hdoomed⟩
  · exact halong
  · exact absurd heq hdoomed.ne

end Relay

end EverestCore.Lib
