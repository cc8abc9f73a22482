import Mathlib

/-!
# Machines that are polled

A machine that nothing else happens to is polled again and again; each poll reads
a clock. `polled` gives its states.

`Progresses.ends` is the rule for eventual termination, and `polled_keeps` the one
for what never ends.
-/

namespace EverestCore.Lib

variable {σ ε α : Type} (poll : ε → σ → σ)

/-- The state after a number of polls. -/
def polled (polls : Nat → ε) (s : σ) : Nat → σ
  | 0 => s
  | k + 1 => poll (polls k) (polled polls s k)

/-- The clock of the polls never goes back and passes every time. -/
structure Advances (time : Nat → Int) : Prop where
  mono : Monotone time
  unbounded : ∀ t, ∃ k, t ≤ time k

/-- Each poll before the end keeps `I` and takes the machine to a lower stage, or
leaves stage and deadline alone: before the deadline, or closer to what happens
after it. -/
def Progresses [LT α] (time : ε → Int) (I Done : σ → Prop) (stage : σ → α) (deadline : σ → Int)
    (patience : σ → Nat) : Prop :=
  ∀ e s, I s → ¬ Done s → Done (poll e s) ∨
    I (poll e s) ∧ (stage (poll e s) < stage s ∨
      stage (poll e s) = stage s ∧ deadline (poll e s) = deadline s ∧
        (time e < deadline s ∨ patience (poll e s) < patience s))

section

variable {poll} {polls : Nat → ε} {s : σ}

theorem polled_keeps {I : σ → Prop} (hpoll : ∀ e s, I s → I (poll e s)) (hs : I s) (k : Nat) :
    I (polled poll polls s k) := by
  induction k with
  | zero => exact hs
  | succ k ih => exact hpoll _ _ ih

/-- Along a run that never ends each stage is left: its deadline passes, and then
the patience runs out. -/
theorem stage_left [LT α] {time : ε → Int} (stage : σ → α) (deadline : σ → Int)
    (patience : σ → Nat) (st : Nat → σ) {e : Nat → ε} (hadv : Advances fun k => time (e k))
    (hstep : ∀ k, stage (st (k + 1)) < stage (st k) ∨
      stage (st (k + 1)) = stage (st k) ∧ deadline (st (k + 1)) = deadline (st k) ∧
        (time (e k) < deadline (st k) ∨ patience (st (k + 1)) < patience (st k)))
    (k : Nat) : ∃ j, stage (st j) < stage (st k) := by
  by_contra hnone
  push Not at hnone
  -- stage and deadline stay as they are at `k`
  have hsame : ∀ j, stage (st (k + j)) = stage (st k) ∧
      deadline (st (k + j)) = deadline (st k) := by
    intro j
    induction j with
    | zero => exact ⟨rfl, rfl⟩
    | succ j ih =>
      rcases hstep (k + j) with hlt | ⟨hstage, hdeadline, -⟩
      · exact absurd (ih.1 ▸ hlt) (hnone _)
      · exact ⟨hstage.trans ih.1, hdeadline.trans ih.2⟩
  -- from some poll on the deadline is over
  obtain ⟨late, hlate⟩ := hadv.unbounded (deadline (st k))
  have hpatience : ∀ j, patience (st (k + (late + j))) + j ≤ patience (st (k + late)) := by
    intro j
    induction j with
    | zero => exact Nat.le_refl _
    | succ j ih =>
      have htime : deadline (st k) ≤ time (e (k + (late + j))) := hlate.trans (hadv.mono (by omega))
      rcases hstep (k + (late + j)) with hlt | ⟨-, -, hwait | hwait⟩
      · exact absurd ((hsame (late + j)).1 ▸ hlt) (hnone _)
      · rw [(hsame (late + j)).2] at hwait
        exact absurd hwait (Int.not_lt.mpr htime)
      · have hidx : k + (late + (j + 1)) = k + (late + j) + 1 := by omega
        rw [hidx]
        omega
  have hneg := hpatience (patience (st (k + late)) + 1)
  omega

/-- **Termination under polling.** -/
theorem Progresses.ends [Preorder α] [WellFoundedLT α] {time : ε → Int} {I Done : σ → Prop}
    {stage : σ → α} {deadline : σ → Int} {patience : σ → Nat}
    (hprog : Progresses poll time I Done stage deadline patience)
    (hadv : Advances fun k => time (polls k)) (hs : I s) :
    ∃ k, Done (polled poll polls s k) := by
  by_contra hnever
  push Not at hnever
  have hI : ∀ k, I (polled poll polls s k) := by
    intro k
    induction k with
    | zero => exact hs
    | succ k ih =>
      rcases hprog (polls k) _ ih (hnever k) with hdone | ⟨hI, -⟩
      · exact absurd hdone (hnever (k + 1))
      · exact hI
  have hleft := stage_left stage deadline patience (polled poll polls s) hadv fun k => by
    rcases hprog (polls k) _ (hI k) (hnever k) with hdone | ⟨-, h⟩
    · exact absurd hdone (hnever (k + 1))
    · exact h
  -- the lowest stage is left, too
  obtain ⟨_, ⟨k, rfl⟩, hlowest⟩ :=
    wellFounded_lt.has_min (Set.range fun k => stage (polled poll polls s k)) ⟨_, 0, rfl⟩
  obtain ⟨j, hj⟩ := hleft k
  exact hlowest _ ⟨j, rfl⟩ hj

end

end EverestCore.Lib
