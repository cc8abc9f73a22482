import Mathlib.Data.List.Basic

/-!
# Runs of labelled machines

A machine is a total step function; a label that is not enabled is a step that
does nothing. `run` executes a list of labels.

`invariant_run` and `always_of_along` are the induction rules.
`always_iff_along` turns a per-step equivalence into one over whole runs, and
`good_or_doomed` is its form for properties that are lost for good by one step
but may be seen to be lost only later.
-/

namespace EverestCore.Lib

variable {σ α : Type} (step : σ → α → σ)

/-- The state after all labels. -/
def run (s : σ) : List α → σ
  | [] => s
  | a :: rest => run (step s a) rest

/-- Every step of the run meets `C` on the state before it. -/
def Along (C : σ → α → Prop) (s : σ) : List α → Prop
  | [] => True
  | a :: rest => C s a ∧ Along C (step s a) rest

/-- `P` holds in every state of the run. -/
def Always (P : σ → Prop) (s : σ) : List α → Prop
  | [] => P s
  | a :: rest => P s ∧ Always P (step s a) rest

/-- Whether a run meets a decidable condition can be computed. -/
instance Along.decidable {C : σ → α → Prop} [∀ s a, Decidable (C s a)] :
    ∀ (s : σ) (labels : List α), Decidable (Along step C s labels)
  | _, [] => .isTrue trivial
  | s, a :: rest =>
    have := Along.decidable (C := C) (step s a) rest
    inferInstanceAs (Decidable (C s a ∧ Along step C (step s a) rest))

section

variable {step}

@[simp] theorem run_nil (s : σ) : run step s [] = s := rfl

@[simp] theorem run_cons (s : σ) (a : α) (rest : List α) :
    run step s (a :: rest) = run step (step s a) rest := rfl

theorem run_append (s : σ) (pre rest : List α) :
    run step s (pre ++ rest) = run step (run step s pre) rest := by
  induction pre generalizing s with
  | nil => rfl
  | cons a pre ih => exact ih (step s a)

variable {C : σ → α → Prop}

theorem along_append (s : σ) (pre rest : List α) :
    Along step C s (pre ++ rest) ↔
      Along step C s pre ∧ Along step C (run step s pre) rest := by
  induction pre generalizing s with
  | nil => simp [Along]
  | cons a pre ih => simp only [List.cons_append, Along, run_cons, ih, and_assoc]

variable {s : σ} {labels : List α}

theorem Always.head {P : σ → Prop} (h : Always step P s labels) : P s := by
  cases labels with
  | nil => exact h
  | cons a rest => exact h.1

theorem Always.imp {P Q : σ → Prop} (hPQ : ∀ s, P s → Q s) (h : Always step P s labels) :
    Always step Q s labels := by
  induction labels generalizing s with
  | nil => exact hPQ s h
  | cons a rest ih => exact ⟨hPQ s h.1, ih h.2⟩

theorem Always.last {P : σ → Prop} (h : Always step P s labels) : P (run step s labels) := by
  induction labels generalizing s with
  | nil => exact h
  | cons a rest ih => exact ih h.2

variable {I : σ → Prop}

/-- What every step keeps, every run keeps. -/
theorem invariant_run (hstep : ∀ s a, I s → I (step s a)) (labels : List α) (hs : I s) :
    I (run step s labels) := by
  induction labels generalizing s with
  | nil => exact hs
  | cons a rest ih => exact ih (hstep s a hs)

/-- A property kept by the steps that meet `C` holds all along a run whose steps
do, and with it whatever follows from it. -/
theorem always_of_along {P I : σ → Prop} (hstep : ∀ s a, I s → C s a → I (step s a))
    (hP : ∀ s, I s → P s) (hs : I s) (halong : Along step C s labels) :
    Always step P s labels := by
  induction labels generalizing s with
  | nil => exact hP s hs
  | cons a rest ih => exact ⟨hP s hs, ih (hstep s a hs halong.1) halong.2⟩

/-- Under an invariant that the steps meeting `C` keep, a run whose steps meet `C` meets
whatever follows at each step. -/
theorem along_of_along {C D : σ → α → Prop} (hstep : ∀ s a, I s → C s a → I (step s a))
    (hD : ∀ s a, I s → C s a → D s a) (hs : I s) (halong : Along step C s labels) :
    Along step D s labels := by
  induction labels generalizing s with
  | nil => trivial
  | cons a rest ih => exact ⟨hD s a hs halong.1, ih (hstep s a hs halong.1) halong.2⟩

theorem along_congr {C D : σ → α → Prop} (hinv : ∀ s a, I s → I (step s a))
    (hCD : ∀ s a, I s → (C s a ↔ D s a)) (labels : List α) (hs : I s) :
    Along step C s labels ↔ Along step D s labels := by
  induction labels generalizing s with
  | nil => exact Iff.rfl
  | cons a rest ih => exact and_congr (hCD s a hs) (ih (hinv s a hs))

/-- If, under an invariant the good steps keep, a step keeps `P` exactly when it
meets `C`, then `P` always holds exactly along the runs that meet `C`. -/
theorem always_iff_along {P I : σ → Prop} (hinv : ∀ s a, I s → P s → C s a → I (step s a))
    (hstep : ∀ s a, I s → P s → (P (step s a) ↔ C s a)) (labels : List α) (hs : I s) (hP : P s) :
    Always step P s labels ↔ Along step C s labels := by
  induction labels generalizing s with
  | nil => exact ⟨fun _ => trivial, fun _ => hP⟩
  | cons a rest ih =>
    refine ⟨fun h => ?_, fun h => ?_⟩
    · have hC : C s a := (hstep s a hs hP).mp h.2.head
      exact ⟨hC, (ih (hinv s a hs hP hC) h.2.head).mp h.2⟩
    · have hP' : P (step s a) := (hstep s a hs hP).mpr h.1
      exact ⟨hP, (ih (hinv s a hs hP h.1) hP').mpr h.2⟩

/-- If good steps keep `Good`, a bad step from `Good` leads to `Doomed` and every
step keeps `Doomed`, then a run ends good or doomed as its steps were all good or
not. -/
theorem good_or_doomed {Good Doomed : σ → Prop} (hgood : ∀ s a, Good s → C s a → Good (step s a))
    (hbad : ∀ s a, Good s → ¬ C s a → Doomed (step s a))
    (hdoomed : ∀ s a, Doomed s → Doomed (step s a)) (labels : List α) (hs : Good s) :
    (Along step C s labels ∧ Good (run step s labels)) ∨
      (¬ Along step C s labels ∧ Doomed (run step s labels)) := by
  induction labels generalizing s with
  | nil => exact .inl ⟨trivial, hs⟩
  | cons a rest ih =>
    by_cases hC : C s a
    · rcases ih (hgood s a hs hC) with h | h
      · exact .inl ⟨⟨hC, h.1⟩, h.2⟩
      · exact .inr ⟨fun halong => h.1 halong.2, h.2⟩
    · exact .inr ⟨fun halong => hC halong.1, invariant_run hdoomed rest (hbad s a hs hC)⟩

/-! ## Simulation -/

/-- If an abstract machine can follow each step, it can follow each run: the same
conditions are met and the same states are seen. -/
theorem exists_abstract_run {τ β : Type} {step' : τ → β → τ} {view : σ → τ} {D : τ → β → Prop}
    (hinv : ∀ s a, I s → I (step s a))
    (hsim : ∀ s a, I s → ∃ b, view (step s a) = step' (view s) b ∧ (C s a ↔ D (view s) b))
    (labels : List α) (hs : I s) :
    ∃ labels', view (run step s labels) = run step' (view s) labels' ∧
      (Along step C s labels ↔ Along step' D (view s) labels') ∧
      ∀ P : τ → Prop, Always step (fun t => P (view t)) s labels ↔
        Always step' P (view s) labels' := by
  induction labels generalizing s with
  | nil => exact ⟨[], rfl, Iff.rfl, fun _ => Iff.rfl⟩
  | cons a rest ih =>
    obtain ⟨b, hview, hcond⟩ := hsim s a hs
    obtain ⟨rest', hrun, halong, halways⟩ := ih (hinv s a hs)
    rw [hview] at hrun halong halways
    exact ⟨b :: rest', hrun, and_congr hcond halong, fun P => and_congr Iff.rfl (halways P)⟩

end

end EverestCore.Lib
