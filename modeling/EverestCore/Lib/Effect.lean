import Mathlib.Init

/-!
# Programs that change a state and may throw

A program of type `Eff ε σ α` runs in a state, which an exception does not undo.
-/

namespace EverestCore.Lib

abbrev Eff (ε σ α : Type) := ExceptT ε (StateM σ) α

variable {ε σ α β : Type}

/-- The result and the state at the end. -/
def Eff.exec (m : Eff ε σ α) (s : σ) : Except ε α × σ := m.run.run s

def Eff.after (m : Eff ε σ α) (s : σ) : σ := (m.exec s).2

/-- What holds of a result and the state with it. -/
def Ends (Q : α → σ → Prop) (E : ε → σ → Prop) : Except ε α × σ → Prop
  | (.ok a, s) => Q a s
  | (.error e, s) => E e s

/-- From `P`, the program ends in `Q`, or throws in `E`. -/
def Triple (P : σ → Prop) (m : Eff ε σ α) (Q : α → σ → Prop) (E : ε → σ → Prop) : Prop :=
  ∀ s, P s → Ends Q E (m.exec s)

/-! ## Rules -/

section

variable {P : σ → Prop} {Q : α → σ → Prop} {E : ε → σ → Prop} {m : Eff ε σ α}

theorem Triple.conseq {P' : σ → Prop} {Q' : α → σ → Prop} {E' : ε → σ → Prop}
    (h : Triple P' m Q' E') (hP : ∀ s, P s → P' s) (hQ : ∀ a s, Q' a s → Q a s)
    (hE : ∀ e s, E' e s → E e s) : Triple P m Q E := by
  intro s hs
  have hends := h s (hP s hs)
  match hexec : m.exec s with
  | (.ok a, t) =>
    rw [hexec] at hends
    exact hQ a t hends
  | (.error e, t) =>
    rw [hexec] at hends
    exact hE e t hends

theorem triple_pure {a : α} (h : ∀ s, P s → Q a s) : Triple P (pure a) Q E :=
  fun s hs => h s hs

theorem triple_throw {e : ε} (h : ∀ s, P s → E e s) : Triple P (throw e : Eff ε σ α) Q E :=
  fun s hs => h s hs

theorem triple_get {Q : σ → σ → Prop} (h : ∀ s, P s → Q s s) :
    Triple P (get : Eff ε σ σ) Q E := fun s hs => h s hs

theorem triple_modify {Q : PUnit → σ → Prop} {f : σ → σ} (h : ∀ s, P s → Q ⟨⟩ (f s)) :
    Triple P (modify f : Eff ε σ PUnit) Q E := fun s hs => h s hs

theorem exec_bind (m : Eff ε σ α) (f : α → Eff ε σ β) (s : σ) :
    (m >>= f).exec s = match m.exec s with
      | (.ok a, t) => (f a).exec t
      | (.error e, t) => (.error e, t) := by
  simp only [Eff.exec, ExceptT.run, StateT.run, bind, ExceptT.bind, ExceptT.mk, StateT.bind,
    ExceptT.bindCont]
  cases m s with
  | mk result t => cases result <;> rfl

/-- Programs run one after the other. -/
theorem triple_bind {R : β → σ → Prop} {f : α → Eff ε σ β} (hm : Triple P m Q E)
    (hf : ∀ a, Triple (Q a) (f a) R E) : Triple P (m >>= f) R E := by
  intro s hs
  have hends := hm s hs
  rw [exec_bind]
  match hexec : m.exec s with
  | (.ok a, t) =>
    rw [hexec] at hends
    exact hf a t hends
  | (.error e, t) =>
    rw [hexec] at hends
    exact hends

theorem exec_tryCatch (m : Eff ε σ α) (f : ε → Eff ε σ α) (s : σ) :
    (tryCatch m f).exec s = match m.exec s with
      | (.ok a, t) => (.ok a, t)
      | (.error e, t) => (f e).exec t := by
  simp only [Eff.exec, ExceptT.run, StateT.run, tryCatch, tryCatchThe, MonadExceptOf.tryCatch,
    ExceptT.tryCatch, ExceptT.mk, bind, StateT.bind]
  cases m s with
  | mk result t => cases result <;> rfl

theorem triple_tryCatch {F : ε → σ → Prop} {f : ε → Eff ε σ α} (hm : Triple P m Q F)
    (hf : ∀ e, Triple (F e) (f e) Q E) :
    Triple P (tryCatch m f) Q E := by
  intro s hs
  have hends := hm s hs
  rw [exec_tryCatch]
  match hexec : m.exec s with
  | (.ok a, t) =>
    rw [hexec] at hends
    exact hends
  | (.error e, t) =>
    rw [hexec] at hends
    exact hf e t hends

/-! ## Retrying -/

/-- `m`, run again up to `n` times while it throws what `catches` accepts. -/
def retry (catches : ε → Bool) (m : Eff ε σ α) : Nat → Eff ε σ α
  | 0 => m
  | n + 1 => tryCatch m fun e => if catches e then retry catches m n else throw e

theorem triple_retry {catches : ε → Bool} (hm : Triple P m Q E) (hagain : ∀ e s, E e s → P s)
    (n : Nat) : Triple P (retry catches m n) Q E := by
  induction n with
  | zero => exact hm
  | succ n ih =>
    refine triple_tryCatch hm fun e => ?_
    by_cases hcatch : catches e
    · rw [if_pos hcatch]
      exact ih.conseq (hagain e) (fun _ _ h => h) (fun _ _ h => h)
    · rw [if_neg hcatch]
      exact triple_throw fun _ h => h

end

/-! ## What a program keeps -/

/-- `P` survives a run of `m`, whichever way it ends. -/
def Keeps (P : σ → Prop) (m : Eff ε σ α) : Prop :=
  Triple P m (fun _ => P) (fun _ => P)

section

variable {P : σ → Prop} {m : Eff ε σ α}

theorem Triple.after {R : σ → Prop} (h : Triple P m (fun _ => R) (fun _ => R)) (s : σ) (hs : P s) :
    R (m.after s) := by
  have hends := h s hs
  unfold Eff.after
  match hexec : m.exec s with
  | (.ok a, t) | (.error e, t) =>
    rw [hexec] at hends
    exact hends

theorem Keeps.after (h : Keeps P m) (s : σ) (hs : P s) : P (m.after s) :=
  Triple.after h s hs

theorem Keeps.triple {E : σ → Prop} (h : Keeps P m) (hE : ∀ s, P s → E s) :
    Triple P m (fun _ => P) (fun _ => E) :=
  h.conseq (fun _ hs => hs) (fun _ _ hs => hs) (fun _ s hs => hE s hs)

theorem keeps_pure {a : α} : Keeps P (pure a : Eff ε σ α) := triple_pure fun _ h => h

theorem keeps_throw {e : ε} : Keeps P (throw e : Eff ε σ α) := triple_throw fun _ h => h

theorem keeps_get : Keeps P (get : Eff ε σ σ) := triple_get fun _ h => h

theorem keeps_modify {f : σ → σ} (h : ∀ s, P s → P (f s)) :
    Keeps P (modify f : Eff ε σ PUnit) := triple_modify h

/-- What both parts keep, they keep together. -/
theorem keeps_bind {f : α → Eff ε σ β} (hm : Keeps P m) (hf : ∀ a, Keeps P (f a)) :
    Keeps P (m >>= f) := triple_bind hm hf

theorem keeps_ite {c : Prop} [Decidable c] {m m' : Eff ε σ α} (hm : Keeps P m)
    (hm' : Keeps P m') : Keeps P (if c then m else m') := by
  by_cases hc : c
  · rw [if_pos hc]; exact hm
  · rw [if_neg hc]; exact hm'

theorem keeps_tryCatch {f : ε → Eff ε σ α} (hm : Keeps P m) (hf : ∀ e, Keeps P (f e)) :
    Keeps P (tryCatch m f) := triple_tryCatch hm hf

theorem keeps_retry {catches : ε → Bool} (hm : Keeps P m) (n : Nat) :
    Keeps P (retry catches m n) := triple_retry hm (fun _ _ h => h) n

end

end EverestCore.Lib
