import Mathlib.Data.Finset.Card
import Mathlib.Data.List.Lex
import Mathlib.Data.List.Pairwise
import Mathlib.Data.List.Permutation
import Mathlib.Order.Lattice

/-!
# All orders of a list by its next and previous permutations

`nextPermutation` and `prevPermutation` are the neighbours of a list among its
permutations, in lexicographic order. A walk in both directions from any order reaches all
of them.
-/

namespace EverestCore.Lib

open List

/-- The results of `next`, applied at most `fuel` times. -/
def walk {β : Type} (next : β → Option β) : Nat → β → List β
  | 0, _ => []
  | fuel + 1, x =>
    match next x with
    | none => []
    | some y => y :: walk next fuel y

section

variable {β : Type} {next : β → Option β} {S : Finset β} {r : β → β → Prop} [DecidableRel r]

/-- `next` gives the first element after its argument. -/
def IsSuccessor (next : β → Option β) (S : Finset β) (r : β → β → Prop) : Prop :=
  ∀ x ∈ S, match next x with
    | none => ∀ z ∈ S, ¬ r x z
    | some y => y ∈ S ∧ r x y ∧ ∀ z ∈ S, r x z → z = y ∨ r y z

theorem mem_walk_iff [IsStrictOrder β r] (hnext : IsSuccessor next S r) {fuel : Nat} {x : β}
    (hx : x ∈ S) (hfuel : (S.filter (r x ·)).card ≤ fuel) (z : β) :
    z ∈ walk next fuel x ↔ z ∈ S ∧ r x z := by
  induction fuel generalizing x with
  | zero =>
    -- nothing comes after
    have hempty := Finset.card_eq_zero.mp (Nat.le_zero.mp hfuel)
    have hnone : ¬ (z ∈ S ∧ r x z) := by
      rw [← Finset.mem_filter, hempty]
      exact Finset.notMem_empty z
    simp [walk, hnone]
  | succ fuel ih =>
    have hsucc := hnext x hx
    rw [walk]
    split at hsucc
    · refine iff_of_false not_mem_nil ?_
      rintro ⟨hz, hr⟩
      exact hsucc z hz hr
    · rename_i y _
      obtain ⟨hy, hxy, hleast⟩ := hsucc
      -- one element less comes after the next one
      have hless : (S.filter (r y ·)).card < (S.filter (r x ·)).card := by
        refine Finset.card_lt_card ⟨fun z hz => ?_, fun hsub => ?_⟩
        · obtain ⟨hz, hyz⟩ := Finset.mem_filter.mp hz
          exact Finset.mem_filter.mpr ⟨hz, IsTrans.trans _ _ _ hxy hyz⟩
        · exact irrefl y (Finset.mem_filter.mp (hsub (Finset.mem_filter.mpr ⟨hy, hxy⟩))).2
      rw [mem_cons, ih hy (by omega)]
      constructor
      · rintro (rfl | ⟨hz, hyz⟩)
        · exact ⟨hy, hxy⟩
        · exact ⟨hz, IsTrans.trans _ _ _ hxy hyz⟩
      · rintro ⟨hz, hxz⟩
        exact (hleast z hz hxz).imp_right fun hyz => ⟨hz, hyz⟩

omit [DecidableRel r] in
theorem pairwise_walk [IsStrictOrder β r] (hnext : IsSuccessor next S r) {x : β} (hx : x ∈ S)
    (fuel : Nat) : (x :: walk next fuel x).Pairwise r := by
  induction fuel generalizing x with
  | zero => exact pairwise_singleton r x
  | succ fuel ih =>
    have hsucc := hnext x hx
    rw [walk]
    split at hsucc
    · exact pairwise_singleton r x
    · obtain ⟨hy, hxy, -⟩ := hsucc
      exact pairwise_cons_cons_iff_of_trans.mpr ⟨hxy, ih hy⟩

end

/-! ## Permutations -/

variable {α : Type} [LinearOrder α]

variable (xs : List α)

/-- The next permutation in lexicographic order, if there is one. -/
def nextPermutation : Option (List α) :=
  (xs.permutations'.filter (xs < ·)).min?

/-- The previous permutation in lexicographic order, if there is one. -/
def prevPermutation : Option (List α) :=
  (xs.permutations'.filter (· < xs)).max?

theorem isSuccessor_pick {r : List α → List α → Prop} [DecidableRel r]
    {pick : List (List α) → Option (List α)} (hnone : ∀ options, pick options = none → options = [])
    (hsome : ∀ options ys, pick options = some ys →
      ys ∈ options ∧ ∀ zs ∈ options, zs = ys ∨ r ys zs) (xs : List α) :
    IsSuccessor (fun ys => pick (ys.permutations'.filter (r ys ·))) xs.permutations'.toFinset
      r := by
  intro ys hys
  rw [mem_toFinset, mem_permutations'] at hys
  -- the permutations of the two lists are the same
  have hoption : ∀ zs, zs ∈ ys.permutations'.filter (r ys ·) ↔
      zs ∈ xs.permutations'.toFinset ∧ r ys zs := by
    intro zs
    rw [mem_filter, decide_eq_true_eq, mem_toFinset, mem_permutations', mem_permutations']
    exact and_congr_left fun _ => ⟨fun h => h.trans hys, fun h => h.trans hys.symm⟩
  split
  · rename_i hpick
    intro zs hzs hr
    have hmem := (hoption zs).mpr ⟨hzs, hr⟩
    rw [hnone _ hpick] at hmem
    cases hmem
  · rename_i zs hpick
    obtain ⟨hmem, hbest⟩ := hsome _ zs hpick
    obtain ⟨hzs, hr⟩ := (hoption zs).mp hmem
    exact ⟨hzs, hr, fun zs' hzs' hr' => hbest zs' ((hoption zs').mpr ⟨hzs', hr'⟩)⟩

theorem isSuccessor_nextPermutation :
    IsSuccessor nextPermutation xs.permutations'.toFinset (· < ·) := by
  refine isSuccessor_pick (fun _ h => min?_eq_none_iff.mp h) (fun options ys h => ?_) xs
  obtain ⟨hmem, hleast⟩ := min?_eq_some_iff.mp h
  exact ⟨hmem, fun zs hzs => (hleast zs hzs).eq_or_lt.imp_left Eq.symm⟩

theorem isSuccessor_prevPermutation :
    IsSuccessor prevPermutation xs.permutations'.toFinset (· > ·) := by
  refine isSuccessor_pick (fun _ h => max?_eq_none_iff.mp h) (fun options ys h => ?_) xs
  obtain ⟨hmem, hgreatest⟩ := max?_eq_some_iff.mp h
  exact ⟨hmem, fun zs hzs => (hgreatest zs hzs).eq_or_lt⟩

/-- The list, the orders after it and the orders before it. -/
def allOrders : List (List α) :=
  let count := xs.permutations'.length
  (xs :: walk nextPermutation count xs) ++ walk prevPermutation count xs

theorem mem_permutations_self : xs ∈ xs.permutations'.toFinset :=
  mem_toFinset.mpr (mem_permutations'.mpr (List.Perm.refl xs))

/-- **The two walks reach exactly the permutations of the list.** -/
theorem mem_allOrders_iff (xs ys : List α) : ys ∈ allOrders xs ↔ ys.Perm xs := by
  have hself := mem_permutations_self xs
  have hcount : ∀ (p : List α → Prop) [DecidablePred p],
      (xs.permutations'.toFinset.filter p).card ≤ xs.permutations'.length :=
    fun p _ => (Finset.card_filter_le _ _).trans (toFinset_card_le _)
  rw [allOrders, mem_append, mem_cons,
    mem_walk_iff (isSuccessor_nextPermutation xs) hself (hcount _),
    mem_walk_iff (isSuccessor_prevPermutation xs) hself (hcount _), mem_toFinset,
    mem_permutations']
  constructor
  · rintro ((rfl | h) | h)
    · exact List.Perm.refl ys
    · exact h.1
    · exact h.1
  · intro h
    rcases lt_trichotomy xs ys with hlt | rfl | hgt
    · exact .inl (.inr ⟨h, hlt⟩)
    · exact .inl (.inl rfl)
    · exact .inr ⟨h, hgt⟩

/-- One walk goes up and the other one down, so they do not meet. -/
theorem nodup_allOrders : (allOrders xs).Nodup := by
  have hself := mem_permutations_self xs
  have hup := pairwise_walk (isSuccessor_nextPermutation xs) hself xs.permutations'.length
  have hdown := pairwise_walk (isSuccessor_prevPermutation xs) hself xs.permutations'.length
  refine nodup_append.mpr ⟨hup.imp ne_of_lt, hdown.of_cons.imp ne_of_gt, ?_⟩
  intro ys hys zs hzs
  have hzs : zs < xs := rel_of_pairwise_cons hdown hzs
  rcases mem_cons.mp hys with rfl | hys
  · exact hzs.ne'
  · exact (hzs.trans (rel_of_pairwise_cons hup hys)).ne'

end EverestCore.Lib
