import Mathlib.Data.List.Basic

/-!
# Fixed-size buffers

`overwrite buf off src n` is the effect of copying the first `n` elements of
`src` over `buf` from index `off` on. A copy that stays inside the buffer keeps
its length, and a lookup after it sees `src` inside the copied range and the old
contents everywhere else.

`copyIfFree` is the other way two buffers meet: a source is laid over a
destination at an offset, but only the cells that are still free take a value,
and an index outside the destination aborts the copy.
-/

namespace EverestCore.Lib

open List

variable {α : Type}

/-- Copy the first `n` elements of `src` over `buf`, starting at `off`. -/
def overwrite (buf : List α) (off : Nat) (src : List α) (n : Nat) : List α :=
  buf.take off ++ src.take n ++ buf.drop (off + n)

theorem length_overwrite {buf src : List α} {off n : Nat}
    (hsrc : n ≤ src.length) (hbuf : off + n ≤ buf.length) :
    (overwrite buf off src n).length = buf.length := by
  simp only [overwrite, length_append, length_take, length_drop]
  omega

/-- Lookup after a copy: the source inside the copied range, the old buffer
outside it. -/
theorem getElem?_overwrite {buf src : List α} {off n : Nat}
    (hsrc : n ≤ src.length) (hbuf : off + n ≤ buf.length) (i : Nat) :
    (overwrite buf off src n)[i]? =
      if off ≤ i ∧ i < off + n then src[i - off]? else buf[i]? := by
  have htake : (buf.take off).length = off := by
    rw [length_take]
    omega
  have hhead : (buf.take off ++ src.take n).length = off + n := by
    rw [length_append, htake, length_take]
    omega
  unfold overwrite
  by_cases hlow : i < off
  · rw [if_neg (by omega), getElem?_append_left (by omega),
      getElem?_append_left (by omega), getElem?_take_of_lt hlow]
  · by_cases hin : i < off + n
    · rw [if_pos ⟨by omega, hin⟩, getElem?_append_left (by omega),
        getElem?_append_right (by omega), htake,
        getElem?_take_of_lt (by omega)]
    · rw [if_neg (by omega), getElem?_append_right (by omega), hhead, getElem?_drop]
      congr 1
      omega

/-- Put `x` into cell `i` while the cell is marked free, and mark it used. -/
def putIfFree (i : Nat) (x : α) (cells : List α × List Bool) : List α × List Bool :=
  if cells.2.getD i false then (cells.1.set i x, cells.2.set i false) else cells

/-- Lay a source over `cells` from index `i` on, cell by cell. An index outside
the destination aborts the copy. -/
def copyIfFree : List α → Nat → List α × List Bool → Option (List α × List Bool)
  | [], _, cells => some cells
  | x :: src, i, cells =>
    if i < cells.1.length then copyIfFree src (i + 1) (putIfFree i x cells)
    else none

@[simp] theorem putIfFree_fst_length (i : Nat) (x : α) (cells : List α × List Bool) :
    (putIfFree i x cells).1.length = cells.1.length := by
  unfold putIfFree
  split <;> simp

theorem putIfFree_fst_getElem? {i k : Nat} (x : α) {cells : List α × List Bool}
    (hi : i < cells.1.length) :
    (putIfFree i x cells).1[k]? =
      if k = i ∧ cells.2.getD i false = true then some x else cells.1[k]? := by
  unfold putIfFree
  by_cases hfree : cells.2.getD i false = true
  · rw [if_pos hfree, getElem?_set]
    by_cases hki : i = k
    · rw [if_pos hki, if_pos (hki ▸ hi), if_pos ⟨hki.symm, hfree⟩]
    · rw [if_neg hki, if_neg (fun h => hki h.1.symm)]
  · rw [if_neg hfree, if_neg (fun h => hfree h.2)]

theorem putIfFree_snd_getD (i k : Nat) (x : α) (cells : List α × List Bool) :
    (putIfFree i x cells).2.getD k false =
      (cells.2.getD k false && !decide (k = i)) := by
  unfold putIfFree
  by_cases hfree : cells.2.getD i false = true
  · rw [if_pos hfree]
    by_cases hki : k = i
    · subst hki
      simp only [getD_eq_getElem?_getD, getElem?_set_self', decide_true,
        Bool.not_true, Bool.and_false]
      cases cells.2[k]? <;> rfl
    · simp [getD_eq_getElem?_getD, getElem?_set_ne (Ne.symm hki), hki]
  · rw [if_neg hfree]
    by_cases hki : k = i
    · subst hki
      simpa using hfree
    · simp [hki]

theorem copyIfFree_eq_none {src : List α} {i : Nat} {cells : List α × List Bool}
    (hne : src ≠ []) (hover : cells.1.length < i + src.length) :
    copyIfFree src i cells = none := by
  induction src generalizing i cells with
  | nil => exact absurd rfl hne
  | cons x rest ih =>
    unfold copyIfFree
    split
    · simp only [length_cons] at hover
      have hrest : rest ≠ [] := by
        rintro rfl
        simp only [length_nil] at hover
        omega
      exact ih hrest (by rw [putIfFree_fst_length]; omega)
    · rfl

/-- A copy that fits succeeds; afterwards a covered free cell holds the source
element and is used, and every other cell is as before. -/
theorem copyIfFree_spec {src : List α} {i : Nat} {cells : List α × List Bool}
    (hfit : i + src.length ≤ cells.1.length) :
    ∃ cells', copyIfFree src i cells = some cells' ∧
      cells'.1.length = cells.1.length ∧
      ∀ k,
        cells'.1[k]? = (if (i ≤ k ∧ k < i + src.length) ∧ cells.2.getD k false = true
          then src[k - i]? else cells.1[k]?) ∧
        cells'.2.getD k false =
          (cells.2.getD k false && !decide (i ≤ k ∧ k < i + src.length)) := by
  induction src generalizing i cells with
  | nil =>
    refine ⟨cells, rfl, rfl, fun k => ?_⟩
    have hout : ¬ (i ≤ k ∧ k < i + ([] : List α).length) := by
      simp only [length_nil]
      omega
    exact ⟨by rw [if_neg (fun h => hout h.1)], by rw [decide_eq_false hout]; simp⟩
  | cons x rest ih =>
    simp only [length_cons] at hfit
    have hi : i < cells.1.length := by omega
    obtain ⟨cells', hrun, hlen, hcells⟩ :=
      @ih (i + 1) (putIfFree i x cells) (by rw [putIfFree_fst_length]; omega)
    rw [putIfFree_fst_length] at hlen
    refine ⟨cells', by rw [copyIfFree, if_pos hi, hrun], hlen, fun k => ?_⟩
    obtain ⟨hval, huse⟩ := hcells k
    rw [putIfFree_fst_getElem? x hi, putIfFree_snd_getD] at hval
    rw [putIfFree_snd_getD] at huse
    -- the head cell takes `x`, every later cell is the tail's business
    by_cases hki : k = i
    · subst hki
      have hin : k ≤ k ∧ k < k + (x :: rest).length := by
        simp only [length_cons]
        omega
      refine ⟨?_, by rw [huse, decide_eq_true hin]; simp⟩
      rw [hval, if_neg (by simp), Nat.sub_self, getElem?_cons_zero]
      simp
    · have hshift : (i + 1 ≤ k ∧ k < i + 1 + rest.length) ↔
          (i ≤ k ∧ k < i + (x :: rest).length) := by
        simp only [length_cons]
        omega
      simp only [hki, decide_false, Bool.not_false, Bool.and_true, hshift,
        false_and, if_false] at hval huse
      refine ⟨?_, huse⟩
      rw [hval]
      split
      · rw [show k - i = (k - (i + 1)) + 1 by omega, getElem?_cons_succ]
      · rfl

end EverestCore.Lib
