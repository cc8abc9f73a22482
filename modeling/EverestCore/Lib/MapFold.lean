import Mathlib

/-!
# Folds seen through one key

A loop that writes to a map is a fold. Seen through one key, each round keeps what is there
or writes a new value.
-/

namespace EverestCore.Lib

open List

section

variable {α β δ : Type} {f : δ → α → δ} {v : δ → Option β} {g : α → Option β}

theorem foldl_keeps_first (h : ∀ d a, v (f d a) = (v d).or (g a)) (l : List α) (d : δ) :
    v (l.foldl f d) = (v d).or (l.findSome? g) := by
  induction l generalizing d with
  | nil => simp
  | cons a rest ih =>
    rw [foldl_cons, ih, h, Option.or_assoc, findSome?_cons]
    cases g a <;> rfl

theorem foldl_keeps_last (h : ∀ d a, v (f d a) = (g a).or (v d)) (l : List α) (d : δ) :
    v (l.foldl f d) = (l.reverse.findSome? g).or (v d) := by
  induction l generalizing d with
  | nil => simp
  | cons a rest ih =>
    rw [foldl_cons, ih, h, ← Option.or_assoc, reverse_cons, findSome?_append]
    cases hg : g a <;> simp [hg]

end

variable {κ β γ : Type} [LinearOrder κ]

theorem findSome?_toList (t : Std.TreeMap κ β) (k : κ) (h : β → Option γ) :
    (t.toList.reverse.findSome? fun entry => if entry.1 = k then h entry.2 else none) =
      t[k]?.bind h := by
  have hentry : ∀ entry ∈ t.toList.reverse, entry.1 = k → t[k]? = some entry.2 := by
    rintro ⟨_, value⟩ hmem rfl
    exact Std.TreeMap.mem_toList_iff_getElem?_eq_some.mp (mem_reverse.mp hmem)
  cases hfound : (t.toList.reverse.findSome? fun entry =>
      if entry.1 = k then h entry.2 else none) with
  | some value =>
    obtain ⟨entry, hmem, hvalue⟩ := exists_of_findSome?_eq_some hfound
    split at hvalue
    · rename_i hkey
      rw [hentry entry hmem hkey]
      exact hvalue.symm
    · cases hvalue
  | none =>
    cases hk : t[k]? with
    | none => rfl
    | some value =>
      have hmem : (k, value) ∈ t.toList.reverse :=
        mem_reverse.mpr (Std.TreeMap.mem_toList_iff_getElem?_eq_some.mpr hk)
      have hnone := findSome?_eq_none_iff.mp hfound (k, value) hmem
      rw [if_pos rfl] at hnone
      exact hnone.symm

end EverestCore.Lib
