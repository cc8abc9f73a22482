import Mathlib.Data.List.Nodup
import Mathlib.Data.List.Perm.Subperm
import Mathlib.Tactic.Linarith

/-!
# Ordered maps and the lists of their entries

The entries of an ordered map are listed by increasing keys, so that the list is fixed by
the lookups.
-/

namespace EverestCore.Lib

open Std

variable {κ β γ : Type} [Ord κ] [TransOrd κ] [LawfulEqOrd κ] {t : TreeMap κ β}

omit [LawfulEqOrd κ] in
theorem mem_iff_exists_getElem? {key : κ} : key ∈ t ↔ ∃ value, t[key]? = some value := by
  rw [TreeMap.mem_iff_isSome_getElem?, Option.isSome_iff_exists]

theorem getElem?_insert_eq [DecidableEq κ] (t : TreeMap κ β) (key key' : κ) (value : β) :
    (t.insert key value)[key']? = if key' = key then some value else t[key']? := by
  rw [TreeMap.getElem?_insert]
  simp only [LawfulEqCmp.compare_eq_iff_eq, eq_comm (a := key)]

theorem getElem?_modify_eq [DecidableEq κ] (t : TreeMap κ β) (key key' : κ) (f : β → β) :
    (t.modify key f)[key']? = if key' = key then t[key']?.map f else t[key']? := by
  rw [TreeMap.getElem?_modify]
  by_cases hkey : key' = key
  · subst hkey
    rw [if_pos ReflCmp.compare_self, if_pos rfl]
  · rw [if_neg hkey, if_neg fun heq => hkey (LawfulEqCmp.eq_of_compare heq).symm]

theorem map_getElem?_modify [DecidableEq κ] {key : κ} {f : β → β} {g : β → γ}
    (hkeeps : ∀ value, g (f value) = g value) (key' : κ) :
    (t.modify key f)[key']?.map g = t[key']?.map g := by
  rw [getElem?_modify_eq]
  split
  · rw [Option.map_map]
    exact congrArg (fun k => Option.map k t[key']?) (funext hkeeps)
  · rfl

theorem nodup_toList (t : TreeMap κ β) : t.toList.Nodup := by
  refine TreeMap.distinct_keys_toList.imp ?_
  rintro a b hab rfl
  exact hab ReflCmp.compare_self

theorem toList_eq_of_mem_iff {entries : List (κ × β)}
    (hordered : entries.Pairwise fun a b => compare a.1 b.1 = .lt)
    (hmem : ∀ key value, (key, value) ∈ entries ↔ t[key]? = some value) :
    t.toList = entries := by
  have hnodup : entries.Nodup := by
    refine hordered.imp ?_
    rintro a b hab rfl
    have hself : compare a.1 a.1 = .eq := ReflCmp.compare_self
    rw [hself] at hab
    cases hab
  have hperm : t.toList.Perm entries := by
    refine (List.perm_ext_iff_of_nodup (nodup_toList t) hnodup).mpr ?_
    rintro ⟨key, value⟩
    rw [hmem, TreeMap.mem_toList_iff_getElem?_eq_some]
  refine hperm.eq_of_pairwise ?_ TreeMap.ordered_keys_toList hordered
  intro a b _ _ hab hba
  rw [OrientedCmp.gt_of_lt hab] at hba
  cases hba

variable {s : TreeMap κ β}

theorem keys_eq_of_mem_iff {t : TreeMap κ γ} (h : ∀ key, key ∈ s ↔ key ∈ t) : s.keys = t.keys := by
  have hperm : s.keys.Perm t.keys := by
    refine (List.perm_ext_iff_of_nodup TreeMap.nodup_keys TreeMap.nodup_keys).mpr ?_
    intro key
    rw [TreeMap.mem_keys, TreeMap.mem_keys, h]
  refine hperm.eq_of_pairwise ?_ TreeMap.ordered_keys TreeMap.ordered_keys
  intro a b _ _ hab hba
  rw [OrientedCmp.gt_of_lt hab] at hba
  cases hba

theorem size_le_of_mem {t : TreeMap κ γ} (h : ∀ key ∈ s, key ∈ t) : s.size ≤ t.size := by
  rw [← TreeMap.length_keys, ← TreeMap.length_keys]
  refine (TreeMap.nodup_keys.subperm fun key hkey => ?_).length_le
  rw [TreeMap.mem_keys] at hkey ⊢
  exact h key hkey

theorem size_eq_of_mem_iff {t : TreeMap κ γ} (h : ∀ key, key ∈ s ↔ key ∈ t) : s.size = t.size :=
  Nat.le_antisymm (size_le_of_mem fun key => (h key).mp) (size_le_of_mem fun key => (h key).mpr)

omit [LawfulEqOrd κ] in
theorem size_insert_of_not_mem {key : κ} (hkey : key ∉ t) (value : β) :
    (t.insert key value).size = t.size + 1 := by
  rw [TreeMap.size_insert, if_neg fun h => hkey (TreeMap.contains_iff_mem.mp h)]

end EverestCore.Lib
