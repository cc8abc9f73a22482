import Mathlib

/-!
# Trees addressed by paths

Trees with a value at each node and any number of children. A path is the list of
child indices from the root.

`get?_modifyAlong` and `mem_along` are how facts about one node follow from facts
about the way to a path.
-/

namespace EverestCore.Lib

open List

inductive RoseTree (α : Type) where
  | node (value : α) (children : List (RoseTree α))

namespace RoseTree

variable {α β : Type}

def value : RoseTree α → α
  | .node value _ => value

/-- The value at a path. -/
def get? : RoseTree α → List Nat → Option α
  | .node value _, [] => some value
  | .node _ children, i :: path =>
    match children[i]? with
    | some child => child.get? path
    | none => none

/-- The values from the root to a path, as far as it goes. -/
def along : RoseTree α → List Nat → List α
  | .node value _, [] => [value]
  | .node value children, i :: path =>
    value :: match children[i]? with
      | some child => child.along path
      | none => []

/-- All values on the way to a path are changed. -/
def modifyAlong (f : α → α) : RoseTree α → List Nat → RoseTree α
  | .node value children, [] => .node (f value) children
  | .node value children, i :: path =>
    .node (f value) (children.modify i fun child => child.modifyAlong f path)

mutual

def map (f : α → β) : RoseTree α → RoseTree β
  | .node value children => .node (f value) (mapList f children)

def mapList (f : α → β) : List (RoseTree α) → List (RoseTree β)
  | [] => []
  | child :: rest => child.map f :: mapList f rest

end

mutual

/-- All values. -/
def toList : RoseTree α → List α
  | .node value children => value :: toListList children

def toListList : List (RoseTree α) → List α
  | [] => []
  | child :: rest => child.toList ++ toListList rest

end

mutual

/-- The paths of all nodes with a property, parents first. -/
def pathsWhere (p : α → Bool) : RoseTree α → List (List Nat)
  | .node value children =>
    (if p value then [[]] else []) ++ pathsWhereList p 0 children

/-- The same for children numbered from `i` on. -/
def pathsWhereList (p : α → Bool) (i : Nat) : List (RoseTree α) → List (List Nat)
  | [] => []
  | child :: rest => (child.pathsWhere p).map (i :: ·) ++ pathsWhereList p (i + 1) rest

end

/-! ## Looking nodes up -/

theorem get?_cons (value : α) (children : List (RoseTree α)) (i : Nat) (path : List Nat) :
    (node value children).get? (i :: path) = children[i]?.bind (·.get? path) := by
  rw [get?]
  cases children[i]? <;> rfl

theorem getElem?_mapList (f : α → β) (children : List (RoseTree α)) (i : Nat) :
    (mapList f children)[i]? = children[i]?.map (·.map f) := by
  induction children generalizing i with
  | nil => simp [mapList]
  | cons child rest ih =>
    cases i with
    | zero => simp [mapList]
    | succ i => simpa [mapList] using ih i

theorem get?_map (f : α → β) (t : RoseTree α) (path : List Nat) :
    (t.map f).get? path = (t.get? path).map f := by
  induction path generalizing t with
  | nil => cases t; rfl
  | cons i path ih =>
    obtain ⟨value, children⟩ := t
    rw [map, get?_cons, get?_cons, getElem?_mapList]
    cases children[i]? with
    | none => rfl
    | some child => exact ih child

theorem mem_toListList {children : List (RoseTree α)} {child : RoseTree α} (h : child ∈ children)
    {x : α} (hx : x ∈ child.toList) : x ∈ toListList children := by
  induction children with
  | nil => cases h
  | cons first rest ih =>
    rw [toListList, mem_append]
    rcases mem_cons.mp h with rfl | h
    · exact .inl hx
    · exact .inr (ih h)

variable {t : RoseTree α}

theorem mem_toList_of_get? {path : List Nat} {x : α} (h : t.get? path = some x) : x ∈ t.toList := by
  induction path generalizing t with
  | nil =>
    obtain ⟨value, children⟩ := t
    cases h
    exact mem_cons_self
  | cons i path ih =>
    obtain ⟨value, children⟩ := t
    rw [get?_cons] at h
    obtain ⟨child, hchild, hx⟩ := Option.bind_eq_some_iff.mp h
    exact mem_cons_of_mem _ (mem_toListList (mem_of_getElem? hchild) (ih hx))

/-! ## The way to a path -/

theorem mem_along {above path : List Nat} {x : α} (h : t.get? above = some x)
    (habove : above <+: path) : x ∈ t.along path := by
  induction above generalizing t path with
  | nil =>
    obtain ⟨value, children⟩ := t
    cases h
    cases path with
    | nil => exact mem_singleton.mpr rfl
    | cons i path => exact mem_cons_self
  | cons i above ih =>
    obtain ⟨value, children⟩ := t
    obtain ⟨rest, rfl⟩ := habove
    rw [get?_cons] at h
    obtain ⟨child, hchild, hx⟩ := Option.bind_eq_some_iff.mp h
    rw [cons_append, along, hchild]
    exact mem_cons_of_mem _ (ih hx ⟨rest, rfl⟩)

theorem get?_of_mem_along {path : List Nat} {x : α} (h : x ∈ t.along path) :
    ∃ above, t.get? above = some x := by
  induction path generalizing t with
  | nil =>
    obtain ⟨value, children⟩ := t
    obtain rfl := mem_singleton.mp h
    exact ⟨[], rfl⟩
  | cons i path ih =>
    obtain ⟨value, children⟩ := t
    rcases mem_cons.mp h with rfl | h
    · exact ⟨[], rfl⟩
    · cases hchild : children[i]? with
      | none =>
        rw [hchild] at h
        cases h
      | some child =>
        rw [hchild] at h
        obtain ⟨above, hget⟩ := ih h
        exact ⟨i :: above, by rw [get?_cons, hchild]; exact hget⟩

/-- The values on the way, and no others. -/
theorem get?_modifyAlong (f : α → α) (t : RoseTree α) (path q : List Nat) :
    (t.modifyAlong f path).get? q =
      if q <+: path then (t.get? q).map f else t.get? q := by
  induction q generalizing t path with
  | nil =>
    obtain ⟨value, children⟩ := t
    cases path <;> rfl
  | cons j q ih =>
    obtain ⟨value, children⟩ := t
    cases path with
    | nil => rfl
    | cons i path =>
      rw [modifyAlong, get?_cons, get?_cons, getElem?_modify]
      by_cases hij : j = i
      · subst hij
        cases children[j]? with
        | none => simp
        | some child => simpa using ih child path
      · have hne : ¬ (i = j) := fun h => hij h.symm
        simp [hij, hne]

theorem map_modifyAlong {f : α → α} {g : α → β} (h : ∀ x, g (f x) = g x) (t : RoseTree α)
    (path : List Nat) : (t.modifyAlong f path).map g = t.map g := by
  induction path generalizing t with
  | nil =>
    obtain ⟨value, children⟩ := t
    rw [modifyAlong, map, map, h]
  | cons i path ih =>
    obtain ⟨value, children⟩ := t
    rw [modifyAlong, map, map, h]
    congr 1
    refine ext_getElem? fun j => ?_
    rw [getElem?_mapList, getElem?_mapList, getElem?_modify]
    cases children[j]? with
    | none => rfl
    | some child =>
      by_cases hij : i = j
      · simp [hij, ih]
      · simp [hij]

section

variable {p : α → Bool}

theorem mem_pathsWhereList {children : List (RoseTree α)} {k : Nat} {path : List Nat} :
    path ∈ pathsWhereList p k children ↔
      ∃ (i : Nat) (rest : List Nat) (child : RoseTree α), path = (k + i) :: rest ∧
        children[i]? = some child ∧ rest ∈ child.pathsWhere p := by
  induction children generalizing k with
  | nil => simp [pathsWhereList]
  | cons first others ih =>
    rw [pathsWhereList, mem_append, mem_map, ih]
    constructor
    · rintro (⟨rest, hrest, rfl⟩ | ⟨i, rest, child, rfl, hchild, hrest⟩)
      · exact ⟨0, rest, first, rfl, rfl, hrest⟩
      · exact ⟨i + 1, rest, child, by rw [Nat.add_right_comm, Nat.add_assoc], hchild, hrest⟩
    · rintro ⟨i, rest, child, rfl, hchild, hrest⟩
      cases i with
      | zero =>
        cases hchild
        exact .inl ⟨rest, hrest, rfl⟩
      | succ i =>
        exact .inr ⟨i, rest, child, by rw [Nat.add_right_comm, Nat.add_assoc], hchild, hrest⟩

theorem mem_pathsWhere {path : List Nat} :
    path ∈ t.pathsWhere p ↔ ∃ x, t.get? path = some x ∧ p x = true := by
  induction path generalizing t with
  | nil =>
    obtain ⟨value, children⟩ := t
    rw [pathsWhere, mem_append, mem_pathsWhereList]
    by_cases hp : p value = true <;> simp [get?, hp]
  | cons i path ih =>
    obtain ⟨value, children⟩ := t
    have hroot : i :: path ∉ (if p value then [[]] else [] : List (List Nat)) := by
      split_ifs <;> simp
    rw [pathsWhere, mem_append, mem_pathsWhereList, get?_cons]
    constructor
    · rintro (h | ⟨j, rest, child, heq, hchild, hrest⟩)
      · exact absurd h hroot
      · rw [Nat.zero_add] at heq
        cases heq
        rw [hchild]
        exact ih.mp hrest
    · rintro ⟨x, hx, hp⟩
      obtain ⟨child, hchild, hget⟩ := Option.bind_eq_some_iff.mp hx
      exact .inr ⟨i, path, child, by rw [Nat.zero_add], hchild, ih.mpr ⟨x, hget, hp⟩⟩

mutual

theorem pathsWhere_map (f : α → β) (p : β → Bool) :
    (t : RoseTree α) → (t.map f).pathsWhere p = t.pathsWhere fun x => p (f x)
  | .node value children => by
    rw [map, pathsWhere, pathsWhere, pathsWhereList_mapList f p 0 children]

theorem pathsWhereList_mapList (f : α → β) (p : β → Bool) (k : Nat) :
    (children : List (RoseTree α)) →
      pathsWhereList p k (mapList f children) = pathsWhereList (fun x => p (f x)) k children
  | [] => rfl
  | child :: rest => by
    rw [mapList, pathsWhereList, pathsWhereList, pathsWhere_map f p child,
      pathsWhereList_mapList f p (k + 1) rest]

end

mutual

theorem nodup_pathsWhere (p : α → Bool) : (t : RoseTree α) → (t.pathsWhere p).Nodup
  | .node value children => by
    rw [pathsWhere]
    refine List.Nodup.append (by split_ifs <;> simp) (nodup_pathsWhereList p 0 children) ?_
    intro path hroot hbelow
    obtain ⟨i, rest, child, rfl, -⟩ := mem_pathsWhereList.mp hbelow
    split_ifs at hroot <;> simp at hroot

theorem nodup_pathsWhereList (p : α → Bool) (k : Nat) :
    (children : List (RoseTree α)) → (pathsWhereList p k children).Nodup
  | [] => by simp [pathsWhereList]
  | child :: rest => by
    rw [pathsWhereList]
    refine List.Nodup.append ((nodup_pathsWhere p child).map (List.cons_injective))
      (nodup_pathsWhereList p (k + 1) rest) ?_
    intro path hfirst hrest
    obtain ⟨below, -, rfl⟩ := mem_map.mp hfirst
    obtain ⟨i, below', child', heq, -⟩ := mem_pathsWhereList.mp hrest
    have hindex : k = k + 1 + i := (cons.inj heq).1
    omega

end

end

end RoseTree

end EverestCore.Lib
