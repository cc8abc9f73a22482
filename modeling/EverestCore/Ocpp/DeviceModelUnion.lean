import Mathlib
import EverestCore.Lib.MapFold
import EverestCore.Lib.OrderedMap
import EverestCore.Ocpp.DeviceModel

/-!
# The composed device model as a union

Is the composed storage the union of its storages? `get_device_model` merges the maps of the
storages component by component, so that a later storage loses a component that an earlier
one has. Requests for one variable go to the storage that is named by the `source` field of
the variable, not to the one that was registered with it.
-/

namespace EverestCore.Ocpp.DeviceModel

open EverestCore.Lib VariableMetaData Std List Option

/-! ## The property -/

open ComposedDeviceModelStorage

section

variable {σ κ ν μ α : Type} [LinearOrder κ] [LinearOrder ν]

/-- A variable of a component. -/
def lookup (model : DeviceModelMap κ ν μ) (componentId : κ) (variableId : ν) :
    Option (VariableMetaData μ) :=
  model[componentId]?.bind (·[variableId]?)

variable (models : σ → DeviceModelMap κ ν μ)

/-- No variable is in both storages. -/
def Disjoint (first second : String × σ) : Prop :=
  ∀ componentId variableId, lookup (models first.2) componentId variableId = none ∨
    lookup (models second.2) componentId variableId = none

variable (calls : List (String × σ))

/-- Registrations with ids of their own, of storages that hold different variables. -/
structure Separate : Prop where
  ids : (calls.map (·.1)).Nodup
  disjoint : calls.Pairwise (Disjoint models)

/-- After these registrations the composed storage is the union of the storages. -/
structure BehavesLikeUnion (I : StorageInterface σ κ ν μ α) (calls : List (String × σ)) :
    Prop where
  /-- the variables of all storages, with their meta data, and no others -/
  deviceModel : ∀ componentId variableId metaData,
    lookup (getDeviceModel I (registerAll I {} calls)) componentId variableId = some metaData ↔
      ∃ call ∈ calls, lookup (I.getDeviceModel call.2) componentId variableId = some metaData
  getAttribute : ∀ call ∈ calls, ∀ componentId variableId,
    (lookup (I.getDeviceModel call.2) componentId variableId).isSome → ∀ attributeEnum,
      getVariableAttribute I (registerAll I {} calls) componentId variableId attributeEnum =
        I.getVariableAttribute call.2 componentId variableId attributeEnum
  getAttributes : ∀ call ∈ calls, ∀ componentId variableId,
    (lookup (I.getDeviceModel call.2) componentId variableId).isSome → ∀ attributeEnum,
      getVariableAttributes I (registerAll I {} calls) componentId variableId attributeEnum =
        I.getVariableAttributes call.2 componentId variableId attributeEnum
  /-- the status is that of the storage, and the storage is the one that changes -/
  setValue : ∀ call ∈ calls, ∀ componentId variableId,
    (lookup (I.getDeviceModel call.2) componentId variableId).isSome →
      ∀ attributeEnum value valueSource,
      let answer := I.setVariableAttributeValue call.2 componentId variableId attributeEnum value
        valueSource
      setVariableAttributeValue I (registerAll I {} calls) componentId variableId attributeEnum
        value
          valueSource =
        (answer.1, { registerAll I {} calls with
          deviceModelStorages :=
            (registerAll I {} calls).deviceModelStorages.insert call.1 answer.2 })

/-- A component of one storage has no variables in the storages with later ids. -/
def ComponentsApart : Prop :=
  ∀ first ∈ calls, ∀ second ∈ calls, compare first.1 second.1 = .lt →
    ∀ componentId ∈ models first.2, ∀ variableId,
      lookup (models second.2) componentId variableId = none

/-- Every variable names the storage that holds it as its source. -/
def SourcesNamed : Prop :=
  ∀ call ∈ calls, ∀ componentId variableId metaData,
    lookup (models call.2) componentId variableId = some metaData → metaData.sourceOrOcpp = call.1

/-! ## What is registered -/

variable {I : StorageInterface σ κ ν μ α} {s : ComposedDeviceModelStorage σ κ ν}

theorem register_new {id : String} (storage : σ) (h : s.deviceModelStorages[id]? = none) :
    (registerDeviceModelStorage I s id storage).2 =
      { deviceModelStorages := s.deviceModelStorages.insert id storage
        componentVariableSourceMap :=
          addSources s.componentVariableSourceMap (I.getDeviceModel storage) } := by
  have hnew : s.deviceModelStorages.contains id = false := by
    rw [TreeMap.contains_eq_isSome_getElem?, h]
    rfl
  simp [registerDeviceModelStorage, hnew]

theorem free_after_insert {storages : TreeMap String σ} {call : String × σ}
    {rest : List (String × σ)} (hids : ((call :: rest).map (·.1)).Nodup)
    (hfree : ∀ other ∈ call :: rest, storages[other.1]? = none) :
    ∀ other ∈ rest, (storages.insert call.1 call.2)[other.1]? = none := by
  intro other hother
  rw [getElem?_insert_eq, if_neg, hfree other (mem_cons_of_mem _ hother)]
  intro heq
  exact (nodup_cons.mp hids).1 (mem_map.mpr ⟨other, hother, heq⟩)

theorem storages_registerAll (hids : (calls.map (·.1)).Nodup)
    (hfree : ∀ call ∈ calls, s.deviceModelStorages[call.1]? = none) (id : String) (storage : σ) :
    (registerAll I s calls).deviceModelStorages[id]? = some storage ↔
      s.deviceModelStorages[id]? = some storage ∨ (id, storage) ∈ calls := by
  induction calls generalizing s with
  | nil => simp [registerAll]
  | cons call rest ih =>
    have hcall := hfree call mem_cons_self
    show (registerAll I (registerDeviceModelStorage I s call.1 call.2).2
      rest).deviceModelStorages[id]? = some storage ↔ _
    rw [register_new call.2 hcall, ih (nodup_cons.mp hids).2 (free_after_insert hids hfree),
      getElem?_insert_eq, mem_cons]
    -- the new entry is the call itself
    split
    · rename_i heq
      subst heq
      simp [hcall, Prod.ext_iff, eq_comm]
    · rename_i hne
      have hother : (id, storage) ≠ call := fun heq => hne (heq ▸ rfl)
      simp [hother]

variable {calls : List (String × σ)}

theorem mem_storages (hids : (calls.map (·.1)).Nodup) {entry : String × σ} :
    entry ∈ (registerAll I {} calls).deviceModelStorages.toList ↔ entry ∈ calls := by
  rw [TreeMap.mem_toList_iff_getElem?_eq_some,
    storages_registerAll calls hids fun _ _ => TreeMap.getElem?_emptyc]
  simp

/-! ## The merged model -/

theorem getElem?_getDeviceModel (s : ComposedDeviceModelStorage σ κ ν) (componentId : κ) :
    (getDeviceModel I s)[componentId]? =
      s.deviceModelStorages.toList.findSome? fun entry =>
        (I.getDeviceModel entry.2)[componentId]? := by
  unfold getDeviceModel
  rw [TreeMap.foldl_eq_foldl_toList,
    foldl_keeps_first (v := fun model : DeviceModelMap κ ν μ => model[componentId]?)
      (fun model entry => TreeMap.getElem?_union),
    TreeMap.getElem?_emptyc, none_or]

variable {componentId : κ} {variableId : ν}

instance (models : σ → DeviceModelMap κ ν μ) : Symm (Disjoint models) where
  symm _ _ h componentId variableId := (h componentId variableId).symm

variable {models : σ → DeviceModelMap κ ν μ}

theorem Separate.eq_of_held (h : Separate models calls)
    {first second : String × σ} (hfirst : first ∈ calls) (hsecond : second ∈ calls)
    (hheld : lookup (models first.2) componentId variableId ≠ none)
    (hheld' : lookup (models second.2) componentId variableId ≠ none) : first = second := by
  by_contra hne
  rcases h.disjoint.forall hfirst hsecond hne componentId variableId with hnone | hnone
  · exact hheld hnone
  · exact hheld' hnone

theorem deviceModel_iff (h : Separate I.getDeviceModel calls) :
    (∀ componentId variableId metaData,
      lookup (getDeviceModel I (registerAll I {} calls)) componentId variableId = some metaData ↔
        ∃ call ∈ calls, lookup (I.getDeviceModel call.2) componentId variableId =
          some metaData) ↔ ComponentsApart I.getDeviceModel calls := by
  have hsorted := (registerAll I {} calls).deviceModelStorages.ordered_keys_toList
  constructor
  · intro hunion first hfirst second hsecond hlt componentId hcomponent variableId
    by_contra hheld
    obtain ⟨metaData, hmeta⟩ := ne_none_iff_exists'.mp hheld
    obtain ⟨variableMap, hmerged, hvariable⟩ :=
      bind_eq_some_iff.mp ((hunion componentId variableId metaData).mpr ⟨second, hsecond, hmeta⟩)
    rw [getElem?_getDeviceModel] at hmerged
    obtain ⟨before, entry, after, hentries, hentry, hbefore⟩ :=
      findSome?_eq_some_iff.mp hmerged
    -- the entry that gives the component holds the variable, so it is the second one
    have hmem : entry ∈ calls := by
      rw [← mem_storages (I := I) h.ids, hentries]
      exact mem_append_cons_self
    have hentry_held : lookup (I.getDeviceModel entry.2) componentId variableId ≠ none := by
      rw [lookup, bind_eq_some_iff.mpr ⟨variableMap, hentry, hvariable⟩]
      exact some_ne_none _
    obtain rfl := h.eq_of_held hmem hsecond hentry_held hheld
    -- the first one comes before it, so it does not have the component
    have hin := (mem_storages (I := I) h.ids).mpr hfirst
    rw [hentries] at hsorted hin
    rcases mem_append.mp hin with hin | hin
    · have hnone := hbefore first hin
      rw [TreeMap.mem_iff_isSome_getElem?, hnone] at hcomponent
      cases hcomponent
    · rcases mem_cons.mp hin with rfl | hin
      · cases ReflCmp.compare_self.symm.trans hlt
      · have hgt := (pairwise_cons.mp (pairwise_append.mp hsorted).2.1).1 first hin
        cases (OrientedCmp.gt_of_lt hgt).symm.trans hlt
  · intro hapart componentId variableId metaData
    rw [lookup, bind_eq_some_iff, getElem?_getDeviceModel]
    constructor
    · rintro ⟨variableMap, hmerged, hvariable⟩
      obtain ⟨entry, hmem, hentry⟩ := exists_of_findSome?_eq_some hmerged
      exact ⟨entry, (mem_storages h.ids).mp hmem,
        bind_eq_some_iff.mpr ⟨variableMap, hentry, hvariable⟩⟩
    · rintro ⟨call, hcall, hlookup⟩
      obtain ⟨variableMap, hmap, hvariable⟩ := bind_eq_some_iff.mp hlookup
      obtain ⟨before, after, hentries⟩ :=
        append_of_mem ((mem_storages (I := I) h.ids).mpr hcall)
      refine ⟨variableMap, ?_, hvariable⟩
      rw [hentries] at hsorted ⊢
      refine findSome?_eq_some_iff.mpr ⟨before, call, after, rfl, hmap, ?_⟩
      -- a storage before this one that had the component would hide the variable
      intro entry hentry
      by_contra hcomponent
      have hmem : entry ∈ calls := by
        rw [← mem_storages (I := I) h.ids, hentries]
        exact mem_append_left _ hentry
      have hlt := (pairwise_append.mp hsorted).2.2 entry hentry call mem_cons_self
      have hin : componentId ∈ I.getDeviceModel entry.2 := by
        rw [TreeMap.mem_iff_isSome_getElem?]
        exact isSome_iff_ne_none.mpr hcomponent
      cases (hapart entry hmem call hcall hlt componentId hin variableId).symm.trans hlookup

/-! ## The sources -/

def lookupSource (sources : SourceMap κ ν) (componentId : κ) (variableId : ν) : Option String :=
  sources[componentId]?.bind (·[variableId]?)

variable (sources : SourceMap κ ν)

theorem lookupSource_addSource (component componentId : κ) (var variableId : ν) (source : String) :
    lookupSource (addSource sources component var source) componentId variableId =
      (if component = componentId ∧ var = variableId then some source else none).or
        (lookupSource sources componentId variableId) := by
  unfold lookupSource addSource
  rw [TreeMap.getElem?_insert]
  by_cases hcomponent : component = componentId
  · subst hcomponent
    by_cases hvariable : var = variableId
    · simp [hvariable]
    · rw [if_pos ReflCmp.compare_self, bind_some, TreeMap.getElem?_insert,
        if_neg (mt Std.compare_eq_iff_eq.mp hvariable), if_neg (fun h => hvariable h.2),
        none_or, TreeMap.getD_eq_getD_getElem?]
      cases sources[component]? with
      | none => exact TreeMap.getElem?_emptyc
      | some recorded => rfl
  · simp [hcomponent]

theorem lookupSource_addVariables (component componentId : κ) (variableMap : VariableMap ν μ)
    (variableId : ν) :
    lookupSource (addVariables sources component variableMap) componentId variableId =
      (if component = componentId then
        variableMap[variableId]?.map sourceOrOcpp else none).or
          (lookupSource sources componentId variableId) := by
  unfold addVariables
  rw [TreeMap.foldl_eq_foldl_toList,
    foldl_keeps_last (v := fun sources : SourceMap κ ν =>
      lookupSource sources componentId variableId)
      (fun sources entry => lookupSource_addSource sources component componentId entry.1
        variableId entry.2.sourceOrOcpp)]
  by_cases hcomponent : component = componentId
  · have hentries := findSome?_toList variableMap variableId
      fun metaData => some metaData.sourceOrOcpp
    simp only [hcomponent, true_and, if_true, hentries]
    rw [map_eq_bind]
    rfl
  · simp only [hcomponent, false_and, if_false]
    rw [findSome?_eq_none_iff.mpr fun _ _ => rfl]

theorem lookupSource_addSources (model : DeviceModelMap κ ν μ) (componentId : κ) (variableId : ν) :
    lookupSource (addSources sources model) componentId variableId =
      ((lookup model componentId variableId).map sourceOrOcpp).or
        (lookupSource sources componentId variableId) := by
  unfold addSources
  rw [TreeMap.foldl_eq_foldl_toList,
    foldl_keeps_last (v := fun sources : SourceMap κ ν =>
      lookupSource sources componentId variableId)
      (fun sources entry => lookupSource_addVariables sources entry.1 componentId entry.2
        variableId),
    findSome?_toList model componentId fun variableMap => variableMap[variableId]?.map sourceOrOcpp]
  unfold lookup
  rw [map_bind]
  rfl

theorem lookupSource_registerAll (calls : List (String × σ)) (hids : (calls.map (·.1)).Nodup)
    (hfree : ∀ call ∈ calls, s.deviceModelStorages[call.1]? = none) (componentId : κ)
    (variableId : ν) :
    lookupSource (registerAll I s calls).componentVariableSourceMap componentId variableId =
      (calls.reverse.findSome? fun call =>
        (lookup (I.getDeviceModel call.2) componentId variableId).map
          sourceOrOcpp).or
        (lookupSource s.componentVariableSourceMap componentId variableId) := by
  induction calls generalizing s with
  | nil => rfl
  | cons call rest ih =>
    show lookupSource (registerAll I (registerDeviceModelStorage I s call.1 call.2).2
      rest).componentVariableSourceMap componentId variableId = _
    rw [register_new call.2 (hfree call mem_cons_self),
      ih (nodup_cons.mp hids).2 (free_after_insert hids hfree), lookupSource_addSources,
      ← Option.or_assoc, reverse_cons, findSome?_append]
    simp

variable (h : Separate I.getDeviceModel calls)

include h

theorem getVariableSource_of_held {call : String × σ}
    (hcall : call ∈ calls) {metaData : VariableMetaData μ}
    (hheld : lookup (I.getDeviceModel call.2) componentId variableId = some metaData) :
    getVariableSource (registerAll I {} calls) componentId variableId =
      metaData.sourceOrOcpp := by
  have hsource : lookupSource (registerAll I {} calls).componentVariableSourceMap componentId
      variableId = some metaData.sourceOrOcpp := by
    rw [lookupSource_registerAll calls h.ids fun _ _ => TreeMap.getElem?_emptyc]
    cases hfound : calls.reverse.findSome? fun call =>
        (lookup (I.getDeviceModel call.2) componentId variableId).map
          sourceOrOcpp with
    | none =>
      have hnone := findSome?_eq_none_iff.mp hfound call (mem_reverse.mpr hcall)
      rw [hheld] at hnone
      cases hnone
    | some source =>
      -- only one storage holds the variable
      obtain ⟨other, hother, hsource⟩ := exists_of_findSome?_eq_some hfound
      obtain ⟨otherData, hother_held, rfl⟩ := map_eq_some_iff.mp hsource
      obtain rfl := h.eq_of_held (mem_reverse.mp hother) hcall
        (hother_held ▸ some_ne_none _) (hheld ▸ some_ne_none _)
      cases hother_held.symm.trans hheld
      rfl
  obtain ⟨recorded, hrecorded, hvariable⟩ := bind_eq_some_iff.mp hsource
  unfold getVariableSource
  rw [hrecorded]
  dsimp only
  rw [hvariable]

/-! ## Requests -/

theorem storage_iff (id : String) (storage : σ) :
    (registerAll I {} calls).deviceModelStorages[id]? = some storage ↔
      (id, storage) ∈ calls := by
  rw [storages_registerAll calls h.ids fun _ _ => TreeMap.getElem?_emptyc, TreeMap.getElem?_emptyc]
  simp

theorem behaves_like_union_of (hapart : ComponentsApart I.getDeviceModel calls)
    (hnamed : SourcesNamed I.getDeviceModel calls) : BehavesLikeUnion I calls := by
  have hrouted : ∀ call ∈ calls, ∀ componentId variableId,
      (lookup (I.getDeviceModel call.2) componentId variableId).isSome →
      getVariableSource (registerAll I {} calls) componentId variableId = call.1 ∧
        (registerAll I {} calls).deviceModelStorages[call.1]? = some call.2 := by
    intro call hcall componentId variableId hheld
    obtain ⟨metaData, hmeta⟩ := isSome_iff_exists.mp hheld
    refine ⟨?_, (storage_iff h call.1 call.2).mpr hcall⟩
    rw [getVariableSource_of_held h hcall hmeta]
    exact hnamed call hcall componentId variableId metaData hmeta
  refine ⟨(deviceModel_iff h).mpr hapart, ?_, ?_, ?_⟩
  · intro call hcall componentId variableId hheld attributeEnum
    obtain ⟨hsource, hstorage⟩ := hrouted call hcall componentId variableId hheld
    simp [getVariableAttribute, hsource, hstorage]
  · intro call hcall componentId variableId hheld attributeEnum
    obtain ⟨hsource, hstorage⟩ := hrouted call hcall componentId variableId hheld
    simp [getVariableAttributes, hsource, hstorage]
  · intro call hcall componentId variableId hheld attributeEnum value valueSource
    obtain ⟨hsource, hstorage⟩ := hrouted call hcall componentId variableId hheld
    simp [setVariableAttributeValue, hsource, hstorage]

omit h

/-- Storages that accept a value for what they hold and nothing else. -/
def acceptHeld (models : σ → DeviceModelMap κ ν μ) : StorageInterface σ κ ν μ α where
  getDeviceModel := models
  getVariableAttribute _ _ _ _ := none
  getVariableAttributes _ _ _ _ := []
  setVariableAttributeValue storage componentId variableId _ _ _ :=
    (if (lookup (models storage) componentId variableId).isSome then .accepted
      else .unknownVariable, storage)

theorem sourcesNamed_of_accepted (h : Separate models calls)
    (hunion : BehavesLikeUnion (acceptHeld models : StorageInterface σ κ ν μ α) calls) :
    SourcesNamed models calls := by
  intro call hcall componentId variableId metaData hheld
  have hset := congrArg Prod.fst
    (hunion.setValue call hcall componentId variableId (hheld ▸ rfl) .actual "" "")
  have hsource := getVariableSource_of_held
    (I := (acceptHeld models : StorageInterface σ κ ν μ α)) h hcall hheld
  cases hstorage : (registerAll (acceptHeld models : StorageInterface σ κ ν μ α) {}
      calls).deviceModelStorages[metaData.sourceOrOcpp]? with
  | none =>
    simp only [setVariableAttributeValue, hsource, hstorage] at hset
    simp [acceptHeld, hheld] at hset
  | some storage =>
    have hmem := (storage_iff (I := acceptHeld models) h _ _).mp hstorage
    simp only [setVariableAttributeValue, hsource, hstorage] at hset
    have hreached : lookup (models storage) componentId variableId ≠ none := by
      intro hnone
      simp [acceptHeld, hheld, hnone] at hset
    have hsame := h.eq_of_held hmem hcall hreached (hheld ▸ some_ne_none _)
    exact congrArg Prod.fst hsame

/-! ## Main result -/

/-- Whatever the storages answer, the composed storage is their union exactly if no storage
with a later id has variables in a component of an earlier one, and every variable names its
storage as its source. -/
theorem behaves_like_union_iff {calls : List (String × σ)} (h : Separate models calls) :
    (∀ I : StorageInterface σ κ ν μ α, I.getDeviceModel = models → BehavesLikeUnion I calls) ↔
      ComponentsApart models calls ∧ SourcesNamed models calls := by
  constructor
  · intro hunion
    have haccept := hunion (acceptHeld models) rfl
    exact ⟨(deviceModel_iff (I := (acceptHeld models : StorageInterface σ κ ν μ α)) h).mp
      haccept.deviceModel, sourcesNamed_of_accepted h haccept⟩
  · rintro ⟨hapart, hnamed⟩ I rfl
    exact behaves_like_union_of h hapart hnamed

end

/-! ## Two storages -/

def single (componentId variableId : Nat) (source : Option String) : DeviceModelMap Nat Nat Unit :=
  (∅ : DeviceModelMap Nat Nat Unit).insert componentId
    ((∅ : VariableMap Nat Unit).insert variableId { source := source, data := () })

theorem lookup_single (componentId variableId component var : Nat) (source : Option String) :
    lookup (single componentId variableId source) component var =
      if componentId = component ∧ variableId = var then some { source := source, data := () }
      else none := by
  unfold lookup single
  rw [TreeMap.getElem?_insert]
  by_cases hcomponent : componentId = component
  · by_cases hvariable : variableId = var <;> simp [hcomponent, hvariable]
  · simp [hcomponent]

theorem mem_single {componentId variableId component : Nat} {source : Option String} :
    component ∈ single componentId variableId source ↔ componentId = component := by
  unfold single
  rw [TreeMap.mem_insert]
  simp

/-- The storage of libocpp and the one of EVerest, with one variable each. -/
def twoStorages (ocpp everest : Nat × Nat) : List (String × DeviceModelMap Nat Nat Unit) :=
  [("OCPP", single ocpp.1 ocpp.2 none), ("EVEREST", single everest.1 everest.2 (some "EVEREST"))]

theorem twoStorages_separate {ocpp everest : Nat × Nat} (h : ocpp ≠ everest) :
    Separate id (twoStorages ocpp everest) where
  ids := by
    show ["OCPP", "EVEREST"].Nodup
    decide
  disjoint := by
    refine pairwise_pair.mpr fun component var => ?_
    rw [id, id, lookup_single, lookup_single]
    by_cases heq : ocpp = (component, var)
    · right
      rw [if_neg]
      rintro ⟨rfl, rfl⟩
      exact h heq
    · left
      rw [if_neg]
      rintro ⟨rfl, rfl⟩
      exact heq rfl

theorem twoStorages_named (ocpp everest : Nat × Nat) :
    SourcesNamed id (twoStorages ocpp everest) := by
  intro call hcall component var metaData hheld
  rcases mem_pair.mp hcall with rfl | rfl
  all_goals
    rw [id, lookup_single] at hheld
    split at hheld
    · cases hheld
      rfl
    · cases hheld

/-- With different components they are put together. -/
theorem twoStorages_union :
    BehavesLikeUnion
      (acceptHeld id : StorageInterface (DeviceModelMap Nat Nat Unit) Nat Nat Unit Unit)
      (twoStorages (1, 1) (2, 1)) := by
  refine (behaves_like_union_iff (twoStorages_separate (by decide))).mpr
    ⟨?_, twoStorages_named _ _⟩ (acceptHeld id) rfl
  intro first hfirst second hsecond hlt component hcomponent var
  rcases mem_pair.mp hfirst with rfl | rfl
  · rcases mem_pair.mp hsecond with rfl | rfl <;> exact absurd hlt (by decide)
  · obtain rfl := mem_single.mp hcomponent
    rcases mem_pair.mp hsecond with rfl | rfl
    · rw [id, lookup_single]
      exact if_neg fun h => absurd h.1 (by decide)
    · exact absurd hlt (by decide)

/-- With a component in common, the variable of libocpp is not in the composed model, though
each variable names its storage. -/
theorem shared_component_is_lost :
    Separate id (twoStorages (1, 1) (1, 2)) ∧ SourcesNamed id (twoStorages (1, 1) (1, 2)) ∧
      ¬ BehavesLikeUnion
        (acceptHeld id : StorageInterface (DeviceModelMap Nat Nat Unit) Nat Nat Unit Unit)
        (twoStorages (1, 1) (1, 2)) := by
  refine ⟨twoStorages_separate (by decide), twoStorages_named _ _, ?_⟩
  intro h
  have hmodel := (h.deviceModel 1 1 ⟨none, ()⟩).mpr ⟨_, mem_cons_self, by decide +kernel⟩
  exact absurd hmodel (by decide +kernel)

end EverestCore.Ocpp.DeviceModel
