import EverestCore.Auth.Operations

/-!
# The reservations in the key value store

The handler keeps a copy of its reservations in a key value store and makes them again after
a restart. It writes the copy when a global reservation is made and when a reservation is
cancelled, but not when a reservation for an EVSE is made, and never an empty array.

**Main result**: `reservations_survive_restart_iff`.
-/

namespace EverestCore.Auth

open EverestCore.Lib List

/-! ## Restarts -/

def EvseContext.available (evse : EvseContext) : EvseContext :=
  { connectors := evse.connectors.map fun connector => { connector with state := .available } }

def allAvailable (evses : Evses) : Evses :=
  evses.map fun _ evse => evse.available

namespace ReservationHandler

variable (h : ReservationHandler)

/-- After a restart the store is left, and EVSEs that are available. -/
def restarted : ReservationHandler :=
  { evses := allAvailable h.evses, store := h.store }

/-- Loaded before any of them expires, the reservations are the same again. -/
def Restores : Prop :=
  ∀ now, (∀ stored ∈ h.content, now ≤ stored.reservation.expiryTime) →
    (h.restarted.loadReservations now).2.content = h.content

/-- The array in the store is the current content, and can be loaded. -/
structure Survives : Prop where
  stored : h.store = some h.content
  restores : h.Restores

/-! ## The condition -/

def eventCancellations (evseId connectorId : Nat)
    (event : ConnectorEvent) : List Int :=
  match h.evses[evseId]? with
  | none => []
  | some evse =>
    match evse.connectors.find? fun connector => connector.id = connectorId with
    | none => []
    | some connector =>
      let state := connector.state.handleEvent event
      (h.withConnectorState evseId connectorId state).connectorCancellations state evseId
        connectorId

/-- A reservation is left after the cancellations, if there was one. -/
def Leaves (ids : List Int) : Prop :=
  h.content = [] ∨ ∃ stored ∈ h.content, stored.reservation.reservationId ∉ ids

/-- The operation leaves a store that a restart can read. -/
def Keeps : Operation → Prop
  | .makeReservation now evseId reservation =>
    if reservation.expiryTime < now then True
    else if (h.makeReservation now evseId reservation).1 = .accepted then
      match evseId with
      -- not stored, so it must have been the only one before
      | some evseId => h.content = [⟨some evseId, reservation⟩]
      -- after a restart there are more EVSEs to choose from
      | none =>
        let cancelled := (h.cancelReservation reservation.reservationId).2
        isReservationPossible (allAvailable h.evses) none
          (cancelled.globalReservations ++ [reservation]) cancelled.evseReservations = true
    else h.Leaves [reservation.reservationId]
  | .cancelReservation id => h.Leaves [id]
  | .onReservationUsed id => h.Leaves [id]
  | .timerExpired id => h.Leaves [id]
  | .connectorEvent evseId connectorId event =>
    h.Leaves (h.eventCancellations evseId connectorId event)
  | .plugged _ _ => True

variable {h : ReservationHandler}

/-! ## The copy after cancellations -/

theorem content_storeReservations : h.storeReservations.content = h.content := by
  unfold storeReservations
  split <;> rfl

theorem store_storeReservations :
    h.storeReservations.store =
      if h.store.isSome ∧ h.content ≠ [] then some h.content else h.store := by
  unfold storeReservations
  split <;> rfl

theorem store_cancelReservation (id : Int) :
    (h.cancelReservation id).2.store =
      if id ∈ h.timers ∧ h.store.isSome ∧ (h.cancelReservation id).2.content ≠ [] then
        some (h.cancelReservation id).2.content
      else h.store := by
  unfold cancelReservation
  split
  · rename_i hid
    have hstore : ({ h with timers := h.timers.erase id }.removeReservation id).store =
        h.store := by
      unfold removeReservation
      split <;> rfl
    show store (storeReservations _) = _
    rw [store_storeReservations, content_storeReservations, hstore]
    simp [hid]
  · rename_i hid
    rw [if_neg fun hand => hid hand.1]

theorem store_cancelReservation_of_some {array : List StoredReservation}
    (hstore : h.store = some array) (hcopy : h.content ≠ [] → array = h.content) (id : Int) :
    (h.cancelReservation id).2.store =
      some (if (h.cancelReservation id).2.content = [] then array
        else (h.cancelReservation id).2.content) := by
  rw [store_cancelReservation, hstore]
  by_cases hempty : (h.cancelReservation id).2.content = []
  · rw [if_pos hempty, if_neg fun hand => hand.2.2 hempty]
  rw [if_neg hempty]
  by_cases hid : id ∈ h.timers
  · rw [if_pos ⟨hid, rfl, hempty⟩]
  · -- nothing is cancelled
    have hsame : (h.cancelReservation id).2 = h := by rw [cancelReservation, if_neg hid]
    rw [if_neg fun hand => hid hand.1]
    rw [hsame] at hempty ⊢
    rw [hcopy hempty]

theorem content_cancelReservations_ne_nil_iff (hwf : h.WellFormed) (ids : List Int) :
    (h.cancelReservations ids).content ≠ [] ↔
      ∃ stored ∈ h.content, stored.reservation.reservationId ∉ ids := by
  rw [content_cancelReservations hwf, Ne, filter_eq_nil_iff]
  simp

theorem content_ne_nil_of_cancelReservations (hwf : h.WellFormed) (ids : List Int)
    (hne : (h.cancelReservations ids).content ≠ []) : h.content ≠ [] := by
  obtain ⟨stored, hmem, -⟩ := (content_cancelReservations_ne_nil_iff hwf ids).mp hne
  exact ne_nil_of_mem hmem

theorem store_cancelReservations (hwf : h.WellFormed) {array : List StoredReservation}
    (hstore : h.store = some array) (hcopy : h.content ≠ [] → array = h.content) (ids : List Int) :
    ∃ array', (h.cancelReservations ids).store = some array' ∧ (array' = [] ↔ array = []) ∧
      ((h.cancelReservations ids).content ≠ [] → array' = (h.cancelReservations ids).content) := by
  induction ids generalizing h array with
  | nil => exact ⟨array, hstore, Iff.rfl, hcopy⟩
  | cons id rest ih =>
    have hnext := store_cancelReservation_of_some hstore hcopy id
    by_cases hempty : (h.cancelReservation id).2.content = []
    · rw [if_pos hempty] at hnext
      exact ih (hwf.cancelReservation id) hnext fun hne => absurd hempty hne
    · rw [if_neg hempty] at hnext
      obtain ⟨array', hstore', hnil, hcopy'⟩ :=
        ih (hwf.cancelReservation id) hnext fun _ => rfl
      have hne : h.content ≠ [] := content_ne_nil_of_cancelReservations hwf [id] hempty
      refine ⟨array', hstore', hnil.trans (iff_of_false hempty ?_), hcopy'⟩
      rw [hcopy hne]
      exact hne

theorem storeOk_cancelReservations_iff (hwf : h.WellFormed) (hstore : h.store = some h.content)
    (ids : List Int) :
    (h.cancelReservations ids).store = some (h.cancelReservations ids).content ↔
      h.Leaves ids := by
  obtain ⟨array, harray, hnil, hcopy⟩ := store_cancelReservations hwf hstore (fun _ => rfl) ids
  rw [Leaves, ← content_cancelReservations_ne_nil_iff hwf, harray, Option.some.injEq]
  by_cases hleft : (h.cancelReservations ids).content = []
  · rw [hleft, hnil]
    simp
  · exact iff_of_true (hcopy hleft) (.inr hleft)

/-! ## What stays possible -/

/-- The reservations would be possible with all EVSEs available. -/
def Fits : Prop :=
  isReservationPossible (allAvailable h.evses) none h.globalReservations h.evseReservations = true

theorem isReservationPossible_cancelReservations (hwf : h.WellFormed) {evses : Evses}
    (hpossible : isReservationPossible evses none h.globalReservations h.evseReservations = true)
    (ids : List Int) :
    isReservationPossible evses none (h.cancelReservations ids).globalReservations
      (h.cancelReservations ids).evseReservations = true := by
  induction ids generalizing h with
  | nil => exact hpossible
  | cons id rest ih =>
    exact ih (hwf.cancelReservation id) (isReservationPossible_cancelReservation hwf
      (fun _ => Iff.rfl) (fun _ _ => rfl) hpossible id)

theorem evses_makeReservation (now : Int) (evseId : Option Nat)
    (reservation : Reservation) : (h.makeReservation now evseId reservation).2.evses = h.evses := by
  obtain ⟨-, hmake⟩ | ⟨-, -, hmake⟩ | ⟨-, -, _, -, hmake⟩ :=
    h.makeReservation_cases now evseId reservation
  · rw [hmake]
  · rw [hmake]
    exact (withReservation_fields _ _ _).1.trans (evses_cancelReservation h _)
  · rw [hmake]
    exact evses_cancelReservation h _

theorem isReservationPossible_makeReservation (hwf : h.WellFormed)
    (hpossible : isReservationPossible h.evses none h.globalReservations h.evseReservations = true)
    (now : Int) (evseId : Option Nat) (reservation : Reservation) :
    isReservationPossible h.evses none
      (h.makeReservation now evseId reservation).2.globalReservations
      (h.makeReservation now evseId reservation).2.evseReservations = true := by
  have hmade := hwf.makeReservation now evseId reservation
  have hevses := h.evses_makeReservation now evseId reservation
  obtain ⟨-, hmake⟩ | ⟨-, hadmits, hmake⟩ | ⟨-, -, _, -, hmake⟩ :=
    h.makeReservation_cases now evseId reservation
  · rw [hmake]
    exact hpossible
  · cases evseId with
    | some evseId =>
      rcases hadmits.possible with hnone | hchecked
      · have hglobals :
            (h.makeReservation now (some evseId) reservation).2.globalReservations = [] := by
          rw [hmake]
          exact hnone
        rw [hglobals, ← hevses]
        exact hmade.possible_nil fun _ => Iff.rfl
      · rw [evses_cancelReservation] at hchecked
        rw [hmake]
        exact hchecked
    | none =>
      have hchecked := hadmits.possible
      rw [evses_cancelReservation, isReservationPossible_some] at hchecked
      obtain ⟨hglobals, hspecific, -⟩ :=
        (h.cancelReservation reservation.reservationId).2.withGlobalReservation_fields reservation
      rw [hmake]
      show isReservationPossible h.evses none
        (withGlobalReservation _ reservation).globalReservations
        (withGlobalReservation _ reservation).evseReservations = true
      rw [hglobals, hspecific]
      exact hchecked
  · rw [hmake]
    exact isReservationPossible_cancelReservation hwf (fun _ => Iff.rfl) (fun _ _ => rfl)
      hpossible _

/-! ## Loading -/

theorem getElem?_allAvailable (evses : Evses) (evseId : Nat) :
    (allAvailable evses)[evseId]? = evses[evseId]?.map EvseContext.available :=
  Std.TreeMap.getElem?_map

theorem mem_allAvailable (evses : Evses) (evseId : Nat) :
    evseId ∈ allAvailable evses ↔ evseId ∈ evses := by
  rw [Std.TreeMap.mem_iff_isSome_getElem?, Std.TreeMap.mem_iff_isSome_getElem?,
    getElem?_allAvailable, Option.isSome_map]

theorem serves_allAvailable {evses : Evses} {evseId : Nat} {evse : EvseContext}
    (hevse : (allAvailable evses)[evseId]? = some evse) :
    evse.IsFree ∧ ∀ connector ∈ evse.connectors, connector.state = .available := by
  rw [getElem?_allAvailable] at hevse
  obtain ⟨old, -, rfl⟩ := Option.map_eq_some_iff.mp hevse
  have havailable : ∀ connector ∈
      old.connectors.map (fun connector => { connector with state := .available }),
      connector.state = .available := by
    intro connector hmem
    obtain ⟨_, -, rfl⟩ := mem_map.mp hmem
    rfl
  refine ⟨⟨rfl, fun connector hmem => ?_⟩, havailable⟩
  rw [havailable connector hmem]
  decide

theorem WellFormed.withAllAvailable (hwf : h.WellFormed) :
    { h with evses := allAvailable h.evses }.WellFormed := by
  refine hwf.withEvses fun evseId => ?_
  rw [getElem?_allAvailable, Option.map_map]
  refine congrArg (fun f => Option.map f h.evses[evseId]?) (funext fun evse => ?_)
  simp [EvseContext.types, EvseContext.available]

def globalsOf (array : List StoredReservation) : List Reservation :=
  (array.filter fun stored => stored.evseId = none).map StoredReservation.reservation

theorem globalsOf_append (array array' : List StoredReservation) :
    globalsOf (array ++ array') = globalsOf array ++ globalsOf array' := by
  simp [globalsOf]

theorem globalsOf_content : globalsOf h.content = h.globalReservations := by
  have hevse :
      globalsOf (h.evseReservations.toList.map fun entry => ⟨some entry.1, entry.2⟩) = [] := by
    simp [globalsOf, filter_map, Function.comp_def]
  have hglobal : globalsOf (h.globalReservations.map fun reservation => ⟨none, reservation⟩) =
      h.globalReservations := by
    simp [globalsOf, filter_map, Function.comp_def]
  rw [content, globalsOf_append, hevse, hglobal, nil_append]

theorem getElem?_eq_of_mem_content {h' : ReservationHandler}
    (hmem : ∀ stored, stored ∈ h'.content ↔ stored ∈ h.content) (evseId : Nat) :
    h'.evseReservations[evseId]? = h.evseReservations[evseId]? := by
  refine Option.ext fun reservation => ?_
  rw [← mem_content_evse, hmem, mem_content_evse]

theorem content_ordered :
    h.content.Pairwise fun stored next => stored.evseId = none → next.evseId = none := by
  rw [content, pairwise_append]
  refine ⟨?_, ?_, ?_⟩
  · refine pairwise_map.mpr (pairwise_of_forall fun _ _ hnone => ?_)
    cases hnone
  · exact pairwise_map.mpr (pairwise_of_forall fun _ _ _ => rfl)
  · intro _ _ stored hmem _
    obtain ⟨_, -, rfl⟩ := mem_map.mp hmem
    rfl

/-- The entries read so far have been made again. -/
structure Loaded (h g : ReservationHandler) (array : List StoredReservation) : Prop where
  wellFormed : g.WellFormed
  evses : g.evses = allAvailable h.evses
  content : g.content.Perm array
  globals : g.globalReservations = globalsOf array

variable {g : ReservationHandler}

/-- One more entry is made again. -/
theorem Loaded.next (hwf : h.WellFormed) (hfits : h.Fits) {before after : List StoredReservation}
    {stored : StoredReservation} (hcontent : h.content = before ++ stored :: after)
    (hloaded : Loaded h g before) {now : Int} (hnow : now ≤ stored.reservation.expiryTime) :
    Loaded h (g.makeReservation now stored.evseId stored.reservation).2 (before ++ [stored]) := by
  obtain ⟨evseId, reservation⟩ := stored
  have hids := hwf.nodup
  rw [ids, hcontent, map_append, map_cons] at hids
  have hnew : reservation.reservationId ∉ g.ids := by
    rw [ids, (hloaded.content.map _).mem_iff]
    exact fun hmem => (nodup_append.mp hids).2.2 _ hmem _ mem_cons_self rfl
  -- cancelling the new id changes nothing
  have hsame : (g.cancelReservation reservation.reservationId).2.content = g.content := by
    rw [content_cancelReservation hloaded.wellFormed, filter_eq_self]
    intro other hmem
    rw [decide_eq_true_eq]
    exact fun heq => hnew (heq ▸ mem_map_of_mem hmem)
  have hglobals : (g.cancelReservation reservation.reservationId).2.globalReservations =
      globalsOf before := by
    rw [← globalsOf_content, hsame, globalsOf_content, hloaded.globals]
  have hevses : (g.cancelReservation reservation.reservationId).2.evses = allAvailable h.evses :=
    (evses_cancelReservation g _).trans hloaded.evses
  have hmem : ⟨evseId, reservation⟩ ∈ h.content := by
    rw [hcontent]
    exact mem_append_cons_self
  have hbefore : ∀ (other : Nat) (old : Reservation),
      (g.cancelReservation reservation.reservationId).2.evseReservations[other]? = some old →
      ⟨some other, old⟩ ∈ before := by
    intro other old hget
    rw [← mem_content_evse, hsame, hloaded.content.mem_iff] at hget
    exact hget
  have hadmits :
      (g.cancelReservation reservation.reservationId).2.AdmitsAny evseId reservation := by
    cases evseId with
    | some evseId =>
      have hget := mem_content_evse.mp hmem
      refine ⟨fun hreserved => ?_, ?_, .inl ?_⟩
      · -- the EVSE has one reservation, and it was not loaded before
        obtain ⟨old, hold⟩ := mem_iff_exists_getElem?.mp hreserved
        have hfirst := hbefore evseId old hold
        have holder : ⟨some evseId, old⟩ ∈ h.content := by
          rw [hcontent]
          exact mem_append_left _ hfirst
        cases hget.symm.trans (mem_content_evse.mp holder)
        exact hnew (mem_map_of_mem (hloaded.content.mem_iff.mpr hfirst))
      · rw [hevses]
        obtain ⟨evse, hevse, connector, hconnector, hfits⟩ :=
          hwf.withAllAvailable.fits evseId reservation hget
        obtain ⟨hfree, havailable⟩ := serves_allAvailable hevse
        exact ⟨evse, hevse, hfree, connector, hconnector, hfits, havailable connector hconnector⟩
      · -- no global reservation comes before
        have hordered := h.content_ordered
        rw [hcontent, pairwise_append] at hordered
        rw [hglobals, globalsOf, map_eq_nil_iff, filter_eq_nil_iff]
        intro other hother hnone
        cases hordered.2.2 other hother _ mem_cons_self (of_decide_eq_true hnone)
    | none =>
      refine ⟨?_, ?_⟩
      · rw [hevses]
        exact hwf.withAllAvailable.types reservation (mem_content_global.mp hmem)
      · rw [hevses, hglobals, isReservationPossible_some]
        have hprefix : (globalsOf before ++ [reservation]).Sublist h.globalReservations := by
          rw [← globalsOf_content, hcontent, globalsOf_append]
          exact List.Sublist.append_left (by simp [globalsOf]) _
        refine isReservationPossible_of_sublist hprefix ?_
        refine isReservationPossible_of_unreserved (fun _ => Iff.rfl) (fun other hreserved => ?_)
          (fun _ _ => rfl) hfits
        obtain ⟨old, hold⟩ := mem_iff_exists_getElem?.mp hreserved
        have hget : h.evseReservations[other]? = some old := by
          rw [← mem_content_evse, hcontent]
          exact mem_append_left _ (hbefore other old hold)
        exact mem_iff_exists_getElem?.mpr ⟨old, hget⟩
  obtain ⟨hexpired, -⟩ | ⟨-, -, hmake⟩ | ⟨-, hnot, -⟩ :=
    g.makeReservation_cases now evseId reservation
  · exact absurd hnow (not_le.mpr hexpired)
  · have hmade := hloaded.wellFormed.makeReservation now evseId reservation
    rw [hmake] at hmade ⊢
    refine ⟨hmade, (withReservation_fields _ _ _).1.trans hevses, ?_, ?_⟩
    · refine (content_withReservation hadmits).trans ?_
      rw [hsame]
      exact (hloaded.content.cons _).trans (perm_append_singleton _ _).symm
    · rw [globalsOf_append, ← hglobals]
      cases evseId with
      | some evseId => simp [globalsOf, withReservation, withEvseReservation, setReservationTimer]
      | none => exact (withGlobalReservation_fields _ _).1
  · exact absurd hadmits hnot

theorem loadReservations_snd (now : Int) :
    (h.loadReservations now).2 =
      (h.store.getD []).foldl
        (fun g stored => (g.makeReservation now stored.evseId stored.reservation).2) h := by
  refine (foldl_hom Prod.snd fun loaded stored => ?_).symm
  dsimp only
  split <;> rfl

theorem isReservationPossible_foldl (array : List StoredReservation) (now : Int)
    (hwf : g.WellFormed)
    (hpossible : isReservationPossible g.evses none g.globalReservations g.evseReservations =
      true) :
    isReservationPossible g.evses none
      (array.foldl (fun g stored =>
        (g.makeReservation now stored.evseId stored.reservation).2) g).globalReservations
      (array.foldl (fun g stored =>
        (g.makeReservation now stored.evseId stored.reservation).2) g).evseReservations = true := by
  induction array generalizing g with
  | nil => exact hpossible
  | cons stored rest ih =>
    have hnext := isReservationPossible_makeReservation hwf hpossible now stored.evseId
      stored.reservation
    have hevses := g.evses_makeReservation now stored.evseId stored.reservation
    rw [← hevses] at hnext ⊢
    exact ih (hwf.makeReservation now stored.evseId stored.reservation) hnext

theorem Loaded.content_eq (hloaded : Loaded h g h.content) : g.content = h.content := by
  have hentries := (Std.TreeMap.Equiv.of_forall_constGet?_eq
    (getElem?_eq_of_mem_content fun stored => hloaded.content.mem_iff)).toList_eq
  have hglobals : g.globalReservations = h.globalReservations := by
    rw [hloaded.globals, globalsOf_content]
  exact ReservationHandler.content_eq hentries hglobals

/-- A correct copy is loaded completely if the reservations are possible with all EVSEs
available, and only then. -/
theorem restores_iff (hwf : h.WellFormed) (hstore : h.store = some h.content) :
    h.Restores ↔ h.Fits := by
  have hload : ∀ now, (h.restarted.loadReservations now).2 = h.content.foldl
      (fun g stored => (g.makeReservation now stored.evseId stored.reservation).2) h.restarted := by
    intro now
    rw [loadReservations_snd]
    show foldl _ _ (h.store.getD []) = _
    rw [hstore]
    rfl
  constructor
  · intro hrestores
    obtain ⟨now, hnow⟩ := (h.content.map fun stored =>
      stored.reservation.expiryTime).toFinset.bddBelow
    have hsame := hrestores now fun stored hmem => hnow (by
      rw [coe_toFinset]
      exact mem_map.mpr ⟨stored, hmem, rfl⟩)
    rw [hload] at hsame
    have hinitial : h.restarted.WellFormed := wellFormed_initial _ _
    have hpossible := isReservationPossible_foldl h.content now hinitial
      (hinitial.possible_nil fun _ => Iff.rfl)
    generalize h.content.foldl _ h.restarted = g at hsame hpossible
    have hspecific : ∀ evseId : Nat, g.evseReservations[evseId]? = h.evseReservations[evseId]? :=
      getElem?_eq_of_mem_content fun stored => by rw [hsame]
    rw [isReservationPossible_congr hspecific, ← globalsOf_content, hsame, globalsOf_content]
      at hpossible
    exact hpossible
  · intro hfits now hnow
    rw [hload]
    suffices hall : ∀ (after before : List StoredReservation) (g : ReservationHandler),
        h.content = before ++ after → Loaded h g before →
        Loaded h (after.foldl
          (fun g stored => (g.makeReservation now stored.evseId stored.reservation).2) g)
          h.content by
      have hloaded := hall h.content [] h.restarted rfl
        ⟨wellFormed_initial _ _, rfl, List.Perm.refl _, rfl⟩
      exact hloaded.content_eq
    intro after
    induction after with
    | nil =>
      intro before g hcontent hloaded
      rw [hcontent, append_nil]
      exact hloaded
    | cons stored rest ih =>
      intro before g hcontent hloaded
      refine ih (before ++ [stored]) _ (by rw [hcontent, append_assoc]; rfl) ?_
      refine hloaded.next hwf hfits hcontent (hnow stored ?_)
      rw [hcontent]
      exact mem_append_cons_self

/-! ## One operation -/

/-- Reservations survive if the store has them and they fit. -/
theorem survives_iff (hwf : h.WellFormed) : h.Survives ↔ h.store = some h.content ∧ h.Fits :=
  ⟨fun hsurvives => ⟨hsurvives.stored, (restores_iff hwf hsurvives.stored).mp hsurvives.restores⟩,
    fun ⟨hstored, hfits⟩ => ⟨hstored, (restores_iff hwf hstored).mpr hfits⟩⟩

theorem survives_cancelReservations_iff (hwf : h.WellFormed) (hsurvives : h.Survives)
    (ids : List Int) : (h.cancelReservations ids).Survives ↔ h.Leaves ids := by
  obtain ⟨hstored, hfits⟩ := (survives_iff hwf).mp hsurvives
  rw [survives_iff (hwf.cancelReservations ids), storeOk_cancelReservations_iff hwf hstored,
    Fits, evses_cancelReservations]
  exact and_iff_left (isReservationPossible_cancelReservations hwf hfits ids)

theorem map_available_setConnectorState (connectorId : Nat) (state : ConnectorState)
    (connectors : List Connector) :
    (setConnectorState connectorId state connectors).map
        (fun connector => { connector with state := .available }) =
      connectors.map fun connector => { connector with state := .available } := by
  induction connectors with
  | nil => rfl
  | cons head rest ih =>
    rw [setConnectorState]
    split
    · rfl
    · rw [map_cons, map_cons, ih]

variable (hwf : h.WellFormed)

include hwf

variable (hsurvives : h.Survives)

include hsurvives

theorem Survives.modifyEvses (evseId : Nat)
    {f : EvseContext → EvseContext} (hf : ∀ evse, (f evse).available = evse.available)
    (hwf' : { h with evses := h.evses.modify evseId f }.WellFormed) :
    { h with evses := h.evses.modify evseId f }.Survives := by
  obtain ⟨hstored, hfits⟩ := (survives_iff hwf).mp hsurvives
  refine (survives_iff hwf').mpr ⟨hstored, ?_⟩
  refine isReservationPossible_of_unreserved (fun other => ?_) (fun _ => id)
    (fun other _ => by
      rw [getElem?_allAvailable, getElem?_allAvailable, map_getElem?_modify hf]) hfits
  rw [mem_allAvailable, mem_allAvailable]
  exact Std.TreeMap.mem_modify

theorem survives_submitEventForConnector_iff (evseId connectorId : Nat) (event : ConnectorEvent) :
    (h.submitEventForConnector evseId connectorId event).Survives ↔
      h.Leaves (h.eventCancellations evseId connectorId event) := by
  have hnothing : h.Survives ↔ h.Leaves [] := survives_cancelReservations_iff hwf hsurvives []
  cases hevse : h.evses[evseId]? with
  | none => simpa only [submitEventForConnector, eventCancellations, hevse] using hnothing
  | some evse =>
    cases hfind : evse.connectors.find? fun connector => connector.id = connectorId with
    | none => simpa only [submitEventForConnector, eventCancellations, hevse, hfind] using hnothing
    | some connector =>
      simp only [submitEventForConnector, eventCancellations, hevse, hfind]
      generalize connector.state.handleEvent event = state
      have hwf' := hwf.withConnectorState evseId connectorId state
      have hsurvives' : (h.withConnectorState evseId connectorId state).Survives := by
        refine hsurvives.modifyEvses hwf evseId (fun evse => ?_) hwf'
        show EvseContext.mk _ _ = EvseContext.mk _ _
        rw [map_available_setConnectorState]
      exact survives_cancelReservations_iff hwf' hsurvives' _

/-- A reservation for an EVSE is not stored, so the copy is correct only if the same
reservation was the only one before. -/
theorem survives_withEvseReservation_iff {evseId : Nat} {reservation : Reservation}
    (hadmits : (h.cancelReservation reservation.reservationId).2.AdmitsAny (some evseId)
      reservation) :
    ((h.cancelReservation reservation.reservationId).2.withReservation (some evseId)
        reservation).Survives ↔
      h.content = [⟨some evseId, reservation⟩] := by
  have hwf' := (hwf.cancelReservation reservation.reservationId).withReservation
    (id_not_mem_cancelled hwf _) hadmits
  have hcontent := content_withReservation hadmits
  have hstore := store_cancelReservation_of_some hsurvives.stored (fun _ => rfl)
    reservation.reservationId
  have hfiltered := content_cancelReservation hwf reservation.reservationId
  rw [survives_iff hwf']
  constructor
  · rintro ⟨hstored, -⟩
    have hstored : (h.cancelReservation reservation.reservationId).2.store = _ := hstored
    rw [hstore, Option.some.injEq] at hstored
    by_cases hempty : (h.cancelReservation reservation.reservationId).2.content = []
    · rw [if_pos hempty] at hstored
      rw [hempty, ← hstored] at hcontent
      exact perm_singleton.mp hcontent
    · -- the array has one entry less
      rw [if_neg hempty] at hstored
      rw [← hstored] at hcontent
      have hlength := hcontent.length_eq
      rw [length_cons] at hlength
      omega
  · intro honly
    have hempty : (h.cancelReservation reservation.reservationId).2.content = [] := by
      rw [hfiltered, honly]
      simp
    rw [if_pos hempty] at hstore
    rw [hempty] at hcontent
    refine ⟨?_, ?_⟩
    · show (h.cancelReservation reservation.reservationId).2.store = _
      rw [hstore, perm_singleton.mp hcontent, honly]
    · have hglobals :
          (h.cancelReservation reservation.reservationId).2.globalReservations = [] := by
        rw [← globalsOf_content, hempty]
        rfl
      show isReservationPossible _ none
        (h.cancelReservation reservation.reservationId).2.globalReservations _ = true
      rw [hglobals]
      exact hwf'.possible_nil (mem_allAvailable _)

theorem survives_withGlobalReservation_iff {reservation : Reservation}
    (hadmits : (h.cancelReservation reservation.reservationId).2.AdmitsAny none reservation) :
    ((h.cancelReservation reservation.reservationId).2.withReservation none reservation).Survives ↔
      isReservationPossible (allAvailable h.evses) none
        ((h.cancelReservation reservation.reservationId).2.globalReservations ++ [reservation])
        (h.cancelReservation reservation.reservationId).2.evseReservations = true := by
  have hwf' := (hwf.cancelReservation reservation.reservationId).withReservation
    (id_not_mem_cancelled hwf _) hadmits
  rw [survives_iff hwf', Fits, (withReservation_fields _ _ _).1, evses_cancelReservation]
  obtain ⟨hglobals, hspecific, -⟩ :=
    (h.cancelReservation reservation.reservationId).2.withGlobalReservation_fields reservation
  rw [show (withReservation _ none reservation).globalReservations = _ from hglobals,
    show (withReservation _ none reservation).evseReservations = _ from hspecific]
  refine and_iff_right ?_
  show store (storeReservations _) = some (content (storeReservations _))
  rw [store_storeReservations, content_storeReservations, if_pos]
  refine ⟨?_, fun hnil => ?_⟩
  · show (h.cancelReservation reservation.reservationId).2.store.isSome = true
    rw [store_cancelReservation_of_some hsurvives.stored fun _ => rfl]
    rfl
  · simp [content] at hnil

/-- One operation. -/
theorem survives_step_iff (operation : Operation) :
    (h.step operation).Survives ↔ h.Keeps operation := by
  cases operation with
  | makeReservation now evseId reservation =>
    dsimp only [step, Keeps]
    obtain ⟨hexpired, hmake⟩ | ⟨hexpired, hadmits, hmake⟩ | ⟨hexpired, -, _, hresult, hmake⟩ :=
      h.makeReservation_cases now evseId reservation
    · rw [if_pos hexpired, hmake]
      exact iff_of_true hsurvives trivial
    · rw [if_neg hexpired, hmake, if_pos rfl]
      cases evseId with
      | some evseId => exact survives_withEvseReservation_iff hwf hsurvives hadmits
      | none => exact survives_withGlobalReservation_iff hwf hsurvives hadmits
    · rw [if_neg hexpired, hmake, if_neg hresult]
      exact survives_cancelReservations_iff hwf hsurvives [reservation.reservationId]
  | cancelReservation id | onReservationUsed id
  | timerExpired id => exact survives_cancelReservations_iff hwf hsurvives [id]
  | connectorEvent evseId connectorId event =>
    exact survives_submitEventForConnector_iff hwf hsurvives evseId connectorId event
  | plugged evseId pluggedIn =>
    exact iff_of_true (hsurvives.modifyEvses hwf evseId (fun _ => rfl)
      (hwf.step (.plugged evseId pluggedIn))) trivial

omit hsurvives

/-! ## Whole runs -/

omit hwf

/-- **The reservations survive a restart after every operation** exactly if the run makes no
reservation for an EVSE, except that the only reservation is made again, never removes the
last reservation, and makes no global reservation that is possible only while some EVSE is
not available. -/
theorem reservations_survive_restart_iff (evses : Evses) (operations : List Operation) :
    Always step Survives { evses, store := some [] } operations ↔
      Along step Keeps { evses, store := some [] } operations :=
  always_iff_along (I := WellFormed) (fun _ operation hwf _ _ => hwf.step operation)
    (fun _ operation hwf hsurvives => survives_step_iff hwf hsurvives operation) operations
    (wellFormed_initial evses _) ((survives_iff (wellFormed_initial evses _)).mpr ⟨rfl,
      (wellFormed_initial evses _).possible_nil (mem_allAvailable evses)⟩)

/-- A reservation for an EVSE is accepted, but the array in the store stays empty. -/
theorem evse_reservation_is_not_stored :
    let evses : Evses := ({} : Evses).insert 1 { connectors := [{ id := 1, type := .cCCS2 }] }
    let reservation : Reservation := { reservationId := 7, idToken := "TOKEN", expiryTime := 100 }
    let h := run step { evses, store := some [] } [.makeReservation 0 (some 1) reservation]
    h.content = [⟨some 1, reservation⟩] ∧ h.store = some [] ∧ ¬ h.Survives := by
  refine ⟨by decide, by decide, fun hsurvives => ?_⟩
  exact absurd hsurvives.stored (by decide)

end ReservationHandler

end EverestCore.Auth
