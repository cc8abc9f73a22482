import Mathlib.Data.Finset.Basic
import Mathlib.Data.Fintype.Card
import Mathlib.Data.List.FinRange
import Mathlib.Data.List.Nodup
import Mathlib.Data.Set.Function

/-!
# Guests that arrive at places

Guests arrive one after the other and each takes any free place that suits. Nobody directs
them, so a guest can be stranded by the choices of those before.

**Main result**: `arrives_in_every_order_iff`: all guests find a place in every order
exactly if no guest is stranded. A place that suited nobody before strands nobody
(`not_stranded_of_more_places`); one that suited some may (`arrives_of_new_place`).
-/

namespace EverestCore.Lib

open List Function

variable {κ τ ι : Type}

/-- In this order every guest finds a free place, whatever places those before have
taken. -/
def Arrives (usable : κ → ι → Prop) (places : List ι) : List ι → List κ → Prop
  | _, [] => True
  | used, guest :: rest =>
    (∃ e ∈ places, e ∉ used ∧ usable guest e) ∧
      ∀ e ∈ places, e ∉ used → usable guest e → Arrives usable places (e :: used) rest

/-- Some guest finds every place that suits taken by other guests, each on a place of its
own that suits it. -/
def Stranded (usable : τ → ι → Prop) (places : List ι) (guests : List τ) : Prop :=
  ∃ (guest : Fin guests.length) (others : Finset (Fin guests.length))
    (place : Fin guests.length → ι),
    guest ∉ others ∧ Set.InjOn place others ∧
      (∀ other ∈ others, place other ∈ places ∧ usable (guests.get other) (place other)) ∧
      ∀ e ∈ places, usable (guests.get guest) e → ∃ other ∈ others, place other = e

section

variable {usable : κ → ι → Prop} {places : List ι}

theorem arrives_congr_free {usable' : κ → ι → Prop} {used used' : List ι}
    (h : ∀ guest, ∀ e ∈ places, (e ∉ used' ∧ usable' guest e) ↔ (e ∉ used ∧ usable guest e))
    (order : List κ) :
    Arrives usable' places used' order ↔ Arrives usable places used order := by
  induction order generalizing used used' with
  | nil => exact Iff.rfl
  | cons guest rest ih =>
    have hrest : ∀ e, Arrives usable' places (e :: used') rest ↔
        Arrives usable places (e :: used) rest := by
      intro e
      refine ih fun guest' e' hmem => ?_
      simp only [mem_cons, not_or, and_assoc, h guest' e' hmem]
    rw [Arrives, Arrives]
    refine and_congr ?_ ?_
    · exact exists_congr fun e => and_congr_right fun hmem => h guest e hmem
    · refine forall_congr' fun e => forall_congr' fun hmem => ?_
      rw [hrest e, ← and_imp, ← and_imp, h guest e hmem]

theorem arrives_congr {used used' : List ι} (h : ∀ e, e ∈ used ↔ e ∈ used') (order : List κ) :
    Arrives usable places used order ↔ Arrives usable places used' order :=
  arrives_congr_free (fun guest e _ => by rw [h]) order

theorem arrives_map (label : τ → κ) (used : List ι) (order : List τ) :
    Arrives usable places used (order.map label) ↔
      Arrives (fun guest e => usable (label guest) e) places used order := by
  induction order generalizing used with
  | nil => exact Iff.rfl
  | cons guest rest ih => simp only [map_cons, Arrives, ih]

variable {used : List ι}

theorem Arrives.of_append {first rest : List κ} (h : Arrives usable places used (first ++ rest)) :
    Arrives usable places used first := by
  induction first generalizing used with
  | nil => trivial
  | cons guest first ih =>
    exact ⟨h.1, fun e hplace hfree husable => ih (h.2 e hplace hfree husable)⟩

theorem Arrives.exists_place {others rest : List κ} {guest : κ} {place : κ → ι}
    (h : Arrives usable places used (others ++ guest :: rest)) (hinj : (others.map place).Nodup)
    (hplace : ∀ other ∈ others, place other ∈ places ∧ usable other (place other))
    (hfree : ∀ other ∈ others, place other ∉ used) :
    ∃ e ∈ places, e ∉ used ∧ e ∉ others.map place ∧ usable guest e := by
  induction others generalizing used with
  | nil =>
    obtain ⟨e, hmem, hunused, husable⟩ := h.1
    exact ⟨e, hmem, hunused, not_mem_nil, husable⟩
  | cons other others ih =>
    rw [map_cons, nodup_cons] at hinj
    have hother := hplace other mem_cons_self
    have hnext := h.2 (place other) hother.1 (hfree other mem_cons_self) hother.2
    -- the others do not use the place just taken
    have hfree' : ∀ other' ∈ others, place other' ∉ place other :: used := by
      intro other' hmem hused
      rcases mem_cons.mp hused with heq | hused
      · exact hinj.1 (heq ▸ mem_map_of_mem hmem)
      · exact hfree other' (mem_cons_of_mem _ hmem) hused
    obtain ⟨e, hmem, hunused, hnot, husable⟩ := ih hnext hinj.2
      (fun other' h => hplace other' (mem_cons_of_mem _ h)) hfree'
    rw [mem_cons, not_or] at hunused
    refine ⟨e, hmem, hunused.2, ?_, husable⟩
    rw [map_cons, mem_cons, not_or]
    exact ⟨hunused.1, hnot⟩

theorem Arrives.exists_taken {order : List κ} (h : Arrives usable places used order) :
    ∃ taken : List ι, taken.length = order.length ∧ taken.Nodup ∧
      ∀ e ∈ taken, e ∈ places ∧ e ∉ used ∧ ∃ guest ∈ order, usable guest e := by
  induction order generalizing used with
  | nil => exact ⟨[], rfl, nodup_nil, nofun⟩
  | cons guest rest ih =>
    obtain ⟨⟨e, hmem, hfree, husable⟩, hrest⟩ := h
    obtain ⟨taken, hlength, hnodup, htaken⟩ := ih (hrest e hmem hfree husable)
    refine ⟨e :: taken, by simp [hlength], nodup_cons.mpr ⟨fun he => ?_, hnodup⟩, ?_⟩
    · exact (htaken e he).2.1 mem_cons_self
    · refine forall_mem_cons.mpr ⟨⟨hmem, hfree, guest, mem_cons_self, husable⟩, ?_⟩
      intro e' he'
      obtain ⟨hplace, hunused, other, hother, hsuits⟩ := htaken e' he'
      exact ⟨hplace, fun h => hunused (mem_cons_of_mem _ h), other,
        mem_cons_of_mem _ hother, hsuits⟩

variable [DecidableEq κ] [Nonempty ι]

theorem exists_stuck {order : List κ} (hnodup : order.Nodup)
    (h : ¬ Arrives usable places used order) :
    ∃ (others : List κ) (guest : κ) (rest : List κ) (place : κ → ι),
      order = others ++ guest :: rest ∧ (others.map place).Nodup ∧
      (∀ other ∈ others,
        place other ∈ places ∧ usable other (place other) ∧ place other ∉ used) ∧
      ∀ e ∈ places, usable guest e → e ∈ used ∨ e ∈ others.map place := by
  induction order generalizing used with
  | nil => exact absurd trivial h
  | cons guest rest ih =>
    rw [nodup_cons] at hnodup
    by_cases hfree : ∃ e ∈ places, e ∉ used ∧ usable guest e
    · -- the guest may choose a place that leads to a dead end
      have hdead : ∃ e ∈ places, e ∉ used ∧ usable guest e ∧
          ¬ Arrives usable places (e :: used) rest := by
        by_contra hnone
        refine h ⟨hfree, fun e hmem hunused husable => ?_⟩
        by_contra harrives
        exact hnone ⟨e, hmem, hunused, husable, harrives⟩
      obtain ⟨e, hmem, hunused, husable, harrives⟩ := hdead
      obtain ⟨others, stuck, rest', place, rfl, hinj, hplace, hcovers⟩ := ih hnodup.2 harrives
      have hnotmem : guest ∉ others := fun h => hnodup.1 (mem_append_left _ h)
      have hsame : ∀ other ∈ others, update place guest e other = place other := by
        rintro other hother
        have hne : other ≠ guest := fun heq => hnotmem (heq ▸ hother)
        exact update_of_ne hne e place
      have hmap : (guest :: others).map (update place guest e) = e :: others.map place := by
        rw [map_cons, update_self, map_congr_left hsame]
      refine ⟨guest :: others, stuck, rest', update place guest e, rfl, ?_, ?_, ?_⟩
      · rw [hmap, nodup_cons]
        refine ⟨fun hused => ?_, hinj⟩
        obtain ⟨other, hother, rfl⟩ := mem_map.mp hused
        exact (hplace other hother).2.2 mem_cons_self
      · intro other hother
        rcases mem_cons.mp hother with rfl | hother
        · rw [update_self]
          exact ⟨hmem, husable, hunused⟩
        · rw [hsame other hother]
          obtain ⟨h₁, h₂, h₃⟩ := hplace other hother
          exact ⟨h₁, h₂, fun h => h₃ (mem_cons_of_mem _ h)⟩
      · intro e' hmem' husable'
        rw [hmap, mem_cons]
        rcases hcovers e' hmem' husable' with h | h
        · rcases mem_cons.mp h with rfl | h
          · exact .inr (.inl rfl)
          · exact .inl h
        · exact .inr (.inr h)
    · -- the guest itself is stuck
      refine ⟨[], guest, rest, fun _ => Classical.arbitrary ι, rfl, nodup_nil,
        nofun, fun e hmem husable => .inl ?_⟩
      by_contra hunused
      exact hfree ⟨e, hmem, hunused, husable⟩

end

/-! ## All orders -/

variable {guests : List τ}

theorem exists_perm_of_perm_map (label : τ → κ) {order : List κ} (h : order.Perm (guests.map label))
    :
    ∃ order' : List τ, order'.Perm guests ∧ order'.map label = order := by
  have hlabels : List.Forall₂ (fun b a => b = label a) (guests.map label) guests :=
    forall₂_map_left_iff.mpr (forall₂_same.mpr fun _ _ => rfl)
  obtain ⟨order', horder', hperm⟩ := perm_comp_forall₂ h hlabels
  refine ⟨order', hperm, ?_⟩
  rw [← forall₂_eq_eq_eq, forall₂_map_left_iff]
  exact horder'.flip.imp fun _ _ => Eq.symm

variable {usable : τ → ι → Prop} {places : List ι}

/-- Guests as positions in a list: all find a place in every order of the list exactly if
they do in every order of the positions. -/
theorem arrives_perm_iff (guests : List τ) :
    (∀ order, order.Perm guests → Arrives usable places [] order) ↔
      ∀ order : List (Fin guests.length), order.Perm (List.finRange guests.length) →
        Arrives (fun guest e => usable (guests.get guest) e) places [] order := by
  have hguests : (finRange guests.length).map guests.get = guests := by rw [← ofFn_eq_map, ofFn_get]
  constructor
  · intro h order hperm
    rw [← arrives_map guests.get]
    exact h _ ((hperm.map guests.get).trans (List.Perm.of_eq hguests))
  · intro h order hperm
    rw [← hguests] at hperm
    obtain ⟨order', hperm', rfl⟩ := exists_perm_of_perm_map guests.get hperm
    rw [arrives_map guests.get]
    exact h order' hperm'

/-- **All guests find a place in every order exactly if no guest is stranded.** -/
theorem arrives_in_every_order_iff [Nonempty ι] (guests : List τ) :
    (∀ order, order.Perm guests → Arrives usable places [] order) ↔
      ¬ Stranded usable places guests := by
  rw [arrives_perm_iff]
  constructor
  · -- the others take their places first, and then the guest is stuck
    rintro h ⟨guest, others, place, hguest, hinj, hplace, hcovers⟩
    let late := (finRange guests.length).filter fun a => a ∉ others ∧ a ≠ guest
    have hperm : (others.toList ++ guest :: late).Perm (finRange guests.length) := by
      refine (perm_ext_iff_of_nodup ?_ (nodup_finRange _)).mpr fun a => ?_
      · have hlate : guest ∉ late := by simp [late]
        have hnodup : late.Nodup := (nodup_finRange _).filter _
        refine nodup_append'.mpr ⟨others.nodup_toList, nodup_cons.mpr ⟨hlate, hnodup⟩, ?_⟩
        intro a ha ha'
        rw [Finset.mem_toList] at ha
        rcases mem_cons.mp ha' with rfl | ha'
        · exact hguest ha
        · simp [late, ha] at ha'
      · by_cases ha : a ∈ others <;> by_cases ha' : a = guest <;> simp [late, ha, ha']
    have hmap : (others.toList.map place).Nodup :=
      others.nodup_toList.map_on fun a ha b hb heq =>
        hinj (Finset.mem_toList.mp ha) (Finset.mem_toList.mp hb) heq
    obtain ⟨e, hmem, -, hfree, husable⟩ := (h _ hperm).exists_place hmap
      (fun other hother => hplace other (Finset.mem_toList.mp hother))
      fun _ _ => not_mem_nil
    obtain ⟨other, hother, rfl⟩ := hcovers e hmem husable
    exact hfree (mem_map_of_mem (Finset.mem_toList.mpr hother))
  · intro h order hperm
    by_contra harrives
    obtain ⟨others, guest, rest, place, rfl, hinj, hplace, hcovers⟩ :=
      exists_stuck (hperm.nodup_iff.mpr (nodup_finRange _)) harrives
    have hnodup := hperm.nodup_iff.mpr (nodup_finRange guests.length)
    refine h ⟨guest, others.toFinset, place, ?_, ?_, ?_, ?_⟩
    · rw [mem_toFinset]
      exact fun hmem => (nodup_append'.mp hnodup).2.2 hmem mem_cons_self
    · intro a ha b hb heq
      exact inj_on_of_nodup_map hinj (mem_toFinset.mp ha) (mem_toFinset.mp hb) heq
    · intro other hother
      obtain ⟨hmem, husable, -⟩ := hplace other (mem_toFinset.mp hother)
      exact ⟨hmem, husable⟩
    · intro e hmem husable
      obtain ⟨other, hother, rfl⟩ := mem_map.mp ((hcovers e hmem husable).resolve_left not_mem_nil)
      exact ⟨other, mem_toFinset.mpr hother, rfl⟩

/-! ## Fewer guests and more places -/

variable {order : List τ}

theorem arrives_of_fewer_guests {guests more : List τ}
    (h : ∀ order, order.Perm (guests ++ more) → Arrives usable places [] order)
    (hperm : order.Perm guests) : Arrives usable places [] order :=
  Arrives.of_append (h (order ++ more) (hperm.append_right more))

theorem arrives_used_iff (e : ι) (order : List τ) :
    Arrives usable places [e] order ↔
      Arrives (fun guest e' => e' ≠ e ∧ usable guest e') places [] order :=
  arrives_congr_free (fun guest e' _ => by simp) order

/-- If all find a place in every order, the others still do after one of them has taken a
place. -/
theorem arrives_without {guest : τ} {e : ι} (hplace : e ∈ places) (husable : usable guest e)
    (h : ∀ order, order.Perm (guest :: guests) → Arrives usable places [] order)
    (hperm : order.Perm guests) :
    Arrives (fun guest e' => e' ≠ e ∧ usable guest e') places [] order := by
  rw [← arrives_used_iff]
  exact (h (guest :: order) (hperm.cons guest)).2 e hplace not_mem_nil husable

/-- A place that begins to suit some guests disturbs the others only if one of these takes
it. -/
theorem arrives_of_new_place {usable' : τ → ι → Prop} {e : ι}
    (hsame : ∀ guest e', e' ≠ e → (usable' guest e' ↔ usable guest e'))
    (hmore : ∀ guest, usable guest e → usable' guest e) {used : List ι}
    (h : Arrives usable places used order)
    (hnew : ∀ first guest rest, order = first ++ guest :: rest → usable' guest e →
      ¬ usable guest e → Arrives usable' places (e :: used) (first ++ rest)) :
    Arrives usable' places used order := by
  have hsub : ∀ guest e', usable guest e' → usable' guest e' := by
    intro guest e' husable
    by_cases he : e' = e
    · exact he ▸ hmore guest (he ▸ husable)
    · exact (hsame guest e' he).mpr husable
  induction order generalizing used with
  | nil => trivial
  | cons guest rest ih =>
    obtain ⟨⟨e', hmem, hfree, husable⟩, hrest⟩ := h
    refine ⟨⟨e', hmem, hfree, hsub guest e' husable⟩, fun place hplace hunused hsuits => ?_⟩
    by_cases he : place = e
    · subst he
      by_cases hold : usable guest place
      · -- with the place taken, nothing is new
        refine (arrives_congr_free (fun other e' _ => ?_) rest).mpr
          (hrest place hplace hunused hold)
        refine and_congr_right fun hnot => hsame other e' fun heq => ?_
        exact hnot (heq ▸ mem_cons_self)
      · exact hnew [] guest rest rfl hsuits hold
    · have hold := (hsame guest place he).mp hsuits
      refine ih (hrest place hplace hunused hold) fun first other last heq hother hnot => ?_
      -- the place may be taken by a later guest just as well
      have hlater := hnew (guest :: first) other last (by rw [heq]; rfl) hother hnot
      have hplay := hlater.2 place hplace (by simp [he, hunused]) hsuits
      exact (arrives_congr (fun e' => by simp [or_left_comm]) _).mp hplay

theorem not_stranded_of_more_places {usable' : τ → ι → Prop}
    (hplaces : ∀ e ∈ places, (∀ guest ∈ guests, usable' guest e ↔ usable guest e) ∨
      ∀ guest ∈ guests, ¬ usable guest e)
    (h : ¬ Stranded usable places guests) : ¬ Stranded usable' places guests := by
  classical
  rintro ⟨guest, others, place, hguest, hinj, hplace, hcovers⟩
  -- the others on old places already strand the guest
  refine h ⟨guest, others.filter fun other => usable (guests.get other) (place other), place,
    fun hmem => hguest (Finset.mem_filter.mp hmem).1, ?_, ?_, ?_⟩
  · intro a ha b hb heq
    exact hinj (Finset.mem_filter.mp ha).1 (Finset.mem_filter.mp hb).1 heq
  · intro other hother
    obtain ⟨hmem, husable⟩ := Finset.mem_filter.mp hother
    exact ⟨(hplace other hmem).1, husable⟩
  · intro e hmem husable
    have hsame : ∀ guest ∈ guests, usable' guest e ↔ usable guest e :=
      (hplaces e hmem).resolve_right fun hnone => hnone _ (get_mem guests guest) husable
    obtain ⟨other, hother, rfl⟩ :=
      hcovers e hmem ((hsame _ (get_mem guests guest)).mpr husable)
    exact ⟨other, Finset.mem_filter.mpr
      ⟨hother, (hsame _ (get_mem guests other)).mp (hplace other hother).2⟩, rfl⟩

/-- Who is stranded only because a place has gone could use this place, and the guests could
take all places that suit. -/
theorem Stranded.exists_of_without {e : ι}
    (h : Stranded (fun guest e' => e' ≠ e ∧ usable guest e') places guests)
    (hbefore : ¬ Stranded usable places guests) :
    ∃ guest ∈ guests, usable guest e ∧
      ∀ suits : List ι, suits.Nodup → (∀ e' ∈ suits, e' ∈ places ∧ usable guest e') →
        suits.length ≤ guests.length := by
  classical
  obtain ⟨guest, others, place, hguest, hinj, hothers, hcovers⟩ := h
  refine ⟨guests.get guest, get_mem guests guest, ?_, fun suits hnodup hsuits => ?_⟩
  · -- otherwise the same guests strand it with the place
    by_contra hnot
    refine hbefore ⟨guest, others, place, hguest, hinj, fun other hmem => ?_, ?_⟩
    · exact ⟨(hothers other hmem).1, (hothers other hmem).2.2⟩
    · intro e' hmem husable
      exact hcovers e' hmem ⟨fun heq => hnot (heq ▸ husable), husable⟩
  · have hsub : suits.toFinset ⊆ insert e (others.image place) := by
      intro e' hmem
      obtain ⟨hmem', husable⟩ := hsuits e' (mem_toFinset.mp hmem)
      rw [Finset.mem_insert, Finset.mem_image]
      by_cases he : e' = e
      · exact .inl he
      · exact .inr (hcovers e' hmem' ⟨he, husable⟩)
    have hothers' : others.card + 1 ≤ guests.length := by
      rw [← Finset.card_insert_of_notMem hguest]
      exact (Finset.card_le_univ _).trans (Fintype.card_fin _).le
    calc suits.length = suits.toFinset.card := (toFinset_card_of_nodup hnodup).symm
      _ ≤ (insert e (others.image place)).card := Finset.card_le_card hsub
      _ ≤ (others.image place).card + 1 := Finset.card_insert_le _ _
      _ ≤ others.card + 1 := by
          have := Finset.card_image_le (s := others) (f := place)
          omega
      _ ≤ guests.length := hothers'

end EverestCore.Lib
