import EverestCore.Evse.ErrorHandling

/-!
# The shutdown type and the active errors

`Inoperative` is active exactly while some error prevents charging, and from the
moment it is raised no further shutdown is signalled. So the shutdown type is
decided by the first error found when charging becomes impossible, and it stays
as it is until charging is possible again.
-/

namespace EverestCore.Evse

open EverestCore.Lib State List Function

variable {cfg : Config} {s s' : State}

/-- The error is active on a connected interface and not ignored there. -/
def PreventsCharging (cfg : Config) (s : State) (e : Error) : Prop :=
  ∃ interface, cfg.present interface = true ∧ e ∈ s.active interface ∧
    e.type ∉ ignoreErrors interface

private theorem isFatal_some {errors : List Error} {ignored : List String} {e : Error}
    (h : isFatal errors ignored = some e) : e ∈ errors ∧ e.type ∉ ignored := by
  refine ⟨mem_of_find?_eq_some h, fun hmem => ?_⟩
  have hpred := find?_some (p := fun e : Error => ignored.all fun t => e.type != t) h
  simpa using all_eq_true.mp hpred _ hmem

private theorem isFatal_none {errors : List Error} {ignored : List String}
    (h : isFatal errors ignored = none) : ∀ e ∈ errors, e.type ∈ ignored := by
  intro e he
  have hnot := find?_eq_none.mp h e he
  by_contra hmem
  refine hnot (all_eq_true.mpr fun t ht => ?_)
  rw [bne_iff_ne]
  rintro rfl
  exact hmem ht

theorem errorsPreventCharging_sound {e : Error} (h : errorsPreventCharging cfg s = some e) :
    PreventsCharging cfg s e := by
  obtain ⟨interface, -, hfound⟩ := exists_of_findSome?_eq_some h
  split at hfound
  · rename_i hpresent
    exact ⟨interface, hpresent, isFatal_some hfound⟩
  · exact absurd hfound (by simp)

theorem errorsPreventCharging_none (h : errorsPreventCharging cfg s = none) (e : Error) :
    ¬ PreventsCharging cfg s e := by
  rintro ⟨interface, hpresent, hactive, hignored⟩
  have hnone := findSome?_eq_none_iff.mp h interface (by cases interface <;> decide)
  rw [if_pos hpresent] at hnone
  exact hignored (isFatal_none hnone e hactive)

theorem errorsPreventCharging_isSome_iff :
    (errorsPreventCharging cfg s).isSome = true ↔ ∃ e, PreventsCharging cfg s e := by
  cases h : errorsPreventCharging cfg s with
  | none => simp [errorsPreventCharging_none h]
  | some e => simpa using ⟨e, errorsPreventCharging_sound h⟩

/-- An error of high severity prevents charging. -/
def HighPrevents (cfg : Config) (s : State) : Prop :=
  ∃ e, PreventsCharging cfg s e ∧ e.severity = .high

/-- Once the queue is drained the shutdown type is that of the worst active
error. -/
structure ReflectsWorst (cfg : Config) (s : State) : Prop where
  none_iff : s.drained = .none ↔ ¬ ∃ e, PreventsCharging cfg s e
  emergency_iff : s.drained = .emergencyShutdown ↔ HighPrevents cfg s

def Inoperative (s : State) : Prop := s.isErrorActive .evse inoperativeType "" = true

theorem isErrorActive_iff {interface : Interface} {type subType : String} :
    s.isErrorActive interface type subType = true ↔
      ∃ e ∈ s.active interface, e.type = type ∧ e.subType = subType := by
  simp [isErrorActive]

/-! ## Changes -/

private theorem applyChange_frame (change : ForeignChange) (s : State) :
    (Inoperative (applyChange s change.1) ↔ Inoperative s) ∧
      (applyChange s change.1).drained = s.drained := by
  obtain ⟨change, hforeign⟩ := change
  cases change with
  | raise interface position error =>
    simp only [applyChange, raiseError]
    split
    · exact ⟨Iff.rfl, rfl⟩
    · refine ⟨?_, rfl⟩
      unfold Inoperative
      rw [isErrorActive_iff, isErrorActive_iff]
      by_cases hevse : interface = .evse
      · subst hevse
        have hne := hforeign rfl
        simp only [setActive, update_self, mem_insertIdx (Nat.min_le_right _ _)]
        constructor
        · rintro ⟨e, rfl | he, htype⟩
          · exact absurd htype.1 hne
          · exact ⟨e, he, htype⟩
        · rintro ⟨e, he, htype⟩
          exact ⟨e, .inr he, htype⟩
      · simp only [setActive, update_of_ne (Ne.symm hevse)]
  | clear interface type subType =>
    refine ⟨?_, rfl⟩
    unfold Inoperative
    simp only [applyChange, clearError]
    rw [isErrorActive_iff, isErrorActive_iff]
    by_cases hevse : interface = .evse
    · subst hevse
      have hne := hforeign rfl
      simp only [setActive, update_self, mem_filter]
      constructor
      · rintro ⟨e, he, htype⟩
        exact ⟨e, he.1, htype⟩
      · rintro ⟨e, he, htype⟩
        refine ⟨e, ⟨he, ?_⟩, htype⟩
        have : e.type ≠ type := by
          rw [htype.1]
          exact hne.symm
        simp [this]
    · simp only [setActive, update_of_ne (Ne.symm hevse)]

theorem applyChanges_frame (changes : List ForeignChange) (s : State) :
    (Inoperative (applyChanges s changes) ↔ Inoperative s) ∧
      (applyChanges s changes).drained = s.drained := by
  induction changes generalizing s with
  | nil => exact ⟨Iff.rfl, rfl⟩
  | cons change rest ih =>
    obtain ⟨hinop, hdrained⟩ := applyChange_frame change s
    obtain ⟨hinop', hdrained'⟩ := ih (applyChange s change.1)
    exact ⟨hinop'.trans hinop, hdrained'.trans hdrained⟩

/-! ## One run of `processError` -/

@[simp] theorem drained_push (s : State) (event : ErrorHandlingEvents) :
    (s.push event).drained = handleEvent s.drained event := by
  simp [drained, push]

theorem preventsCharging_congr
    (hother : ∀ interface, interface ≠ .evse → s'.active interface = s.active interface)
    (hevse : ∀ e, e.type ≠ inoperativeType → (e ∈ s'.active .evse ↔ e ∈ s.active .evse))
    (e : Error) : PreventsCharging cfg s' e ↔ PreventsCharging cfg s e := by
  refine exists_congr fun interface => and_congr_right fun _ => ?_
  by_cases hi : interface = .evse
  · subst hi
    refine and_congr_left fun hignored => hevse e fun h => ?_
    exact hignored (by rw [h]; exact mem_singleton.mpr rfl)
  · rw [hother interface hi]

variable (cfg)

theorem raiseInoperativeError_spec (causedBy : Error) (s : State) :
    (∀ e, PreventsCharging cfg (raiseInoperativeError cfg s causedBy) e ↔
      PreventsCharging cfg s e) ∧
    Inoperative (raiseInoperativeError cfg s causedBy) ∧
    (Inoperative s → (raiseInoperativeError cfg s causedBy).drained = s.drained) ∧
    (¬ Inoperative s → (raiseInoperativeError cfg s causedBy).drained =
      if causedBy.severity = .high then .emergencyShutdown else .errorShutdown) := by
  unfold raiseInoperativeError
  by_cases hinop : s.isErrorActive .evse inoperativeType "" = true
  · rw [if_pos hinop]
    exact ⟨fun _ => Iff.rfl, hinop, fun _ => rfl, fun h => absurd hinop h⟩
  · rw [if_neg hinop]
    have hnew : ¬ s.isErrorActive .evse (inoperativeError cfg causedBy).type
        (inoperativeError cfg causedBy).subType = true := hinop
    have hraise : s.raiseError .evse (s.active .evse).length (inoperativeError cfg causedBy) =
        s.setActive .evse
          ((s.active .evse).insertIdx (s.active .evse).length (inoperativeError cfg causedBy)) := by
      unfold raiseError
      rw [if_neg hnew, Nat.min_self]
    rw [hraise]
    refine ⟨fun e => ?_, ?_, fun h => absurd h hinop, fun _ => ?_⟩
    · refine preventsCharging_congr (fun i hi => ?_) (fun e he => ?_) e
      · simp [push, setActive, update_of_ne hi]
      · have hne : e ≠ inoperativeError cfg causedBy := fun h => he (by rw [h]; rfl)
        simp [push, setActive, hne]
    · unfold Inoperative
      rw [isErrorActive_iff]
      refine ⟨inoperativeError cfg causedBy, ?_, rfl, rfl⟩
      simp [push, setActive]
    · rw [drained_push]
      split <;> rfl

theorem clearInoperativeError_spec (s : State) :
    (∀ e, PreventsCharging cfg (clearInoperativeError s) e ↔ PreventsCharging cfg s e) ∧
    ¬ Inoperative (clearInoperativeError s) ∧
    (Inoperative s → (clearInoperativeError s).drained = .none) ∧
    (¬ Inoperative s → (clearInoperativeError s).drained = s.drained) := by
  unfold clearInoperativeError
  by_cases hinop : s.isErrorActive .evse inoperativeType "" = true
  · rw [if_pos hinop]
    refine ⟨fun e => ?_, fun h => ?_, fun _ => by rw [drained_push]; rfl, fun h => absurd hinop h⟩
    · refine preventsCharging_congr (fun i hi => ?_) (fun e he => ?_) e
      · simp [push, clearError, setActive, update_of_ne hi]
      · simp [push, clearError, setActive, he]
    · unfold Inoperative at h
      rw [isErrorActive_iff] at h
      obtain ⟨e, he, htype, hsub⟩ := h
      simp [push, clearError, setActive, htype, hsub] at he
  · rw [if_neg hinop]
    exact ⟨fun _ => Iff.rfl, hinop, fun h => absurd h hinop, fun _ => rfl⟩

theorem errorCount_pos (h : Inoperative s) : errorCount cfg s ≠ 0 := by
  obtain ⟨e, he, -⟩ := isErrorActive_iff.mp h
  have hpos : 0 < (s.active .evse).length := length_pos_of_mem he
  simp only [errorCount, countedInterfaces, map_cons, sum_cons, Config.present, if_true]
  omega

/-- **One run of `processError`.** The errors preventing charging stay as they
are and `Inoperative` follows them. If there are any and `Inoperative` was not
active, the severity of the first one found decides the shutdown; if it was, the
shutdown type stays; without any, it becomes `none`. -/
theorem processError_spec (s : State) :
    (∀ e, PreventsCharging cfg (processError cfg s) e ↔ PreventsCharging cfg s e) ∧
    (Inoperative (processError cfg s) ↔ ∃ e, PreventsCharging cfg s e) ∧
    (∀ first, errorsPreventCharging cfg s = some first →
      (Inoperative s → (processError cfg s).drained = s.drained) ∧
      (¬ Inoperative s → (processError cfg s).drained =
        if first.severity = .high then .emergencyShutdown else .errorShutdown)) ∧
    (errorsPreventCharging cfg s = none → (Inoperative s ∨ s.drained = .none) →
      (processError cfg s).drained = .none) := by
  unfold processError
  cases hfatal : errorsPreventCharging cfg s with
  | some first =>
    obtain ⟨hprev, hinop, hkept, hraised⟩ := raiseInoperativeError_spec cfg first s
    simp only [if_neg (errorCount_pos cfg hinop)]
    refine ⟨hprev, ⟨fun _ => ⟨first, errorsPreventCharging_sound hfatal⟩, fun _ => hinop⟩,
      fun e he => ?_, fun h => absurd h (by simp)⟩
    obtain rfl := Option.some.inj he
    exact ⟨hkept, hraised⟩
  | none =>
    obtain ⟨hprev, hinop, hcleared, hkept⟩ := clearInoperativeError_spec cfg s
    have hnone : (Inoperative s ∨ s.drained = .none) →
        (clearInoperativeError s).drained = .none := by
      intro h
      by_cases hs : Inoperative s
      · exact hcleared hs
      · exact (hkept hs).trans (h.resolve_left hs)
    have hfree := iff_of_false hinop (not_exists.mpr (errorsPreventCharging_none hfatal))
    simp only
    split
    · exact ⟨hprev, hfree, nofun, fun _ _ => by rw [drained_push]; rfl⟩
    · exact ⟨hprev, hfree, nofun, fun _ => hnone⟩

/-! ## Runs -/

/-- The step keeps the shutdown type at the worst active error: if errors prevent
charging after the changes, then either some did before and one of severity High
is active as it was before, or none did and the first one found has severity High
exactly if any has. -/
def WorstFirst (s : State) : Label → Prop
  | .drain => True
  | .changes changes =>
    ∀ first, errorsPreventCharging cfg (applyChanges s changes) = some first →
      if (errorsPreventCharging cfg s).isSome then
        (HighPrevents cfg (applyChanges s changes) ↔ HighPrevents cfg s)
      else (first.severity = .high ↔ HighPrevents cfg (applyChanges s changes))

/-- Between runs `Inoperative` is active exactly while errors prevent charging. -/
def InoperativeFollows (s : State) : Prop :=
  Inoperative s ↔ ∃ e, PreventsCharging cfg s e

variable {cfg}

theorem step_inoperativeFollows (label : Label) (hs : InoperativeFollows cfg s) :
    InoperativeFollows cfg (step cfg s label) := by
  cases label with
  | drain => exact hs
  | changes changes =>
    obtain ⟨hprev, hinop, -⟩ := processError_spec cfg (applyChanges s changes)
    exact hinop.trans (exists_congr fun e => (hprev e).symm)

/-- One change of the errors. -/
theorem step_reflectsWorst_iff (label : Label) (hs : InoperativeFollows cfg s)
    (hworst : ReflectsWorst cfg s) :
    ReflectsWorst cfg (step cfg s label) ↔ WorstFirst cfg s label := by
  cases label with
  | drain => exact ⟨fun _ => trivial, fun _ => ⟨hworst.none_iff, hworst.emergency_iff⟩⟩
  | changes changes =>
    obtain ⟨hinopFrame, hdrained⟩ := applyChanges_frame changes s
    obtain ⟨hprev, -, hsome, hnone⟩ := processError_spec cfg (applyChanges s changes)
    have hany : (∃ e, PreventsCharging cfg (processError cfg (applyChanges s changes)) e) ↔
        ∃ e, PreventsCharging cfg (applyChanges s changes) e := exists_congr hprev
    have hhigh : HighPrevents cfg (processError cfg (applyChanges s changes)) ↔
        HighPrevents cfg (applyChanges s changes) :=
      exists_congr fun e => and_congr_left fun _ => hprev e
    have hiff : ReflectsWorst cfg (processError cfg (applyChanges s changes)) ↔
        ((processError cfg (applyChanges s changes)).drained = .none ↔
          ¬ ∃ e, PreventsCharging cfg (applyChanges s changes) e) ∧
        ((processError cfg (applyChanges s changes)).drained = .emergencyShutdown ↔
          HighPrevents cfg (applyChanges s changes)) := by
      rw [← hany, ← hhigh]
      exact ⟨fun h => ⟨h.none_iff, h.emergency_iff⟩, fun h => ⟨h.1, h.2⟩⟩
    simp only [step, WorstFirst]
    rw [hiff]
    cases hfatal : errorsPreventCharging cfg (applyChanges s changes) with
    | none =>
      have hempty := errorsPreventCharging_none hfatal
      have hbefore : Inoperative (applyChanges s changes) ∨
          (applyChanges s changes).drained = .none := by
        rw [hinopFrame, hdrained, hworst.none_iff]
        by_cases h : ∃ e, PreventsCharging cfg s e
        · exact .inl (hs.mpr h)
        · exact .inr h
      have hhighFalse : ¬ HighPrevents cfg (applyChanges s changes) := fun ⟨e, he, _⟩ => hempty e he
      simp [hnone hfatal hbefore, hempty, hhighFalse]
    | some first =>
      have hexists : ∃ e, PreventsCharging cfg (applyChanges s changes) e :=
        ⟨first, errorsPreventCharging_sound hfatal⟩
      obtain ⟨hkept, hraised⟩ := hsome first hfatal
      simp only [Option.some.injEq, forall_eq']
      by_cases hbefore : ∃ e, PreventsCharging cfg s e
      · -- already shut down: the type stays
        rw [if_pos (errorsPreventCharging_isSome_iff.mpr hbefore),
          hkept (hinopFrame.mpr (hs.mpr hbefore)), hdrained, hworst.none_iff,
          hworst.emergency_iff]
        simp [hbefore, hexists, iff_comm]
      · -- charging just became impossible: the first error decides
        have hfalse : ¬ (errorsPreventCharging cfg s).isSome = true :=
          fun h => hbefore (errorsPreventCharging_isSome_iff.mp h)
        rw [if_neg hfalse, hraised (fun h => hbefore (hs.mp (hinopFrame.mp h)))]
        by_cases hsev : first.severity = .high <;> simp [hsev, hexists]

/-- **The shutdown type reflects the worst active error exactly in the runs in
which every `processError` finds the worst error first and no later change raises
or clears the last error of severity High beside others.** -/
theorem shutdown_type_reflects_worst_error_iff (cfg : Config) (labels : List Label) :
    Always (step cfg) (ReflectsWorst cfg) {} labels ↔
      Along (step cfg) (WorstFirst cfg) {} labels := by
  have hempty : ∀ e, ¬ PreventsCharging cfg {} e := by
    rintro e ⟨interface, -, he, -⟩
    exact absurd he (by simp)
  have hinit : InoperativeFollows cfg {} :=
    ⟨fun h => absurd h (by simp [Inoperative, isErrorActive]), fun ⟨e, he⟩ => absurd he (hempty e)⟩
  have hworst : ReflectsWorst cfg {} :=
    ⟨⟨fun _ ⟨e, he⟩ => hempty e he, fun _ => rfl⟩,
      ⟨fun h => by simp [drained] at h, fun ⟨e, he, _⟩ => absurd he (hempty e)⟩⟩
  exact always_iff_along (fun _ label hs _ _ => step_inoperativeFollows label hs)
    (fun _ label hs hw => step_reflectsWorst_iff label hs hw) labels hinit hworst

/-- **`Inoperative` is active exactly while an error prevents charging**, after any changes of
the errors. -/
theorem inoperative_follows (cfg : Config) (labels : List Label) :
    InoperativeFollows cfg (run (step cfg) {} labels) := by
  refine invariant_run (fun _ label h => step_inoperativeFollows label h) labels ?_
  exact iff_of_false (by simp [Inoperative, State.isErrorActive]) (by simp [PreventsCharging])

/-! ## The EVSE manager's own errors -/

namespace EvseError

variable (kind : EvseError)

def raiseChange (cfg : Config) (position : Nat) (message : String) : ForeignChange :=
  ⟨.raise .evse position (kind.create cfg message), fun _ => kind.own⟩

def clearChange : ForeignChange := ⟨.clear .evse kind.type kind.subType, fun _ => kind.own⟩

theorem raise_eq_step (cfg : Config) (position : Nat) (message : String) (s : State) :
    kind.raise cfg position message s =
      step cfg s (.changes [kind.raiseChange cfg position message]) := rfl

theorem clearError_of_not_active {interface : Interface} {type subType : String}
    (h : ¬ s.isErrorActive interface type subType = true) :
    s.clearError interface type subType = s := by
  have hfilter : (s.active interface).filter
      (fun e => !(e.type == type && e.subType == subType)) = s.active interface := by
    refine filter_eq_self.mpr fun e he => ?_
    rw [Bool.not_eq_true', Bool.eq_false_iff]
    exact fun hmatch => h (any_eq_true.mpr ⟨e, he, hmatch⟩)
  unfold clearError setActive
  rw [hfilter, update_eq_self]

theorem clearAndProcess_eq_step (cfg : Config) (s : State) :
    kind.clearAndProcess cfg s = step cfg s (.changes [kind.clearChange]) := by
  unfold clearAndProcess
  split
  · rfl
  · rename_i h
    rw [show step cfg s (.changes [kind.clearChange]) =
      processError cfg (s.clearError .evse kind.type kind.subType) from rfl,
      clearError_of_not_active h]

theorem clear_eq_step (cfg : Config) (s : State) :
    kind.clear cfg s = step cfg s (.changes [kind.clearChange]) ∨ kind.clear cfg s = s := by
  unfold clear
  split
  · exact .inl rfl
  · exact .inr rfl

end EvseError

def fullConfig : Config where
  connected := fun _ => true
  inoperativeErrorUseVendorId := false
  typeDescription := fun _ => ""

/-- An authorization timeout, then an over current on top of it. -/
def overCurrentAfterTimeout : List Label :=
  [.changes [authorizationTimeout.raiseChange fullConfig 0 ""],
    .changes [overCurrent.raiseChange fullConfig 0 ""]]

/-- The over current is of severity High, yet the charger is left at an error
shutdown. -/
theorem over_current_after_timeout_is_no_emergency :
    (run (step fullConfig) {} overCurrentAfterTimeout).drained = .errorShutdown ∧
      HighPrevents fullConfig (run (step fullConfig) {} overCurrentAfterTimeout) ∧
      ¬ Always (step fullConfig) (ReflectsWorst fullConfig) {} overCurrentAfterTimeout := by
  have hdrained : (run (step fullConfig) {} overCurrentAfterTimeout).drained =
      .errorShutdown := by decide
  have hhigh : HighPrevents fullConfig (run (step fullConfig) {} overCurrentAfterTimeout) :=
    ⟨overCurrent.create fullConfig "", ⟨.evse, rfl, by decide, by decide⟩, rfl⟩
  refine ⟨hdrained, hhigh, fun h => ?_⟩
  have hworst := h.last
  have hemergency := hworst.emergency_iff.mpr hhigh
  exact absurd hemergency (by decide)

end EverestCore.Evse
