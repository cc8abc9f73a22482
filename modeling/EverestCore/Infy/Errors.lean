import EverestCore.Infy.Device

/-!
# Errors shown and errors present

Alarms are signalled when a bit of a module changes. Several bits stand for one error type,
all modules share the error types, and a module can expire while an alarm is set.

**Main result**: `errors_shown_iff`.
-/

namespace EverestCore.Infy

open EverestCore.Lib PowerSupply Std List Function Option

/-! ## Alarms present -/

variable (status : PowerModuleStatus)

/-- A set bit stands for the error type. -/
def Shows (type : ErrorType) : Prop :=
  ∃ check ∈ statusChecks, check.1 status = true ∧ mapInfyErrorToPowerSupplyDc check.2 = type
deriving Decidable

/-- Some module shows the error. -/
def Present (telemetries : TelemetryMap) (type : ErrorType) : Prop :=
  ∃ (a : Nat) (t : Telemetry), telemetries[a]? = some t ∧ Shows t.status type

def PresentElsewhere (telemetries : TelemetryMap) (a : Nat) (type : ErrorType) : Prop :=
  ∃ (b : Nat) (t : Telemetry), b ≠ a ∧ telemetries[b]? = some t ∧ Shows t.status type

/-- There were modules, and all of them have expired. -/
def AllExpired (w : PowerSupply) : Prop :=
  w.telemetries.isEmpty = true ∧ w.expired ≠ []

def ErrorsShown (w : PowerSupply) : Prop :=
  ∀ type, w.errors type = true ↔
    Present w.telemetries type ∨ (type = .communicationFault ∧ AllExpired w)

theorem not_shows_default (type : ErrorType) : ¬ Shows {} type := by
  cases type <;> decide

theorem not_present_of_isEmpty {telemetries : TelemetryMap} (h : telemetries.isEmpty = true)
    (type : ErrorType) : ¬ Present telemetries type := by
  rintro ⟨a, t, hget, -⟩
  exact TreeMap.isEmpty_iff_forall_not_mem.mp h a
    (TreeMap.mem_iff_isSome_getElem?.mpr (by rw [hget]; rfl))

variable {type : ErrorType}

theorem present_insert_iff {telemetries : TelemetryMap} {a : Nat} {t : Telemetry} :
    Present (telemetries.insert a t) type ↔
      Shows t.status type ∨ PresentElsewhere telemetries a type := by
  constructor
  · rintro ⟨b, t', hget, hshows⟩
    rw [TreeMap.getElem?_insert] at hget
    split at hget
    · cases hget
      exact .inl hshows
    · rename_i hne
      exact .inr ⟨b, t', fun h => hne (h ▸ ReflCmp.compare_self), hget, hshows⟩
  · rintro (hshows | ⟨b, t', hne, hget, hshows⟩)
    · exact ⟨a, t, TreeMap.getElem?_insert_self, hshows⟩
    · refine ⟨b, t', ?_, hshows⟩
      rw [TreeMap.getElem?_insert, if_neg fun h => hne (LawfulEqCmp.eq_of_compare h).symm]
      exact hget

theorem present_iff (w : PowerSupply) (a : Nat) (type : ErrorType) :
    Present w.telemetries type ↔
      Shows (w.telemetry a).status type ∨ PresentElsewhere w.telemetries a type := by
  rw [telemetry, TreeMap.getD_eq_getD_getElem?]
  constructor
  · rintro ⟨b, t, hget, hshows⟩
    by_cases hb : b = a
    · subst hb
      rw [hget]
      exact .inl hshows
    · exact .inr ⟨b, t, hb, hget, hshows⟩
  · rintro (hshows | ⟨b, t, -, hget, hshows⟩)
    · cases hget : w.telemetries[a]? with
      | none =>
        rw [hget] at hshows
        exact absurd hshows (not_shows_default type)
      | some t =>
        rw [hget] at hshows
        exact ⟨a, t, hget, hshows⟩
    · exact ⟨b, t, hget, hshows⟩

/-! ## The last change of an error type -/

variable (newStatus oldStatus : PowerModuleStatus)

def changeOf (type : ErrorType)
    (check : (PowerModuleStatus → Bool) × DeviceError) : Option Bool :=
  if mapInfyErrorToPowerSupplyDc check.2 = type ∧ check.1 newStatus ≠ check.1 oldStatus then
    some (check.1 newStatus)
  else none

/-- The last of several bits decides. -/
def lastChange
    (checks : List ((PowerModuleStatus → Bool) × DeviceError)) (type : ErrorType) : Option Bool :=
  checks.reverse.findSome? (changeOf newStatus oldStatus type)

theorem errorsAfter_eq
    (checks : List ((PowerModuleStatus → Bool) × DeviceError)) (errors : ErrorType → Bool)
    (type : ErrorType) :
    errorsAfter newStatus oldStatus checks errors type =
      (lastChange newStatus oldStatus checks type).getD (errors type) := by
  induction checks generalizing errors with
  | nil => rfl
  | cons check rest ih =>
    -- the checks that follow have the last word
    have hfirst : (if check.1 newStatus ≠ check.1 oldStatus then
          update errors (mapInfyErrorToPowerSupplyDc check.2) (check.1 newStatus)
        else errors) type =
        (changeOf newStatus oldStatus type check).getD (errors type) := by
      unfold changeOf
      by_cases htype : mapInfyErrorToPowerSupplyDc check.2 = type
      · subst htype
        split <;> simp_all
      · have hother : ¬ (mapInfyErrorToPowerSupplyDc check.2 = type ∧
            check.1 newStatus ≠ check.1 oldStatus) := fun h => htype h.1
        rw [if_neg hother]
        split
        · exact update_of_ne (Ne.symm htype) _ _
        · rfl
    rw [errorsAfter, foldl_cons, ← errorsAfter, ih, hfirst, lastChange, lastChange,
      reverse_cons, findSome?_append]
    cases rest.reverse.findSome? (changeOf newStatus oldStatus type) with
    | some value => rfl
    | none => simp

variable {newStatus oldStatus : PowerModuleStatus}

theorem shows_of_lastChange_true
    (h : lastChange newStatus oldStatus statusChecks type = some true) :
    Shows newStatus type := by
  obtain ⟨check, hmem, hchange⟩ := exists_of_findSome?_eq_some h
  rw [mem_reverse] at hmem
  unfold changeOf at hchange
  split at hchange
  · rename_i hcheck
    exact ⟨check, hmem, some.inj hchange, hcheck.1⟩
  · cases hchange

theorem shows_iff_of_lastChange_none (h : lastChange newStatus oldStatus statusChecks type = none) :
    Shows newStatus type ↔ Shows oldStatus type := by
  have hsame : ∀ check ∈ statusChecks, mapInfyErrorToPowerSupplyDc check.2 = type →
      check.1 newStatus = check.1 oldStatus := by
    intro check hmem htype
    have hnone := findSome?_eq_none_iff.mp h check (mem_reverse.mpr hmem)
    unfold changeOf at hnone
    split at hnone
    · cases hnone
    · rename_i hcheck
      exact by_contra fun hne => hcheck ⟨htype, hne⟩
  constructor
  · rintro ⟨check, hmem, hset, htype⟩
    exact ⟨check, hmem, hsame check hmem htype ▸ hset, htype⟩
  · rintro ⟨check, hmem, hset, htype⟩
    exact ⟨check, hmem, (hsame check hmem htype).symm ▸ hset, htype⟩

/-! ## The steps that keep the errors -/

/-- A status frame clears an error type only if no other bit and no other module shows it,
and the first frame after all modules have expired reports an interrupted communication. -/
def StatusKeepsErrors (w : PowerSupply) (sourceAddress : Nat) (status : PowerModuleStatus) : Prop :=
  (∀ type,
    lastChange status (w.telemetry sourceAddress).status statusChecks type = some false →
      ¬ Shows status type ∧ ¬ PresentElsewhere w.telemetries sourceAddress type) ∧
  (AllExpired w → status.communicationInterruptAlarm = true)

def KeepsErrors (cfg : Config) (w : PowerSupply) : Event → Prop
  | .frame _ (.readModuleCount _) _ => True
  | .frame sourceAddress (.powerModuleStatus status0 status1 status2) _ =>
    StatusKeepsErrors w sourceAddress (.ofRaw status0 status1 status2)
  -- any other frame gives its sender an entry without alarms
  | .frame _ _ _ => ¬ AllExpired w
  -- what an expired module showed is shown by another one, and no module that is left
  -- reports an interrupted communication
  | .poll now =>
    (∀ type, type ≠ .communicationFault → Present w.telemetries type →
      Present (dropExpired cfg w now).telemetries type) ∧
    ((dropExpired cfg w now).telemetries.isEmpty = false →
      ¬ Present (dropExpired cfg w now).telemetries .communicationFault)
  | .setMode _ _ => True
  | .setExportVoltageCurrent _ _ => True

theorem errorsShown_signalVoltageCurrent_iff (w : PowerSupply) :
    ErrorsShown w.signalVoltageCurrent ↔ ErrorsShown w := by
  obtain ⟨_, _, h⟩ := signalVoltageCurrent_eq w
  rw [h]
  exact Iff.rfl

variable (cfg : Config)

variable (w : PowerSupply)

theorem errorsShown_capabilitiesUpdate_iff :
    ErrorsShown (signalCapabilitiesUpdate cfg w) ↔ ErrorsShown w := by
  obtain ⟨-, _, hupdate⟩ | ⟨-, _, _, hupdate | hupdate⟩ := signalCapabilitiesUpdate_cases cfg w
  · rw [hupdate]
    exact Iff.rfl
  · rw [hupdate]
    exact Iff.rfl
  · rw [hupdate, restore_eq]
    exact Iff.rfl

/-! ### Frames -/

theorem not_allExpired_setTelemetry (a : Nat) (t : Telemetry) :
    ¬ AllExpired (w.setTelemetry a t) := by
  rintro ⟨hempty, -⟩
  rw [setTelemetry, TreeMap.isEmpty_insert] at hempty
  cases hempty

theorem errorsShown_setTelemetry_iff (a : Nat) (t : Telemetry) :
    ErrorsShown (w.setTelemetry a t) ↔
      ∀ type, w.errors type = true ↔
        Shows t.status type ∨ PresentElsewhere w.telemetries a type := by
  refine forall_congr' fun type => ?_
  rw [setTelemetry, present_insert_iff, or_iff_left fun h => not_allExpired_setTelemetry w a t h.2]

variable {w : PowerSupply}

theorem errorsShown_sameStatus_iff (h : ErrorsShown w) (a : Nat) {t : Telemetry}
    (ht : t.status = (w.telemetry a).status) :
    ErrorsShown (w.setTelemetry a t) ↔ ¬ AllExpired w := by
  rw [errorsShown_setTelemetry_iff, ht]
  simp only [← present_iff]
  constructor
  · intro h' hexpired
    -- the communication fault is still active
    have hactive := (h .communicationFault).mpr (.inr ⟨rfl, hexpired⟩)
    exact not_present_of_isEmpty hexpired.1 _ ((h' .communicationFault).mp hactive)
  · intro hexpired type
    rw [h type]
    exact or_iff_left fun h => hexpired h.2

theorem shows_communicationFault_iff :
    Shows status .communicationFault ↔ status.communicationInterruptAlarm = true := by
  simp [Shows, statusChecks, mapInfyErrorToPowerSupplyDc]

theorem telemetry_of_allExpired (h : AllExpired w) (a : Nat) : w.telemetry a = {} := by
  rw [telemetry, TreeMap.getD_of_isEmpty h.1]

theorem lastChange_default_ne_false (type : ErrorType) :
    lastChange status {} statusChecks type ≠ some false := by
  intro h
  obtain ⟨check, hmem, hchange⟩ := exists_of_findSome?_eq_some h
  rw [mem_reverse] at hmem
  have hold : check.1 {} = false :=
    Bool.eq_false_of_not_eq_true fun hset => not_shows_default _ ⟨check, hmem, hset, rfl⟩
  unfold changeOf at hchange
  split at hchange
  · rename_i hcheck
    exact hcheck.2 ((some.inj hchange).trans hold.symm)
  · cases hchange

theorem errorsShown_status_iff (h : ErrorsShown w) (a : Nat) (status : PowerModuleStatus) :
    (∀ type, errorsAfter status (w.telemetry a).status statusChecks w.errors type = true ↔
        Shows status type ∨ PresentElsewhere w.telemetries a type) ↔
      StatusKeepsErrors w a status := by
  constructor
  · intro hafter
    refine ⟨fun type hcleared => ?_, fun hexpired => ?_⟩
    · have hinactive := hafter type
      rw [errorsAfter_eq, hcleared, getD_some] at hinactive
      exact not_or.mp (mt hinactive.mpr (by decide))
    · -- the fault was active; if it stays active, the new status shows it
      have hcomm := hafter .communicationFault
      rw [or_iff_left fun ⟨b, t, _, hget, hshows⟩ =>
          not_present_of_isEmpty hexpired.1 _ ⟨b, t, hget, hshows⟩,
        shows_communicationFault_iff, errorsAfter_eq] at hcomm
      have hactive := (h .communicationFault).mpr (.inr ⟨rfl, hexpired⟩)
      refine hcomm.mp ?_
      rw [hactive, telemetry_of_allExpired hexpired]
      cases hchange : lastChange status {} statusChecks .communicationFault with
      | none => rfl
      | some raised =>
        cases raised with
        | true => rfl
        | false => exact absurd hchange (lastChange_default_ne_false status _)
  · rintro ⟨hcleared, hexpired⟩ type
    rw [errorsAfter_eq]
    cases hchange : lastChange status (w.telemetry a).status statusChecks type with
    | some raised =>
      cases raised with
      | true => exact iff_of_true rfl (.inl (shows_of_lastChange_true hchange))
      | false =>
        rw [getD_some]
        exact iff_of_false (by decide) (not_or.mpr (hcleared type hchange))
    | none =>
      -- no bit for this error type has changed
      rw [shows_iff_of_lastChange_none hchange, ← present_iff, getD_none, h type]
      refine or_iff_left ?_
      rintro ⟨rfl, hall⟩
      rw [telemetry_of_allExpired hall] at hchange
      have hshows := (shows_communicationFault_iff status).mpr (hexpired hall)
      exact not_shows_default _ ((shows_iff_of_lastChange_none hchange).mp hshows)

/-! ### Polls -/

theorem getElem?_dropExpired (w : PowerSupply) (now : Int) (a : Nat) (t : Telemetry) :
    (dropExpired cfg w now).telemetries[a]? = some t ↔
      w.telemetries[a]? = some t ∧ isExpired cfg now t = false := by
  simp [dropExpired]

variable {now : Int}

theorem present_of_dropExpired {cfg : Config}
    (h : Present (dropExpired cfg w now).telemetries type) : Present w.telemetries type := by
  obtain ⟨a, t, hget, hshows⟩ := h
  exact ⟨a, t, ((getElem?_dropExpired cfg w now a t).mp hget).1, hshows⟩

theorem getElem?_dropExpired_of_none {cfg : Config} (hnone : expiredAddresses cfg w now = [])
    {a : Nat} {t : Telemetry} (hget : w.telemetries[a]? = some t) :
    (dropExpired cfg w now).telemetries[a]? = some t := by
  refine (getElem?_dropExpired cfg w now a t).mpr ⟨hget, ?_⟩
  have hfilter := filter_eq_nil_iff.mp (map_eq_nil_iff.mp hnone) (a, t)
    (TreeMap.mem_toList_iff_getElem?_eq_some.mpr hget)
  exact Bool.eq_false_of_not_eq_true hfilter

theorem present_dropExpired_of_none {cfg : Config} (hnone : expiredAddresses cfg w now = [])
    (h : Present w.telemetries type) : Present (dropExpired cfg w now).telemetries type := by
  obtain ⟨a, t, hget, hshows⟩ := h
  exact ⟨a, t, getElem?_dropExpired_of_none hnone hget, hshows⟩

theorem isEmpty_of_dropExpired {cfg : Config} (hnone : expiredAddresses cfg w now = [])
    (hempty : (dropExpired cfg w now).telemetries.isEmpty = true) :
    w.telemetries.isEmpty = true := by
  refine TreeMap.isEmpty_iff_forall_not_mem.mpr fun a ha => ?_
  obtain ⟨t, hget⟩ := isSome_iff_exists.mp (TreeMap.mem_iff_isSome_getElem?.mp ha)
  have hkept : (dropExpired cfg w now).telemetries[a]?.isSome := by
    rw [getElem?_dropExpired_of_none hnone hget]
    rfl
  exact TreeMap.isEmpty_iff_forall_not_mem.mp hempty a (TreeMap.mem_iff_isSome_getElem?.mpr hkept)

/-- A poll that fixes the state of the communication fault keeps the errors if no other
error was shown by expired modules only, and a cleared communication fault is not shown. -/
theorem errorsShown_after_poll_iff {w v : PowerSupply} (h : ErrorsShown w) {active : Bool}
    (herrors : v.errors = Function.update w.errors .communicationFault active)
    (hall : AllExpired v ↔ active = true)
    (hsub : ∀ type, Present v.telemetries type → Present w.telemetries type) :
    ErrorsShown v ↔
      (∀ type, type ≠ .communicationFault → Present w.telemetries type →
        Present v.telemetries type) ∧
      (active = false → ¬ Present v.telemetries .communicationFault) := by
  have hpresent : ∀ type, type ≠ .communicationFault →
      (w.errors type = true ↔ Present w.telemetries type) := by
    intro type htype
    rw [h type]
    exact or_iff_left fun h => htype h.1
  unfold ErrorsShown
  rw [herrors, hall]
  constructor
  · intro hafter
    refine ⟨fun type htype hwas => ?_, fun hactive hcomm => ?_⟩
    · have hshown := hafter type
      rw [update_of_ne htype, hpresent type htype] at hshown
      exact (hshown.mp hwas).resolve_right fun h => htype h.1
    · have hshown := (hafter .communicationFault).mpr (.inl hcomm)
      rw [update_self, hactive] at hshown
      cases hshown
  · rintro ⟨hkept, hcomm⟩ type
    by_cases htype : type = .communicationFault
    · subst htype
      rw [update_self]
      cases active with
      | true => exact iff_of_true rfl (.inr ⟨rfl, rfl⟩)
      | false =>
        refine iff_of_false (by decide) (not_or.mpr ⟨hcomm rfl, ?_⟩)
        rintro ⟨-, h⟩
        cases h
    · rw [update_of_ne htype, hpresent type htype, or_iff_left fun h => htype h.1]
      exact ⟨hkept type htype, hsub type⟩

theorem errorsShown_removeExpired_iff (h : ErrorsShown w) (now : Int) :
    ErrorsShown (removeExpiredTelemetryEntries cfg w now) ↔ KeepsErrors cfg w (.poll now) := by
  obtain ⟨hgone, hempty, _, hremove⟩ | ⟨hne, _, hremove⟩ | ⟨hgone, hempty, hremove⟩ :=
    removeExpiredTelemetryEntries_cases cfg w now
  all_goals rw [hremove]
  · -- the last module has expired
    have hexpired : (expiredAddresses cfg w now).reverse ++ w.expired ≠ [] := by simp [hgone]
    refine Iff.trans (errorsShown_after_poll_iff h rfl ?_ ?_) (and_congr_right fun _ => ?_)
    · exact iff_of_true ⟨hempty, hexpired⟩ rfl
    · exact fun _ => present_of_dropExpired
    · simp [hempty]
  · -- some module is left
    refine Iff.trans (errorsShown_after_poll_iff h rfl ?_ ?_) (and_congr_right fun _ => ?_)
    · refine iff_of_false (fun hall => ?_) Bool.false_ne_true
      exact Bool.false_ne_true (hne.symm.trans hall.1)
    · exact fun _ => present_of_dropExpired
    · simp [hne]
  · -- no module has expired, and there is none
    have hbefore := isEmpty_of_dropExpired hgone hempty
    have hexpired : (dropExpired cfg w now).expired = w.expired := by simp [dropExpired, hgone]
    refine iff_of_true (fun type => ?_)
      ⟨fun _ _ => present_dropExpired_of_none hgone,
        fun hne => absurd (hempty.symm.trans hne) (by decide)⟩
    rw [show (dropExpired cfg w now).errors = w.errors from rfl, h type, AllExpired, AllExpired,
      hexpired, hempty, hbefore]
    exact or_congr_left ⟨present_dropExpired_of_none hgone, present_of_dropExpired⟩

/-! ## Runs -/

theorem errorsShown_frame_iff (h : ErrorsShown w) (sourceAddress : Nat) (packet : Packet)
    (now : Int) :
    ErrorsShown (rxHandler cfg w sourceAddress now packet) ↔
      KeepsErrors cfg w (.frame sourceAddress packet now) := by
  cases packet with
  | readModuleCount count =>
    refine iff_of_true ?_ trivial
    simp only [rxHandler, handleModuleCountPacket]
    cases cfg.operatingMode with
    | fixedAddress => exact h
    | groupDiscovery =>
      dsimp only
      split
      · exact h
      · rw [switchOnOff, sendCommands_eq]
        exact h
  | readModuleVI | readModuleVIAfterDiode =>
    exact (errorsShown_signalVoltageCurrent_iff _).trans
      (errorsShown_sameStatus_iff h sourceAddress rfl)
  | powerModuleStatus status0 status1 status2 =>
    rw [KeepsErrors, ← errorsShown_status_iff h]
    obtain ⟨_, _, hframe⟩ :=
      rxHandler_powerModuleStatus cfg w sourceAddress now status0 status1 status2
    rw [hframe, errorsShown_setTelemetry_iff]
  | readModuleCapabilities =>
    exact (errorsShown_capabilitiesUpdate_iff cfg _).trans
      (errorsShown_sameStatus_iff h sourceAddress rfl)
  | readModuleBarcode => exact errorsShown_sameStatus_iff h sourceAddress rfl

/-- One event. -/
theorem errorsShown_step_iff (h : ErrorsShown w) (event : Event) :
    ErrorsShown (step cfg w event) ↔ KeepsErrors cfg w event := by
  cases event with
  | setMode mode phase =>
    refine iff_of_true ?_ trivial
    show ErrorsShown (w.handleSetMode mode phase)
    rw [handleSetMode_eq]
    exact h
  | setExportVoltageCurrent voltage current =>
    refine iff_of_true ?_ trivial
    show ErrorsShown (w.handleSetExportVoltageCurrent voltage current)
    rw [handleSetExportVoltageCurrent_eq]
    exact h
  | frame sourceAddress packet now => exact errorsShown_frame_iff cfg h sourceAddress packet now
  | poll now =>
    obtain ⟨_, -, hpoll⟩ := pollStatusHandler_eq cfg w now
    rw [← errorsShown_removeExpired_iff cfg h now]
    show ErrorsShown (pollStatusHandler cfg w now) ↔ _
    rw [hpoll]
    show ErrorsShown (expireModules cfg w now) ↔ _
    unfold expireModules
    dsimp only
    split
    · rw [errorsShown_signalVoltageCurrent_iff, errorsShown_capabilitiesUpdate_iff]
    · exact Iff.rfl

theorem errorsShown_initialPing : ErrorsShown (initialPing cfg) := by
  have hstart : ErrorsShown { caps := cfg.initialCaps } := by
    intro type
    refine iff_of_false Bool.false_ne_true (not_or.mpr ⟨?_, fun h => h.2.2 rfl⟩)
    exact not_present_of_isEmpty rfl type
  obtain ⟨_, _, _, h⟩ := initialPing_eq cfg
  rw [h]
  exact hstart

/-- **The errors shown are the errors present.** Along a run this holds after every step
exactly if no status frame clears an error that another bit or another module still shows,
no module expires with an error that no other module shows, no module reports an
interrupted communication while a poll finds telemetry, and the first frame after all
modules have expired is a status frame that reports it. -/
theorem errors_shown_iff (cfg : Config) (events : List Event) :
    Always (step cfg) ErrorsShown (initialPing cfg) events ↔
      Along (step cfg) (KeepsErrors cfg) (initialPing cfg) events :=
  always_iff_along (I := fun _ => True) (fun _ _ _ _ _ => trivial)
    (fun _ event _ h => errorsShown_step_iff cfg h event) events trivial
    (errorsShown_initialPing cfg)

/-- Two modules are too hot, and one of them cools down: the error is cleared. -/
theorem alarm_of_other_module_is_cleared :
    ¬ Always (step groupConfig) ErrorsShown (initialPing groupConfig)
      [.frame 0 (.powerModuleStatus 0 16 0) 1, .frame 1 (.powerModuleStatus 0 16 0) 1,
        .frame 0 (.powerModuleStatus 0 0 0) 2] := by
  intro h
  have hactive := (h.last .overTemperature).mpr
    (.inl ⟨1, { status := .ofRaw 0 16 0, lastUpdate := 1 }, rfl, by decide⟩)
  exact absurd hactive (by decide)

end EverestCore.Infy
