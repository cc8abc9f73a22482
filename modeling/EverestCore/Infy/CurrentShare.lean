import EverestCore.Infy.Device

/-!
# The current of all modules together

A set point is divided by the number of modules listed at that moment. The shares that were
sent stay in force when the list changes: expired modules leave it, and their part is given
to the others; a module count frame lists them again without a new set point.

**Main result**: `commanded_current_within_limit_iff`. Only count frames matter.
-/

namespace EverestCore.Infy

open EverestCore.Lib PowerSupply List

/-! ## The last commanded current -/

def currentTo (a : Nat) : Command → Option Rat
  | .setModuleVI destination _ current => if destination = a then some current else none
  | _ => none

/-- The current a module was last sent. -/
def lastCurrent (sent : List Command) (a : Nat) : Rat :=
  (sent.findSome? (currentTo a)).getD 0

theorem lastCurrent_append_of_none {commands : List Command} {a : Nat}
    (h : ∀ command ∈ commands, currentTo a command = none) (sent : List Command) :
    lastCurrent (commands ++ sent) a = lastCurrent sent a := by
  rw [lastCurrent, findSome?_append, findSome?_eq_none_iff.mpr h, Option.none_or]
  rfl

theorem lastCurrent_setModuleOnOff (addrs : List Nat) (on : Bool) (sent : List Command) (a : Nat) :
    lastCurrent ((addrs.map fun addr => .setModuleOnOff addr on).reverse ++ sent) a =
      lastCurrent sent a := by
  refine lastCurrent_append_of_none (fun command hmem => ?_) sent
  rw [mem_reverse, mem_map] at hmem
  obtain ⟨_, -, rfl⟩ := hmem
  rfl

theorem lastCurrent_reads {reads : List Command} (h : ∀ command ∈ reads, isRead command = true)
    (sent : List Command) (a : Nat) : lastCurrent (reads ++ sent) a = lastCurrent sent a := by
  refine lastCurrent_append_of_none (fun command hmem => ?_) sent
  have hread := h command hmem
  cases command with
  | setModuleVI => cases hread
  | _ => rfl

theorem lastCurrent_setModuleVI (addrs : List Nat) (voltage current : Rat) (sent : List Command)
    (a : Nat) :
    lastCurrent ((addrs.map fun addr => .setModuleVI addr voltage current).reverse ++ sent) a =
      if a ∈ addrs then current else lastCurrent sent a := by
  split
  · rename_i ha
    rw [lastCurrent, findSome?_sent_to_all (a := a) (fun _ => rfl) ha sent, Option.getD_some]
  · rename_i ha
    refine lastCurrent_append_of_none (fun command hmem => ?_) sent
    rw [mem_reverse, mem_map] at hmem
    obtain ⟨addr, haddr, rfl⟩ := hmem
    have hne : addr ≠ a := fun h => ha (h ▸ haddr)
    exact if_neg hne

/-! ## The property -/

def currentOf (sent : List Command) (addrs : List Nat) : Rat :=
  (addrs.map (lastCurrent sent)).sum

theorem currentOf_congr {sent sent' : List Command}
    (h : ∀ a, lastCurrent sent a = lastCurrent sent' a) (addrs : List Nat) :
    currentOf sent addrs = currentOf sent' addrs :=
  congrArg sum (map_congr_left fun a _ => h a)

variable (w : PowerSupply)

/-- What the listed modules give together. -/
def commandedCurrent : Rat :=
  currentOf w.sent w.activeModuleAddresses

def WithinLimit : Prop :=
  commandedCurrent w ≤ w.exportCurrentLimit
deriving Decidable

/-- The steps that cannot exceed the limit. -/
def KeepsLimit (cfg : Config) (w : PowerSupply) : Event → Prop
  | .frame _ (.readModuleCount count) _ =>
    cfg.operatingMode = .groupDiscovery →
      currentOf w.sent (List.range count) ≤ w.exportCurrentLimit
  | _ => True

/-- No limit, capability or commanded current is negative. -/
structure Sound : Prop where
  limit : 0 ≤ w.exportCurrentLimit
  minCurrent : 0 ≤ w.caps.minExportCurrent
  maxCurrent : 0 ≤ w.caps.maxExportCurrent
  sent : ∀ a, 0 ≤ lastCurrent w.sent a
  telemetry : ∀ (a : Nat) (t : Telemetry), w.telemetries[a]? = some t → 0 ≤ t.dcMaxOutputCurrent

/-! ## Nothing becomes negative -/

variable {w : PowerSupply}

theorem Sound.clampedCurrent (h : Sound w) (current : Rat) : 0 ≤ w.clampedCurrent current := by
  unfold PowerSupply.clampedCurrent clamp
  split
  · exact h.maxCurrent
  split
  · exact h.minCurrent
  · rename_i hlow
    exact h.minCurrent.trans (not_lt.mp hlow)

/-- The currents of capabilities that are read before anything was written to them are not
negative. -/
structure Config.ReadsNonneg (cfg : Config) : Prop where
  minCurrent : 0 ≤ cfg.initialCaps.minExportCurrent
  maxCurrent : 0 ≤ cfg.initialCaps.maxExportCurrent
  freshMaxCurrent : ∀ n, 0 ≤ (cfg.freshCaps n).maxExportCurrent

theorem groupConfig_readsNonneg : groupConfig.ReadsNonneg :=
  ⟨le_refl 0, le_refl 0, fun _ => le_refl 0⟩

variable {cfg : Config} (hreads : cfg.ReadsNonneg)

include hreads in
theorem newCaps_nonneg
    (h : ∀ (a : Nat) (t : Telemetry), w.telemetries[a]? = some t → 0 ≤ t.dcMaxOutputCurrent) :
    0 ≤ (newCaps w cfg).minExportCurrent ∧ 0 ≤ (newCaps w cfg).maxExportCurrent := by
  simp only [newCaps, Std.TreeMap.foldl_eq_foldl_toList]
  -- the sum of the currents is built up module by module
  refine foldlRecOn w.telemetries.toList _
    (motive := fun caps : Capabilities =>
      0 ≤ caps.minExportCurrent ∧ 0 ≤ caps.maxExportCurrent)
    ⟨zero_le_one, hreads.freshMaxCurrent _⟩ ?_
  intro caps hcaps entry hmem
  have ht := h entry.1 entry.2 (Std.TreeMap.mem_toList_iff_getElem?_eq_some.mp hmem)
  unfold addCapabilities
  split
  · exact ⟨hcaps.1, add_nonneg hcaps.2 ht⟩
  · exact hcaps

variable (h : Sound w)

include h

theorem Sound.handleSetMode (mode : Mode) (phase : ChargingPhase) :
    Sound (w.handleSetMode mode phase) := by
  rw [handleSetMode_eq]
  refine { h with sent := fun a => ?_ }
  rw [lastCurrent_setModuleOnOff]
  exact h.sent a

theorem Sound.handleSetExportVoltageCurrent (voltage current : Rat) :
    Sound (w.handleSetExportVoltageCurrent voltage current) := by
  rw [handleSetExportVoltageCurrent_eq]
  refine { h with limit := h.clampedCurrent current, sent := fun a => ?_ }
  rw [lastCurrent_setModuleVI]
  split
  · exact div_nonneg (h.clampedCurrent current) (Nat.cast_nonneg _)
  · exact h.sent a

theorem Sound.restore : Sound w.restore :=
  (h.handleSetExportVoltageCurrent _ _).handleSetMode _ _

include hreads in
theorem Sound.updateCaps (lastModuleCount : Nat) (published : List Publication) :
    Sound { w with caps := newCaps w cfg, lastModuleCount, published } :=
  { h with
    minCurrent := (newCaps_nonneg hreads h.telemetry).1
    maxCurrent := (newCaps_nonneg hreads h.telemetry).2 }

include hreads in
theorem Sound.signalCapabilitiesUpdate : Sound (signalCapabilitiesUpdate cfg w) := by
  obtain ⟨-, _, hupdate⟩ | ⟨-, _, _, hupdate | hupdate⟩ := signalCapabilitiesUpdate_cases cfg w
  · rw [hupdate]
    exact { h with }
  · rw [hupdate]
    exact h.updateCaps hreads _ _
  · rw [hupdate]
    exact (h.updateCaps hreads _ _).restore

theorem Sound.signalVoltageCurrent : Sound w.signalVoltageCurrent := by
  obtain ⟨_, _, hsignal⟩ := signalVoltageCurrent_eq w
  rw [hsignal]
  exact { h with }

theorem Sound.telemetry_nonneg (a : Nat) : 0 ≤ (w.telemetry a).dcMaxOutputCurrent := by
  rw [PowerSupply.telemetry, Std.TreeMap.getD_eq_getD_getElem?]
  cases hget : w.telemetries[a]? with
  | none => exact le_refl 0
  | some t => exact h.telemetry a t hget

theorem Sound.setTelemetry (a : Nat) {t : Telemetry} (ht : 0 ≤ t.dcMaxOutputCurrent) :
    Sound (w.setTelemetry a t) := by
  refine { h with telemetry := fun b t' hget => ?_ }
  rw [PowerSupply.setTelemetry, Std.TreeMap.getElem?_insert] at hget
  split at hget
  · cases hget
    exact ht
  · exact h.telemetry b t' hget

theorem Sound.dropExpired (now : Int) : Sound (dropExpired cfg w now) := by
  refine { h with telemetry := fun a t hget => ?_ }
  rw [PowerSupply.dropExpired, Std.TreeMap.getElem?_filter, Option.pfilter_eq_some_iff] at hget
  exact h.telemetry a t hget.1

theorem Sound.removeExpired (now : Int) : Sound (removeExpiredTelemetryEntries cfg w now) := by
  have hdropped : Sound (PowerSupply.dropExpired cfg w now) := h.dropExpired now
  obtain ⟨-, -, _, hremove⟩ | ⟨-, _, hremove⟩ | ⟨-, -, hremove⟩ :=
    removeExpiredTelemetryEntries_cases cfg w now
  all_goals
    rw [hremove]
    exact { hdropped with }

include hreads in
theorem Sound.expireModules (now : Int) : Sound (expireModules cfg w now) := by
  unfold PowerSupply.expireModules
  dsimp only
  split
  · exact ((h.removeExpired now).signalCapabilitiesUpdate hreads).signalVoltageCurrent
  · exact h.removeExpired now

theorem Sound.switchOff : Sound (w.switchOnOff false) := by
  rw [switchOnOff, sendCommands_eq]
  refine { h with sent := fun a => ?_ }
  rw [lastCurrent_setModuleOnOff]
  exact h.sent a

theorem Sound.handleModuleCountPacket (count : Nat) :
    Sound (handleModuleCountPacket cfg w count) := by
  unfold PowerSupply.handleModuleCountPacket
  cases cfg.operatingMode with
  | fixedAddress => exact h
  | groupDiscovery =>
    have hlisted : ∀ initialized, Sound
        { w with activeModuleAddresses := range count, initialized } :=
      fun _ => { h with }
    dsimp only
    split
    · exact hlisted w.initialized
    · exact (hlisted true).switchOff

variable (cfg) in
theorem Sound.status (sourceAddress status0 status1 status2 : Nat) (now : Int) :
    Sound (rxHandler cfg w sourceAddress now (.powerModuleStatus status0 status1 status2)) := by
  obtain ⟨_, _, hframe⟩ :=
    rxHandler_powerModuleStatus cfg w sourceAddress now status0 status1 status2
  rw [hframe]
  refine Sound.setTelemetry ?_ _ (h.telemetry_nonneg sourceAddress)
  exact { h with }

include hreads in
theorem Sound.step (event : Event) : Sound (step cfg w event) := by
  cases event with
  | setMode mode phase => exact h.handleSetMode mode phase
  | setExportVoltageCurrent voltage current => exact h.handleSetExportVoltageCurrent voltage current
  | frame sourceAddress packet now =>
    have hsource := h.telemetry_nonneg sourceAddress
    cases packet with
    | readModuleCount count => exact h.handleModuleCountPacket count
    | powerModuleStatus status0 status1 status2 =>
      exact h.status cfg sourceAddress status0 status1 status2 now
    | readModuleVI | readModuleVIAfterDiode =>
      refine Sound.signalVoltageCurrent (h.setTelemetry sourceAddress ?_)
      exact hsource
    | readModuleCapabilities maxVoltage minVoltage maxCurrent ratedPower =>
      refine (h.setTelemetry sourceAddress ?_).signalCapabilitiesUpdate hreads
      exact div_nonneg (Nat.cast_nonneg maxCurrent) (by norm_num)
    | readModuleBarcode => exact h.setTelemetry sourceAddress hsource
  | poll now =>
    obtain ⟨reads, hreadCommands, hpoll⟩ := pollStatusHandler_eq cfg w now
    have hexpire := h.expireModules hreads now
    show Sound (pollStatusHandler cfg w now)
    rw [hpoll]
    refine { hexpire with sent := fun a => ?_ }
    rw [lastCurrent_reads hreadCommands]
    exact hexpire.sent a

omit h

/-! ## The sum of the shares -/

/-- The shares add up to the set point. -/
theorem sum_of_shares {addrs : List Nat} (hne : addrs ≠ []) (current : Rat) :
    (addrs.map fun _ => current / (addrs.length : Rat)).sum = current := by
  have hlength : (addrs.length : Rat) ≠ 0 :=
    Nat.cast_ne_zero.mpr fun h => hne (length_eq_zero_iff.mp h)
  rw [map_const', sum_replicate, nsmul_eq_mul, mul_div_cancel₀ current hlength]

theorem withinLimit_setExportVoltageCurrent (h : Sound w) (voltage current : Rat) :
    WithinLimit (w.handleSetExportVoltageCurrent voltage current) := by
  rw [handleSetExportVoltageCurrent_eq]
  show currentOf _ w.activeModuleAddresses ≤ w.clampedCurrent current
  have hshares : ∀ a ∈ w.activeModuleAddresses,
      lastCurrent ((w.activeModuleAddresses.map fun addr =>
        .setModuleVI addr (w.clampedVoltage voltage)
          (w.clampedCurrent current / w.activeModuleAddresses.length)).reverse ++ w.sent) a =
        w.clampedCurrent current / w.activeModuleAddresses.length := by
    intro a ha
    rw [lastCurrent_setModuleVI, if_pos ha]
  rw [currentOf, map_congr_left hshares]
  by_cases hempty : w.activeModuleAddresses = []
  · rw [hempty]
    exact h.clampedCurrent current
  · exact (sum_of_shares hempty _).le

theorem withinLimit_handleSetMode_iff (w : PowerSupply) (mode : Mode) (phase : ChargingPhase) :
    WithinLimit (w.handleSetMode mode phase) ↔ WithinLimit w := by
  rw [handleSetMode_eq]
  exact iff_of_eq (congrArg (· ≤ w.exportCurrentLimit)
    (currentOf_congr (lastCurrent_setModuleOnOff _ _ w.sent) w.activeModuleAddresses))

include hreads in
theorem withinLimit_capabilitiesUpdate (hsound : Sound w) (h : WithinLimit w) :
    WithinLimit (signalCapabilitiesUpdate cfg w) := by
  obtain ⟨-, _, hupdate⟩ | ⟨-, _, _, hupdate | hupdate⟩ := signalCapabilitiesUpdate_cases cfg w
  · rw [hupdate]
    exact h
  · rw [hupdate]
    exact h
  · -- the set point is sent again, with new shares
    rw [hupdate, restore, withinLimit_handleSetMode_iff]
    exact withinLimit_setExportVoltageCurrent (hsound.updateCaps hreads _ _) _ _

theorem withinLimit_signalVoltageCurrent_iff (w : PowerSupply) :
    WithinLimit w.signalVoltageCurrent ↔ WithinLimit w := by
  obtain ⟨_, _, h⟩ := signalVoltageCurrent_eq w
  rw [h]
  exact Iff.rfl

theorem withinLimit_dropExpired (hsound : Sound w) (now : Int) (h : WithinLimit w) :
    WithinLimit (dropExpired cfg w now) := by
  refine le_trans (List.Sublist.sum_le_sum (List.Sublist.map _ filter_sublist) ?_) h
  intro current hmem
  obtain ⟨a, -, rfl⟩ := mem_map.mp hmem
  exact hsound.sent a

include hreads in
theorem withinLimit_expireModules (hsound : Sound w) (now : Int)
    (h : WithinLimit w) : WithinLimit (expireModules cfg w now) := by
  have hdropped : WithinLimit (dropExpired cfg w now) := withinLimit_dropExpired hsound now h
  have hremoved : WithinLimit (removeExpiredTelemetryEntries cfg w now) := by
    obtain ⟨-, -, _, hremove⟩ | ⟨-, _, hremove⟩ | ⟨-, -, hremove⟩ :=
      removeExpiredTelemetryEntries_cases cfg w now
    all_goals
      rw [hremove]
      exact hdropped
  unfold expireModules
  dsimp only
  split
  · rw [withinLimit_signalVoltageCurrent_iff]
    exact withinLimit_capabilitiesUpdate hreads (hsound.removeExpired now) hremoved
  · exact hremoved

theorem withinLimit_moduleCount_iff (h : WithinLimit w) (count : Nat) :
    WithinLimit (handleModuleCountPacket cfg w count) ↔
      (cfg.operatingMode = .groupDiscovery →
        currentOf w.sent (List.range count) ≤ w.exportCurrentLimit) := by
  unfold handleModuleCountPacket
  cases cfg.operatingMode with
  | fixedAddress => simp [h]
  | groupDiscovery =>
    rw [forall_prop_of_true rfl]
    dsimp only
    split
    · exact Iff.rfl
    · -- the first count frame also switches off, which changes no current
      rw [switchOnOff, sendCommands_eq, WithinLimit, commandedCurrent,
        currentOf_congr (lastCurrent_setModuleOnOff _ _ w.sent)]

include hreads in
/-- One event. -/
theorem withinLimit_step_iff (hsound : Sound w) (h : WithinLimit w) (event : Event) :
    WithinLimit (step cfg w event) ↔ KeepsLimit cfg w event := by
  cases event with
  | setMode mode phase =>
    exact iff_of_true ((withinLimit_handleSetMode_iff w mode phase).mpr h) trivial
  | setExportVoltageCurrent voltage current =>
    exact iff_of_true (withinLimit_setExportVoltageCurrent hsound voltage current) trivial
  | frame sourceAddress packet now =>
    cases packet with
    | readModuleCount count => exact withinLimit_moduleCount_iff h count
    | powerModuleStatus status0 status1 status2 =>
      obtain ⟨_, _, hframe⟩ :=
        rxHandler_powerModuleStatus cfg w sourceAddress now status0 status1 status2
      refine iff_of_true (?_ : WithinLimit (rxHandler _ _ _ _ _)) trivial
      rw [hframe]
      exact h
    | readModuleVI | readModuleVIAfterDiode =>
      refine iff_of_true ?_ trivial
      exact (withinLimit_signalVoltageCurrent_iff _).mpr h
    | readModuleCapabilities maxVoltage minVoltage maxCurrent ratedPower =>
      refine iff_of_true (withinLimit_capabilitiesUpdate hreads ?_ h) trivial
      exact hsound.setTelemetry sourceAddress
        (div_nonneg (Nat.cast_nonneg maxCurrent) (by norm_num))
    | readModuleBarcode => exact iff_of_true h trivial
  | poll now =>
    refine iff_of_true ?_ trivial
    obtain ⟨reads, hreadCommands, hpoll⟩ := pollStatusHandler_eq cfg w now
    have hexpire := withinLimit_expireModules hreads hsound now h
    show WithinLimit (pollStatusHandler cfg w now)
    rw [hpoll, WithinLimit, commandedCurrent, currentOf_congr (lastCurrent_reads hreadCommands _)]
    exact hexpire

/-! ## Runs -/

variable (cfg) in
theorem lastCurrent_initialPing (a : Nat) : lastCurrent (initialPing cfg).sent a = 0 := by
  unfold initialPing
  cases cfg.operatingMode with
  | groupDiscovery => rfl
  | fixedAddress addresses =>
    dsimp only
    rw [switchOnOff, sendCommands_eq]
    exact lastCurrent_setModuleOnOff _ _ _ a

include hreads

theorem sound_initialPing : Sound (initialPing cfg) := by
  have hsent : ∀ a, 0 ≤ lastCurrent (initialPing cfg).sent a :=
    fun a => (lastCurrent_initialPing cfg a).ge
  have hfields : (initialPing cfg).exportCurrentLimit = 0 ∧
      (initialPing cfg).caps = cfg.initialCaps ∧ (initialPing cfg).telemetries = {} := by
    obtain ⟨_, _, _, h⟩ := initialPing_eq cfg
    rw [h]
    exact ⟨rfl, rfl, rfl⟩
  obtain ⟨hlimit, hcaps, htelemetries⟩ := hfields
  refine ⟨hlimit.ge, hcaps ▸ hreads.minCurrent, hcaps ▸ hreads.maxCurrent, hsent, ?_⟩
  intro a t hget
  rw [htelemetries, Std.TreeMap.getElem?_emptyc] at hget
  cases hget

theorem withinLimit_initialPing : WithinLimit (initialPing cfg) := by
  refine le_of_eq_of_le ?_ (sound_initialPing hreads).limit
  rw [commandedCurrent, currentOf, map_congr_left fun a _ => lastCurrent_initialPing cfg a]
  simp

/-- **No module is ever told to deliver a negative current**, and no limit is negative, as long as
no capability read uninitialised is. -/
theorem commanded_currents_nonneg (events : List Event) :
    Sound (run (step cfg) (initialPing cfg) events) :=
  invariant_run (fun _ event h => h.step hreads event) events (sound_initialPing hreads)

/-- **The modules together get no more than the limit.** Along a run this holds after every
step exactly if every module count frame lists modules whose last commanded currents add up
to no more than the limit. -/
theorem commanded_current_within_limit_iff (events : List Event) :
    Always (step cfg) WithinLimit (initialPing cfg) events ↔
      Along (step cfg) (KeepsLimit cfg) (initialPing cfg) events :=
  always_iff_along (fun _ event hsound _ _ => hsound.step hreads event)
    (fun _ event hsound h => withinLimit_step_iff hreads hsound h event) events
    (sound_initialPing hreads) (withinLimit_initialPing hreads)

omit hreads

/-- Two modules come up and are told to share 100 A. -/
def sharedSetPoint : List Event :=
  [.frame 0 (.readModuleCount 2) 10,
    .frame 0 (.powerModuleStatus 0 0 0) 10, .frame 1 (.powerModuleStatus 0 0 0) 10,
    .frame 0 (.readModuleCapabilities 1000 50 1000 30) 10,
    .frame 1 (.readModuleCapabilities 1000 50 1000 30) 10,
    .setExportVoltageCurrent 400 100]

theorem shared_set_point_nonneg :
    groupConfig.ReadsNonneg ∧
      Sound (run (step groupConfig) (initialPing groupConfig) sharedSetPoint) :=
  ⟨groupConfig_readsNonneg, commanded_currents_nonneg groupConfig_readsNonneg _⟩

theorem shared_set_point_within_limit :
    Always (step groupConfig) WithinLimit (initialPing groupConfig) sharedSetPoint :=
  (commanded_current_within_limit_iff groupConfig_readsNonneg _).mpr (by
    refine ⟨fun _ => ?_, trivial, trivial, trivial, trivial, trivial, trivial⟩
    decide +kernel)

/-- One of them expires and the other gets all of it; the next count frame lists both again,
with 150 A commanded. -/
theorem relisted_module_exceeds_limit :
    ¬ Always (step groupConfig) WithinLimit (initialPing groupConfig)
      (sharedSetPoint ++ [.frame 0 (.powerModuleStatus 0 0 0) 14, .poll 16,
        .frame 0 (.readModuleCount 2) 17]) := by
  intro h
  exact absurd h.last (by decide +kernel)

end EverestCore.Infy
