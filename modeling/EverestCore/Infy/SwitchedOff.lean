import EverestCore.Infy.Device

/-!
# Modules that are switched on while the mode is off

On and off commands go to the modules listed at that moment. The list changes with expired
modules and with module count frames, and the mode is also set to off without a command
when a communication fault is signalled.

**Main result**: `no_module_on_in_mode_off_iff`.
-/

namespace EverestCore.Infy

open EverestCore.Lib PowerSupply

/-! ## The last on or off command -/

def onOffTo (a : Nat) : Command → Option Bool
  | .setModuleOnOff destination on => if destination = a then some on else none
  | _ => none

/-- Whether a module was last switched on or off. -/
def lastOnOff (sent : List Command) (a : Nat) : Option Bool :=
  sent.findSome? (onOffTo a)

theorem lastOnOff_append_of_none {commands : List Command} {a : Nat}
    (h : ∀ command ∈ commands, onOffTo a command = none) (sent : List Command) :
    lastOnOff (commands ++ sent) a = lastOnOff sent a := by
  rw [lastOnOff, List.findSome?_append, List.findSome?_eq_none_iff.mpr h, Option.none_or]
  rfl

theorem lastOnOff_setModuleVI (addrs : List Nat) (voltage current : Rat) (sent : List Command)
    (a : Nat) :
    lastOnOff ((addrs.map fun addr => .setModuleVI addr voltage current).reverse ++ sent) a =
      lastOnOff sent a := by
  refine lastOnOff_append_of_none (fun command hmem => ?_) sent
  rw [List.mem_reverse, List.mem_map] at hmem
  obtain ⟨_, -, rfl⟩ := hmem
  rfl

theorem lastOnOff_reads {reads : List Command} (h : ∀ command ∈ reads, isRead command = true)
    (sent : List Command) (a : Nat) : lastOnOff (reads ++ sent) a = lastOnOff sent a := by
  refine lastOnOff_append_of_none (fun command hmem => ?_) sent
  have hread := h command hmem
  cases command with
  | setModuleOnOff => cases hread
  | _ => rfl

/-! ## The property -/

variable (w : PowerSupply)

/-- No listed module was last switched on. -/
def NoneOn : Prop :=
  ∀ a ∈ w.activeModuleAddresses, lastOnOff w.sent a ≠ some true

/-- In mode off no listed module was last switched on. -/
def SwitchedOff : Prop :=
  w.mode = .off → NoneOn w

/-- The steps that cannot leave a module switched on in mode off. -/
def KeepsOff (cfg : Config) (w : PowerSupply) : Event → Prop
  -- a count frame does not list a module that is on
  | .frame _ (.readModuleCount count) _ =>
    cfg.operatingMode = .groupDiscovery → w.initialized = true → w.mode = .off →
      ∀ a < count, lastOnOff w.sent a ≠ some true
  -- no module is on when a module reports an interrupted communication
  | .frame sourceAddress (.powerModuleStatus status0 status1 status2) _ =>
    (PowerModuleStatus.ofRaw status0 status1 status2).communicationInterruptAlarm = true →
      (w.telemetry sourceAddress).status.communicationInterruptAlarm = false → NoneOn w
  -- no module that is still listed is on when the last telemetry expires
  | .poll now =>
    expiredAddresses cfg w now ≠ [] → (dropExpired cfg w now).telemetries.isEmpty = true →
      NoneOn (dropExpired cfg w now)
  | _ => True

/-! ## Steps -/

theorem noneOn_of_onOff_false {addrs : List Nat} (sent : List Command) :
    ∀ a ∈ addrs, lastOnOff ((addrs.map fun addr => .setModuleOnOff addr false).reverse ++ sent) a ≠
      some true := by
  intro a ha
  rw [show lastOnOff _ a = some false from findSome?_sent_to_all (fun _ => rfl) ha sent]
  decide

theorem switchedOff_handleSetMode (mode : Mode) (phase : ChargingPhase) :
    SwitchedOff (w.handleSetMode mode phase) := by
  rw [handleSetMode_eq]
  rintro (rfl : mode = .off)
  exact noneOn_of_onOff_false w.sent

theorem switchedOff_setExportVoltageCurrent_iff (voltage current : Rat) :
    SwitchedOff (w.handleSetExportVoltageCurrent voltage current) ↔ SwitchedOff w := by
  rw [handleSetExportVoltageCurrent_eq]
  simp [SwitchedOff, NoneOn, lastOnOff_setModuleVI]

variable (cfg : Config) {w : PowerSupply}

theorem switchedOff_capabilitiesUpdate (h : SwitchedOff w) :
    SwitchedOff (signalCapabilitiesUpdate cfg w) := by
  obtain ⟨-, _, hupdate⟩ | ⟨-, _, _, hupdate | hupdate⟩ := signalCapabilitiesUpdate_cases cfg w
  · rw [hupdate]
    exact h
  · rw [hupdate]
    exact h
  · -- the settings are restored: the mode is sent to every listed module
    rw [hupdate]
    exact switchedOff_handleSetMode _ _ _

theorem switchedOff_signalVoltageCurrent_iff (w : PowerSupply) :
    SwitchedOff w.signalVoltageCurrent ↔ SwitchedOff w := by
  obtain ⟨_, _, h⟩ := signalVoltageCurrent_eq w
  rw [h]
  exact Iff.rfl

theorem switchedOff_moduleCount_iff (h : SwitchedOff w) (count : Nat) :
    SwitchedOff (handleModuleCountPacket cfg w count) ↔
      (cfg.operatingMode = .groupDiscovery → w.initialized = true → w.mode = .off →
        ∀ a < count, lastOnOff w.sent a ≠ some true) := by
  unfold handleModuleCountPacket
  cases cfg.operatingMode with
  | fixedAddress => simp [h]
  | groupDiscovery =>
    dsimp only
    split
    · rename_i hinitialized
      simp [SwitchedOff, NoneOn, hinitialized]
    · -- the first count frame switches off all modules it lists
      rename_i hinitialized
      refine iff_of_true ?_ fun _ h => absurd h hinitialized
      intro _
      rw [switchOnOff, sendCommands_eq]
      exact noneOn_of_onOff_false w.sent

theorem switchedOff_status_iff (h : SwitchedOff w) (sourceAddress status0 status1 status2 : Nat)
    (now : Int) :
    SwitchedOff (rxHandler cfg w sourceAddress now (.powerModuleStatus status0 status1 status2)) ↔
      KeepsOff cfg w
        (.frame sourceAddress (.powerModuleStatus status0 status1 status2) now) := by
  let status := PowerModuleStatus.ofRaw status0 status1 status2
  obtain ⟨_, _, hframe⟩ :=
    rxHandler_powerModuleStatus cfg w sourceAddress now status0 status1 status2
  rw [hframe]
  show ((if status.communicationInterruptAlarm = true ∧
      ¬ (w.telemetry sourceAddress).status.communicationInterruptAlarm = true
        then Mode.off else w.mode) = .off → NoneOn w) ↔
    (status.communicationInterruptAlarm = true →
      (w.telemetry sourceAddress).status.communicationInterruptAlarm = false → NoneOn w)
  split
  · rename_i hrising
    simp [hrising]
  · rename_i hrising
    refine iff_of_true h fun hnew hold => absurd ⟨hnew, ?_⟩ hrising
    simp [hold]

theorem switchedOff_expireModules_iff (h : SwitchedOff w) (now : Int) :
    SwitchedOff (expireModules cfg w now) ↔ KeepsOff cfg w (.poll now) := by
  have hdropped : SwitchedOff (dropExpired cfg w now) :=
    fun hmode => (fun a ha => (h hmode) a (List.mem_filter.mp ha).1)
  unfold expireModules KeepsOff
  dsimp only
  obtain ⟨hgone, hempty, _, hremove⟩ | ⟨hne, _, hremove⟩ | ⟨hgone, -, hremove⟩ :=
    removeExpiredTelemetryEntries_cases cfg w now
  · -- the last telemetry has expired: the mode is set to off, and nothing is sent
    rw [if_pos (List.length_pos_iff.mpr hgone), switchedOff_signalVoltageCurrent_iff]
    obtain ⟨-, _, hupdate⟩ | ⟨hne, -⟩ :=
      signalCapabilitiesUpdate_cases cfg (removeExpiredTelemetryEntries cfg w now)
    · rw [hupdate, hremove]
      exact ⟨fun hoff _ _ => hoff rfl, fun hoff _ => hoff hgone hempty⟩
    · rw [hremove] at hne
      exact absurd (hempty.symm.trans hne) (by decide)
  · -- some module is left
    refine iff_of_true ?_ fun _ hempty => absurd (hempty.symm.trans hne) (by decide)
    have hremoved : SwitchedOff (removeExpiredTelemetryEntries cfg w now) := by
      rw [hremove]
      exact hdropped
    split
    · rw [switchedOff_signalVoltageCurrent_iff]
      exact switchedOff_capabilitiesUpdate cfg hremoved
    · exact hremoved
  · -- there was nothing to expire
    refine iff_of_true ?_ fun hne => absurd hgone hne
    rw [if_neg (by simp [hgone]), hremove]
    exact hdropped

/-- One event. -/
theorem switchedOff_step_iff (h : SwitchedOff w) (event : Event) :
    SwitchedOff (step cfg w event) ↔ KeepsOff cfg w event := by
  cases event with
  | setMode mode phase => exact iff_of_true (switchedOff_handleSetMode w mode phase) trivial
  | setExportVoltageCurrent voltage current =>
    exact iff_of_true ((switchedOff_setExportVoltageCurrent_iff w voltage current).mpr h) trivial
  | frame sourceAddress packet now =>
    cases packet with
    | readModuleCount count => exact switchedOff_moduleCount_iff cfg h count
    | powerModuleStatus status0 status1 status2 =>
      exact switchedOff_status_iff cfg h sourceAddress status0 status1 status2 now
    | readModuleVI | readModuleVIAfterDiode =>
      refine iff_of_true ?_ trivial
      exact (switchedOff_signalVoltageCurrent_iff _).mpr h
    | readModuleCapabilities =>
      refine iff_of_true ?_ trivial
      exact switchedOff_capabilitiesUpdate cfg h
    | readModuleBarcode => exact iff_of_true h trivial
  | poll now =>
    obtain ⟨reads, hreads, hpoll⟩ := pollStatusHandler_eq cfg w now
    rw [← switchedOff_expireModules_iff cfg h now]
    show SwitchedOff (pollStatusHandler cfg w now) ↔ _
    rw [hpoll]
    simp [SwitchedOff, NoneOn, lastOnOff_reads hreads]

theorem switchedOff_initialPing : SwitchedOff (initialPing cfg) := by
  intro _
  unfold initialPing
  cases cfg.operatingMode with
  | groupDiscovery => exact nofun
  | fixedAddress addresses =>
    dsimp only
    rw [switchOnOff, sendCommands_eq]
    exact noneOn_of_onOff_false _

/-! ## Runs -/

/-- **No listed module is on in mode off.** Along a run this holds after every step exactly
if a communication fault is signalled only while no listed module is on, and count frames
in mode off list no module that was last switched on. -/
theorem no_module_on_in_mode_off_iff (cfg : Config) (events : List Event) :
    Always (step cfg) SwitchedOff (initialPing cfg) events ↔
      Along (step cfg) (KeepsOff cfg) (initialPing cfg) events :=
  always_iff_along (I := fun _ => True) (fun _ _ _ _ _ => trivial)
    (fun _ event _ h => switchedOff_step_iff cfg h event) events trivial
    (switchedOff_initialPing cfg)

/-- Two modules export. The communication interrupt that one of them reports sets the mode
to off, and both stay switched on. -/
theorem module_stays_on_after_communication_interrupt :
    ¬ Always (step groupConfig) SwitchedOff (initialPing groupConfig)
      [.frame 0 (.readModuleCount 2) 0, .setMode .exporting .charging,
        .frame 1 (.powerModuleStatus 0 128 0) 1] := by
  intro h
  exact h.last rfl 0 (by decide) (by decide)

end EverestCore.Infy
