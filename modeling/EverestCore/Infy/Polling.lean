import EverestCore.Infy.Device

/-!
# Polls of modules that have expired

With fixed addresses all configured modules are listed at first. A module that expires is
taken off the list for good, and a poll asks only the listed modules.

**Main result**: `configured_modules_polled_iff`.
-/

namespace EverestCore.Infy

open EverestCore.Lib PowerSupply List

variable (cfg : Config) (addresses : List Nat) (w : PowerSupply)

/-- The poll asks every configured module for its voltage, its current and its status. -/
def PollsAll : Event → Prop
  | .poll now => ∀ a ∈ addresses, ∀ request ∈ [Command.readModuleVI a, .powerModuleStatus a],
    w.sent.count request < (pollStatusHandler cfg w now).sent.count request
  | _ => True

/-- No configured module has expired before, or is found expired by the poll. -/
def NoneExpired : Event → Prop
  | .poll now => ∀ a ∈ addresses, a ∉ w.expired ∧ a ∉ expiredAddresses cfg w now
  | _ => True

/-- A configured module is listed until it has expired. -/
def ListedUnlessExpired : Prop :=
  ∀ a ∈ addresses, (a ∈ w.activeModuleAddresses ↔ a ∉ w.expired)

/-! ## What the operations do to the lists -/

/-- The listed and the expired modules, and the read commands sent. -/
def lists : List Nat × List Nat × List Command :=
  (w.activeModuleAddresses, w.expired, w.sent.filter isRead)

theorem lists_capabilitiesUpdate : lists (signalCapabilitiesUpdate cfg w) = lists w := by
  rcases signalCapabilitiesUpdate_cases cfg w with
    ⟨-, published, h⟩ | ⟨-, lastModuleCount, published, h | h⟩
  · rw [h]
    rfl
  · rw [h]
    rfl
  · rw [h, restore_eq]
    simp [lists, filter_map, Function.comp_def, isRead]

theorem lists_signalVoltageCurrent : lists w.signalVoltageCurrent = lists w := by
  obtain ⟨throttleCnt, published, h⟩ := w.signalVoltageCurrent_eq
  rw [h]
  rfl

theorem lists_expireModules (now : Int) :
    lists (expireModules cfg w now) = lists (dropExpired cfg w now) := by
  have hremove : lists (removeExpiredTelemetryEntries cfg w now) =
      lists (dropExpired cfg w now) := by
    rcases removeExpiredTelemetryEntries_cases cfg w now with
      ⟨-, -, published, h⟩ | ⟨-, published, h⟩ | ⟨-, -, h⟩
    · rw [h]
      rfl
    · rw [h]
      rfl
    · rw [h]
  unfold expireModules
  dsimp only
  split
  · rw [lists_signalVoltageCurrent, lists_capabilitiesUpdate, hremove]
  · exact hremove

theorem mem_expired_poll (now : Int) (a : Nat) :
    a ∈ (pollStatusHandler cfg w now).expired ↔
      a ∈ w.expired ∨ a ∈ expiredAddresses cfg w now := by
  obtain ⟨reads, -, hpoll⟩ := pollStatusHandler_eq cfg w now
  have hexpired := congrArg (·.2.1) (lists_expireModules cfg w now)
  rw [hpoll]
  show a ∈ (lists (expireModules cfg w now)).2.1 ↔ _
  rw [hexpired]
  simp [lists, dropExpired, or_comm]

variable {addresses w}

theorem listed_dropExpired (h : ListedUnlessExpired addresses w) (now : Int) :
    ListedUnlessExpired addresses (dropExpired cfg w now) := by
  intro a ha
  simp only [dropExpired, mem_filter, h a ha, mem_append, mem_reverse]
  simp [and_comm]

theorem listed_of_lists {v : PowerSupply} (heq : lists w = lists v)
    (h : ListedUnlessExpired addresses v) : ListedUnlessExpired addresses w := by
  obtain ⟨hactive, hexpired, -⟩ := by simpa [lists] using heq
  unfold ListedUnlessExpired
  rw [hactive, hexpired]
  exact h

/-! ## Steps -/

section

variable {cfg} (hfixed : cfg.operatingMode = .fixedAddress addresses) (w : PowerSupply)

include hfixed

theorem lists_frame (sourceAddress : Nat) (packet : Packet) (now : Int) :
    lists (rxHandler cfg w sourceAddress now packet) = lists w := by
  cases packet with
  | readModuleCount count => rw [rxHandler, handleModuleCountPacket, hfixed]
  | powerModuleStatus status0 status1 status2 =>
    obtain ⟨firsttime, published, h⟩ :=
      rxHandler_powerModuleStatus cfg w sourceAddress now status0 status1 status2
    rw [h]
    rfl
  | readModuleVI | readModuleVIAfterDiode => exact lists_signalVoltageCurrent _
  | readModuleCapabilities => exact lists_capabilitiesUpdate cfg _
  | readModuleBarcode => rfl

theorem listed_step (event : Event) (h : ListedUnlessExpired addresses w) :
    ListedUnlessExpired addresses (step cfg w event) := by
  cases event with
  | setMode mode phase =>
    rw [step, handleSetMode_eq]
    exact h
  | setExportVoltageCurrent voltage current =>
    rw [step, handleSetExportVoltageCurrent_eq]
    exact h
  | frame sourceAddress packet now => exact listed_of_lists (lists_frame hfixed w ..) h
  | poll now =>
    obtain ⟨reads, -, hpoll⟩ := pollStatusHandler_eq cfg w now
    rw [step, hpoll]
    show ListedUnlessExpired addresses (expireModules cfg w now)
    exact listed_of_lists (lists_expireModules cfg w now) (listed_dropExpired cfg h now)

theorem asked_iff (now : Int) {a : Nat} {request : Command}
    (hrequest : request ∈ [Command.readModuleVI a, .powerModuleStatus a]) :
    w.sent.count request < (pollStatusHandler cfg w now).sent.count request ↔
      a ∈ (pollStatusHandler cfg w now).activeModuleAddresses := by
  have hread : isRead request = true := by rcases mem_pair.mp hrequest with rfl | rfl <;> rfl
  have hcount : (expireModules cfg w now).sent.count request = w.sent.count request := by
    have hreads := congrArg (·.2.2.count request) (lists_expireModules cfg w now)
    simpa only [lists, count_filter hread, dropExpired] using hreads
  have hasked : ∀ v : PowerSupply, ∀ addr, request ∈ v.pollCommands addr ↔ addr = a := by
    intro v addr
    rw [pollCommands, mem_append]
    rcases mem_pair.mp hrequest with rfl | rfl
    all_goals split <;> simp [eq_comm]
  simp only [pollStatusHandler, hfixed, sendCommands_eq, count_append, hcount, count_reverse]
  rw [Nat.lt_add_left_iff_pos, count_pos_iff, mem_flatMap]
  simp [hasked]

theorem pollsAll_iff (event : Event) (h : ListedUnlessExpired addresses w) :
    PollsAll cfg addresses w event ↔ NoneExpired cfg addresses w event := by
  cases event with
  | poll now =>
    refine forall₂_congr fun a ha => ?_
    rw [← not_or, ← mem_expired_poll]
    refine Iff.trans ?_ (listed_step hfixed w (.poll now) h a ha)
    exact ⟨fun hpolls => (asked_iff hfixed w now mem_cons_self).mp
        (hpolls _ mem_cons_self),
      fun hlisted request hrequest => (asked_iff hfixed w now hrequest).mpr hlisted⟩
  | _ => exact Iff.rfl

end

/-! ## Runs -/

def Config.fixed (addresses : List Nat) : Config :=
  { cfg with operatingMode := .fixedAddress addresses }

/-- **Every configured module is polled** exactly along the runs in which none of them
ever expires. -/
theorem configured_modules_polled_iff (cfg : Config) (addresses : List Nat) (events : List Event) :
    let fixed := cfg.fixed addresses
    Along (step fixed) (PollsAll fixed addresses) (initialPing fixed) events ↔
      Along (step fixed) (NoneExpired fixed addresses) (initialPing fixed) events := by
  intro fixed
  refine along_congr (listed_step rfl) (pollsAll_iff rfl) events ?_
  intro a ha
  show a ∈ (switchOnOff _ false).activeModuleAddresses ↔ a ∉ (switchOnOff _ false).expired
  rw [switchOnOff, sendCommands_eq]
  exact iff_of_true ha not_mem_nil

/-- The only module expires in the first poll, and the second one asks nobody. -/
theorem expired_module_is_not_polled :
    let fixed := groupConfig.fixed [1]
    ¬ Along (step fixed) (PollsAll fixed [1]) (initialPing fixed)
      [.frame 1 (.powerModuleStatus 0 0 0) 0, .poll 10, .poll 20] := by
  intro fixed h
  have hpolled := h.2.2.1 1 (by decide) _ mem_cons_self
  revert hpolled
  decide +kernel

end EverestCore.Infy
