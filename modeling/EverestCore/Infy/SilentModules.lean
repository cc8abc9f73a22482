import EverestCore.Infy.Device
import EverestCore.Lib.OrderedMap

/-!
# The modules that are dropped

A poll drops the modules without a recent status. An entry that was created by another frame
has no time yet, and is dropped as if its last status had come when the clock started.
-/

namespace EverestCore.Infy

open EverestCore.Lib PowerSupply Option Std.TreeMap

/-- A frame or, without one, a poll. -/
structure Tick where
  elapsed : Nat
  frame : Option (Nat × Packet)

/-- The supply with the time of the last status of each module, and of the frame that has
created its entry. -/
structure Heard where
  supply : PowerSupply
  now : Int
  lastStatus : Nat → Option Int := fun _ => none
  created : Nat → Int := fun _ => now

def Packet.isStatus : Packet → Bool
  | .powerModuleStatus .. => true
  | _ => false

def lastUpdate? (w : PowerSupply) (a : Nat) : Option Int :=
  w.telemetries[a]?.map Telemetry.lastUpdate

variable (cfg : Config)

def hear (x : Heard) (tick : Tick) : Heard :=
  let now := x.now + tick.elapsed
  match tick.frame with
  | none => { x with supply := pollStatusHandler cfg x.supply now, now }
  | some (a, packet) =>
    { supply := rxHandler cfg x.supply a now packet
      now
      lastStatus :=
        if packet.isStatus then Function.update x.lastStatus a (some now) else x.lastStatus
      created := if a ∈ x.supply.telemetries then x.created else Function.update x.created a now }

/-- A dropped module has been silent for too long. -/
def DropsSilent (x : Heard) (tick : Tick) : Prop :=
  let now := x.now + tick.elapsed
  tick.frame = none → ∀ a ∈ expiredAddresses cfg x.supply now,
    cfg.deviceConnectionTimeout < now - (x.lastStatus a).getD (x.created a)

/-- A module that has never sent its status is new only while the clock is. -/
def StatusInTime (x : Heard) (tick : Tick) : Prop :=
  let now := x.now + tick.elapsed
  tick.frame = none → ∀ a ∈ x.supply.telemetries, x.lastStatus a = none →
    cfg.deviceConnectionTimeout < now → cfg.deviceConnectionTimeout < now - x.created a

/-! ## The times of the entries -/

variable (w : PowerSupply) (now : Int)

theorem mem_expiredAddresses {a : Nat} : a ∈ expiredAddresses cfg w now ↔
    ∃ time ∈ lastUpdate? w a, cfg.deviceConnectionTimeout < now - time := by
  simp [expiredAddresses, lastUpdate?, isExpired]

theorem mem_lastUpdate? {a : Nat} : (∃ time, time ∈ lastUpdate? w a) ↔ a ∈ w.telemetries := by
  simp only [mem_def, ← isSome_iff_exists, lastUpdate?, isSome_map]
  exact mem_iff_isSome_getElem?.symm

theorem telemetries_capabilitiesUpdate :
    (signalCapabilitiesUpdate cfg w).telemetries = w.telemetries := by
  rcases signalCapabilitiesUpdate_cases cfg w with ⟨-, _, h⟩ | ⟨-, _, _, h | h⟩
  · rw [h]
  · rw [h]
  · rw [h, restore_eq]

theorem telemetries_signalVoltageCurrent : w.signalVoltageCurrent.telemetries = w.telemetries := by
  obtain ⟨_, _, h⟩ := w.signalVoltageCurrent_eq
  rw [h]

theorem lastUpdate?_poll (a : Nat) :
    lastUpdate? (pollStatusHandler cfg w now) a =
      (lastUpdate? w a).filter fun time => now - time ≤ cfg.deviceConnectionTimeout := by
  have hremove : (removeExpiredTelemetryEntries cfg w now).telemetries =
      (dropExpired cfg w now).telemetries := by
    rcases removeExpiredTelemetryEntries_cases cfg w now with
      ⟨-, -, _, h⟩ | ⟨-, _, h⟩ | ⟨-, -, h⟩ <;> rw [h]
  have hexpire : (expireModules cfg w now).telemetries = (dropExpired cfg w now).telemetries := by
    unfold expireModules
    dsimp only
    split
    · rw [telemetries_signalVoltageCurrent, telemetries_capabilitiesUpdate, hremove]
    · exact hremove
  obtain ⟨_, -, hpoll⟩ := pollStatusHandler_eq cfg w now
  rw [lastUpdate?, hpoll, hexpire, lastUpdate?]
  simp only [dropExpired, getElem?_filter']
  cases w.telemetries[a]? with
  | none => rfl
  | some t => simp [isExpired, filter_some, apply_ite]

theorem lastUpdate?_setTelemetry (a : Nat) (t : Telemetry) (b : Nat) :
    lastUpdate? (w.setTelemetry a t) b = if b = a then some t.lastUpdate else lastUpdate? w b := by
  unfold lastUpdate? setTelemetry
  rw [getElem?_insert_eq, apply_ite (Option.map Telemetry.lastUpdate), Option.map_some]

/-- Another frame than a status leaves the times as they are; a new entry has none. -/
theorem lastUpdate?_frame {packet : Packet} (hpacket : packet.isStatus = false) (a b : Nat) :
    lastUpdate? (rxHandler cfg w a now packet) b = lastUpdate? w b ∨
      lastUpdate? w b = none ∧ lastUpdate? (rxHandler cfg w a now packet) b = some 0 := by
  have hset : ∀ t : Telemetry, t.lastUpdate = (w.telemetry a).lastUpdate →
      lastUpdate? (w.setTelemetry a t) b = lastUpdate? w b ∨
        lastUpdate? w b = none ∧ lastUpdate? (w.setTelemetry a t) b = some 0 := by
    intro t ht
    rw [lastUpdate?_setTelemetry, ht, telemetry, getD_eq_getD_getElem?, lastUpdate?]
    split
    · rename_i hb
      rw [hb]
      cases w.telemetries[a]? with
      | none => exact .inr ⟨rfl, rfl⟩
      | some old => exact .inl rfl
    · exact .inl rfl
  cases packet with
  | powerModuleStatus => cases hpacket
  | readModuleCount count =>
    left
    unfold rxHandler handleModuleCountPacket
    cases cfg.operatingMode with
    | fixedAddress => rfl
    | groupDiscovery =>
      dsimp only
      split
      · rfl
      · rw [switchOnOff, sendCommands_eq]
        rfl
  | readModuleVI | readModuleVIAfterDiode =>
    rw [rxHandler, lastUpdate?, telemetries_signalVoltageCurrent]
    exact hset _ (by rfl)
  | readModuleCapabilities =>
    rw [rxHandler, lastUpdate?, telemetries_capabilitiesUpdate]
    exact hset _ (by rfl)
  | readModuleBarcode => exact hset _ (by rfl)

/-! ## Runs -/

/-- The time of an entry is zero without a status, and that of the last status if it is recent. -/
def Timed (x : Heard) : Prop :=
  ∀ a, (x.lastStatus a = none → ∀ time ∈ lastUpdate? x.supply a, time = 0) ∧
    ∀ last ∈ x.lastStatus a, x.now - last ≤ cfg.deviceConnectionTimeout →
      lastUpdate? x.supply a = some last

variable {cfg}

theorem timed_hear (x : Heard) (tick : Tick) (h : Timed cfg x) : Timed cfg (hear cfg x tick) := by
  obtain ⟨elapsed, _ | ⟨a, packet⟩⟩ := tick
  · intro a
    dsimp only [hear]
    rw [lastUpdate?_poll]
    refine ⟨fun hnone time htime => (h a).1 hnone time (mem_filter_iff.mp htime).1,
      fun last hlast hrecent => ?_⟩
    rw [(h a).2 last hlast (by omega)]
    exact filter_some_pos (decide_eq_true hrecent)
  · intro b
    have hkept : ∀ last ∈ x.lastStatus b, x.now + elapsed - last ≤ cfg.deviceConnectionTimeout →
        lastUpdate? x.supply b = some last :=
      fun last hlast hrecent => (h b).2 last hlast (by omega)
    cases hpacket : packet.isStatus with
    | true =>
      cases packet with
      | powerModuleStatus status0 status1 status2 =>
        obtain ⟨_, _, hframe⟩ := rxHandler_powerModuleStatus cfg x.supply a (x.now + elapsed)
          status0 status1 status2
        dsimp only [hear]
        rw [hframe, lastUpdate?_setTelemetry, if_pos hpacket]
        by_cases hb : b = a
        · rw [hb, Function.update_self, if_pos rfl]
          exact ⟨nofun, fun last hlast _ => hlast⟩
        · rw [Function.update_of_ne hb, if_neg hb]
          exact ⟨(h b).1, hkept⟩
      | _ => cases hpacket
    | false =>
      dsimp only [hear]
      rw [hpacket, if_neg Bool.false_ne_true]
      rcases lastUpdate?_frame cfg x.supply (x.now + elapsed) hpacket a b with
        hsame | ⟨hnone, hnew⟩
      · rw [hsame]
        exact ⟨(h b).1, hkept⟩
      · rw [hnew]
        rw [hnone] at hkept
        exact ⟨fun _ time htime => (some.inj htime).symm,
          fun last hlast hrecent => absurd (hkept last hlast hrecent) nofun⟩

theorem dropsSilent_iff (x : Heard) (tick : Tick) (h : Timed cfg x) :
    DropsSilent cfg x tick ↔ StatusInTime cfg x tick := by
  refine forall_congr' fun _ => forall_congr' fun a => ?_
  obtain ⟨hzero, hheard⟩ := h a
  rw [mem_expiredAddresses]
  cases hstatus : x.lastStatus a with
  | none =>
    constructor
    · intro h hmem _ hlate
      obtain ⟨time, htime⟩ := (mem_lastUpdate? _).mpr hmem
      refine h ⟨time, htime, ?_⟩
      rwa [hzero hstatus time htime, sub_zero]
    · rintro h ⟨time, htime, hlate⟩
      rw [hzero hstatus time htime, sub_zero] at hlate
      exact h ((mem_lastUpdate? _).mp ⟨time, htime⟩) rfl hlate
  | some last =>
    refine iff_of_true ?_ nofun
    rintro ⟨time, htime, hlate⟩
    by_contra hrecent
    rw [getD_some, not_lt] at hrecent
    cases (hheard last hstatus (by omega)).symm.trans htime
    omega

/-- **Only silent modules are dropped** exactly in the runs in which no module without a status
is new when the clock is not. -/
theorem only_silent_modules_dropped_iff (cfg : Config) (start : Int) (ticks : List Tick) :
    Along (hear cfg) (DropsSilent cfg) { supply := initialPing cfg, now := start } ticks ↔
      Along (hear cfg) (StatusInTime cfg) { supply := initialPing cfg, now := start } ticks := by
  refine along_congr timed_hear dropsSilent_iff ticks fun a => ⟨fun _ time htime => ?_, nofun⟩
  obtain ⟨_, _, _, hping⟩ := initialPing_eq cfg
  simp [lastUpdate?, hping] at htime

/-- The first frame is not a status: the module is dropped at once. -/
theorem new_module_dropped :
    ¬ Along (hear groupConfig) (DropsSilent groupConfig)
      { supply := initialPing groupConfig, now := 100 }
      [⟨1, some (1, .readModuleBarcode "A")⟩, ⟨1, none⟩] := by
  rintro ⟨-, h, -⟩
  have hsilent := h rfl 1 (by decide +kernel)
  revert hsilent
  decide +kernel

end EverestCore.Infy
