import Mathlib.Data.Rat.Defs
import Mathlib.Data.Rat.Cast.Order

/-!
# The IEC 61851 low level state machine

`IECStateMachine` sits between the board support package (BSP) driver and the
charger: it turns raw control pilot (CP) states into plug and power events, and
decides when the BSP may close the contactors and when the connector is locked.

Durations are milliseconds, duty cycles and currents are rationals.
-/

namespace EverestCore.Iec

inductive CpEvent where
  | carPluggedIn
  | carRequestedPower
  | powerOn
  | powerOff
  | carRequestedStopPower
  | carUnplugged
  | efToBcd
  | bcdToEf
  | bcdToE
  | evseReplugStarted
  | evseReplugFinished
deriving DecidableEq

inductive RawCpState where
  | disabled
  | a
  | b
  | c
  | d
  | e
  | f
deriving DecidableEq

inductive BspEvent where
  | a
  | b
  | c
  | d
  | e
  | f
  | powerOn
  | powerOff
  | evseReplugStarted
  | evseReplugFinished
  | disconnected
deriving DecidableEq

def fromBspEvent : BspEvent → RawCpState ⊕ CpEvent
  | .a => .inl .a
  | .b => .inl .b
  | .c => .inl .c
  | .d => .inl .d
  | .e => .inl .e
  | .f => .inl .f
  | .powerOn => .inr .powerOn
  | .powerOff => .inr .powerOff
  | .evseReplugStarted => .inr .evseReplugStarted
  | .evseReplugFinished => .inr .evseReplugFinished
  | .disconnected => .inl .disabled

inductive Reason where
  | dcCableCheck
  | dcPreCharge
  | fullPowerCharging
  | powerOff
deriving DecidableEq

inductive TimerControl where
  | doNothing
  | start
  | stop
deriving DecidableEq

/-- A timeout with a polling thread. `running` stays set after the thread has
fired, until the timer is stopped or started anew. -/
structure AsyncTimeout where
  t : Nat := 0
  startTime : Nat := 0
  running : Bool := false
  polling : Bool := false
deriving DecidableEq

def AsyncTimeout.start (now t : Nat) : AsyncTimeout :=
  { t := t, startTime := now, running := true, polling := true }

def AsyncTimeout.stop (timer : AsyncTimeout) : AsyncTimeout :=
  if timer.running then { timer with running := false, polling := false } else timer

def AsyncTimeout.reached (timer : AsyncTimeout) (now : Nat) : Bool :=
  timer.running && decide (timer.t < now - timer.startTime)

def AsyncTimeout.control (timer : AsyncTimeout) (now t : Nat) : TimerControl → AsyncTimeout
  | .start => .start now t
  | .stop => timer.stop
  | .doNothing => timer

@[simp] theorem AsyncTimeout.start_running (now t : Nat) :
    (AsyncTimeout.start now t).running = true := rfl

def powerOffUnderLoadInC1Timeout : Nat := 6000
def unlockInStateFTimeout : Nat := 5000

/-- Fixed 10 A limit of the simplified mode, as a duty cycle. -/
def evSimplifiedModeEvseLimitPwm : ℚ := 10 / (6 / 10) / 100

inductive Out where
  | allowPowerOn (value : Bool) (reason : Reason)
  | pwmOn (percent : ℚ)
  | pwmOff
  | pwmF
  | enable (value : Bool)
  | evseReplug (ms : Int)
  | switchThreePhasesWhileCharging (value : Bool)
  | setOvercurrentLimit (amps : ℚ)
  | signalLock
  | signalUnlock
  | signalEvent (event : CpEvent)
deriving DecidableEq

structure Call where
  out : Out
  cpState : RawCpState
  hasVentilation : Bool
  pwmRunning : Bool
  powerOnAllowed : Bool
deriving DecidableEq

/-- The members of `IECStateMachine`, the steady clock `now` and the calls made
so far, newest first. -/
structure State where
  lockConnectorInStateB : Bool := true
  pwmRunning : Bool := false
  lastPwmRunning : Bool := false
  evSimplifiedModeEvseLimit : Bool := false
  evSimplifiedMode : Bool := false
  hasVentilation : Bool := false
  powerOnAllowed : Bool := false
  lastPowerOnAllowed : Bool := false
  lastAmps : ℚ := -1
  threePhases : Bool := true
  carPluggedIn : Bool := false
  cpState : RawCpState := .disabled
  lastCpState : RawCpState := .disabled
  timeoutStateC1 : AsyncTimeout := {}
  timeoutUnlockStateF : AsyncTimeout := {}
  powerOnReason : Reason := .powerOff
  isLocked : Bool := false
  shouldBeLocked : Bool := false
  forceUnlocked : Bool := false
  enabled : Bool := false
  relaisOn : Bool := false
  now : Nat := 0
  calls : List Call := []
deriving DecidableEq

namespace State

def emit (s : State) (out : Out) : State :=
  { s with calls := ⟨out, s.cpState, s.hasVentilation, s.pwmRunning, s.powerOnAllowed⟩ ::
      s.calls }

def callAllowPowerOnBsp (s : State) (value : Bool) : State :=
  let s := if value then s else { s with powerOnAllowed := false, powerOnReason := .powerOff }
  s.emit (.allowPowerOn value s.powerOnReason)

def connectorLock (s : State) : State := { s with shouldBeLocked := true }

def connectorUnlock (s : State) : State :=
  { s with shouldBeLocked := false, forceUnlocked := false }

def checkConnectorLock (s : State) : State :=
  let shouldBeLockedConsideringRelaisAndForce :=
    s.relaisOn || (s.shouldBeLocked && !s.forceUnlocked)
  if !s.isLocked && shouldBeLockedConsideringRelaisAndForce then
    { s.emit .signalLock with isLocked := true }
  else if s.isLocked && !shouldBeLockedConsideringRelaisAndForce then
    { s.emit .signalUnlock with isLocked := false }
  else s

end State

/-! ## The state machine -/

structure Run where
  s : State
  events : List CpEvent := []
  timerStateC1 : TimerControl := .doNothing
  timerUnlockStateF : TimerControl := .doNothing
deriving DecidableEq

namespace Run

variable (r : Run)

def push (event : CpEvent) : Run := { r with events := r.events ++ [event] }

def stopC1 : Run := { r with timerStateC1 := .stop }

def on (f : State → State) : Run := { r with s := f r.s }

/-- The machine stops its own PWM. -/
def pwmOff : Run := r.on fun s => { s with pwmRunning := false }.emit .pwmOff

def callAllowPowerOnBsp (value : Bool) : Run :=
  r.on (·.callAllowPowerOnBsp value)

def caseDisabled : Run :=
  if r.s.lastCpState ≠ .disabled then
    ((((r.pwmOff.on fun s => { s with evSimplifiedMode := false }).stopC1).callAllowPowerOnBsp
      false).on State.connectorUnlock)
  else r

def caseA : Run :=
  let r' := if r.s.lastCpState ≠ .a then
      (((r.pwmOff.on fun s => { s with evSimplifiedMode := false, carPluggedIn := false
        }).callAllowPowerOnBsp false).stopC1).on State.connectorUnlock
    else r
  -- Table A.6: Sequence 2.1 and 2.2, unplug
  if r'.s.lastCpState ≠ .a ∧ r'.s.lastCpState ≠ .disabled then r'.push .carUnplugged else r'

def pluggingIn (s : State) : Bool :=
  s.lastCpState == .a || s.lastCpState == .disabled ||
    (!s.carPluggedIn && s.lastCpState == .f)

def lockB : Run :=
  r.on fun s => if s.lockConnectorInStateB then s.connectorLock else s.connectorUnlock

/-- Table A.6: Sequence 7 and 8, the EV stops charging. -/
def stopPowerB : Run :=
  if r.s.lastCpState ≠ .a ∧ r.s.lastCpState ≠ .b then
    ((r.push .carRequestedStopPower).callAllowPowerOnBsp false).stopC1
  else r

/-- Table A.6: Sequence 1.1, plug-in. -/
def plugInB : Run :=
  if pluggingIn r.s then
    (r.push .carPluggedIn).on fun s => { s with carPluggedIn := true, evSimplifiedMode := false }
  else r

def caseB : Run :=
  let r := r.lockB.stopPowerB.plugInB
  if r.s.lastCpState = .e ∨ r.s.lastCpState = .f then r.push .efToBcd else r

/-- Table A.6: Sequence 1.2, plug-in in simplified mode, or power requested. -/
def plugInC : Run :=
  if pluggingIn r.s then
    (r.push .carPluggedIn).on fun s => { s with carPluggedIn := true, evSimplifiedMode := true }
  else if r.s.lastCpState = .b then r.push .carRequestedPower
  else r

/-- Table A.6: Sequence 10.2, PWM stops in state C: allow six seconds. -/
def pwmStopsC : Run :=
  if !r.s.pwmRunning && r.s.lastPwmRunning then { r with timerStateC1 := .start } else r

def pwmResumesC : Run :=
  if r.s.pwmRunning && !r.s.lastPwmRunning then
    if r.s.powerOnAllowed then r.stopC1.callAllowPowerOnBsp true else r.stopC1
  else r

/-- The six seconds are over: power off under load. -/
def timeoutC : Run :=
  if r.s.timeoutStateC1.reached r.s.now then r.callAllowPowerOnBsp false else r

/-- State C2: switch on when coming from B or when power was just allowed. -/
def switchOnC : Run :=
  if r.s.pwmRunning then
    let r' := if r.s.powerOnAllowed && (!r.s.lastPowerOnAllowed || r.s.lastCpState == .b) then
        r.callAllowPowerOnBsp true
      else r
    if !r'.s.lastPwmRunning && r'.s.evSimplifiedMode then r'.push .carRequestedPower else r'
  else r

def caseC : Run :=
  (r.on State.connectorLock).plugInC.pwmStopsC.pwmResumesC.timeoutC.switchOnC

/-- State D falls through to state C if ventilation is supported. -/
def caseD : Run :=
  let r := r.on State.connectorLock
  if !r.s.hasVentilation then (r.callAllowPowerOnBsp false).stopC1 else r.caseC

def fromBcd (s : State) : Bool :=
  s.lastCpState == .b || s.lastCpState == .c || s.lastCpState == .d

def caseE : Run :=
  let r := r.on State.connectorUnlock
  if r.s.lastCpState ≠ .e then
    let r := (r.stopC1.callAllowPowerOnBsp false).pwmOff
    if fromBcd r.s then (r.push .bcdToEf).push .bcdToE else r
  else r

def caseF : Run :=
  let r := r.stopC1.callAllowPowerOnBsp false
  let r := if r.s.lastCpState ≠ .f then
      { r with
        timerUnlockStateF := .start
        s := { r.s with pwmRunning := false } }
    else r
  let r := if fromBcd r.s then r.push .bcdToEf else r
  if r.s.timeoutUnlockStateF.reached r.s.now then r.on State.connectorUnlock else r

def leaveF : Run :=
  if r.s.cpState ≠ .f ∧ r.s.lastCpState = .f then { r with timerUnlockStateF := .stop } else r

def switchCp : Run :=
  match r.s.cpState with
  | .disabled => r.caseDisabled
  | .a => r.caseA
  | .b => r.caseB
  | .c => r.caseC
  | .d => r.caseD
  | .e => r.caseE
  | .f => r.caseF

/-- End of the mutex protected section: the current inputs become the last. -/
def remember (s : State) : State :=
  { s with
    lastCpState := s.cpState
    lastPwmRunning := s.pwmRunning
    lastPowerOnAllowed := s.powerOnAllowed }

def controlTimers : State :=
  { r.s with
    timeoutStateC1 :=
      r.s.timeoutStateC1.control r.s.now powerOffUnderLoadInC1Timeout r.timerStateC1
    timeoutUnlockStateF :=
      r.s.timeoutUnlockStateF.control r.s.now unlockInStateFTimeout r.timerUnlockStateF }

end Run

def stateMachine (s : State) : State × List CpEvent :=
  let r := ({ s := s } : Run).leaveF.switchCp
  let r := (r.on State.checkConnectorLock).on Run.remember
  (r.controlTimers, r.events)

/-- `feed_state_machine_no_thread`: run the machine and signal its events. -/
def feed (s : State) : State :=
  let (s, events) := stateMachine s
  events.foldl (fun s event => s.emit (.signalEvent event)) s

/-! ## Operations -/

/-- Public operations, the passing of time and the polling threads of the two
timers. -/
inductive Op where
  | processBspEvent (event : BspEvent)
  | setPwm (value : ℚ)
  | setPwmOff
  | setPwmF
  | allowPowerOn (value : Bool) (reason : Reason)
  | connectorForceUnlock
  | setup (hasVentilation : Bool)
  | enable (value : Bool)
  | setOvercurrentLimit (amps : ℚ)
  | setThreePhases (value : Bool)
  | setEvSimplifiedModeEvseLimit (value : Bool)
  | evseReplug (ms : Int)
  | switchThreePhasesWhileCharging (value : Bool)
  | advance (ms : Nat)
  | pollC1
  | pollUnlockF
deriving DecidableEq

namespace State

variable (s : State)

/-- Track the relais as confirmed by the BSP, then pass the event on. -/
def processCpEvent (event : CpEvent) : State :=
  let s := match event with
    | .powerOn => { s with relaisOn := true }
    | .powerOff => { s with relaisOn := false }
    | _ => s
  s.checkConnectorLock.emit (.signalEvent event)

/-- The raw state is stored under the mutex; the run comes later. -/
def storeCpState (raw : RawCpState) : State := { s with cpState := raw }

/-- The duty cycle put on the pilot, limited to 10 A in simplified mode if so
configured. -/
def limitedDuty (value : ℚ) : ℚ :=
  if s.evSimplifiedModeEvseLimit && s.evSimplifiedMode &&
      decide (evSimplifiedModeEvseLimitPwm < value) then evSimplifiedModeEvseLimitPwm
  else value

def setPwm (value : ℚ) : State :=
  let s := { s with pwmRunning := decide (0 < value ∧ value < 1) }
  s.emit (.pwmOn (s.limitedDuty value * 100))

def setPwmOff : State := { s with pwmRunning := false }.emit .pwmOff

def setPwmF : State := { s with pwmRunning := false }.emit .pwmF

/-- Power off is forwarded at once, power on is left to the state machine. -/
def allowPowerOn (value : Bool) (reason : Reason) : State :=
  let s := { s with powerOnAllowed := value, powerOnReason := reason }
  if value then s else s.callAllowPowerOnBsp false

def connectorForceUnlock : State :=
  let cp := s.cpState
  let s := if s.relaisOn then s else { s.emit .signalUnlock with isLocked := false }
  if cp = .b ∨ cp = .c then { s with forceUnlocked := true }.checkConnectorLock else s

def setOvercurrentLimit (amps : ℚ) : State :=
  if amps ≠ s.lastAmps then { s.emit (.setOvercurrentLimit amps) with lastAmps := amps } else s

end State

/-- The caller's part of an operation, and whether it asks for a run of the
state machine. BSP events are ignored before the port is enabled. -/
def request (s : State) : Op → State × Bool
  | .processBspEvent event =>
    if s.enabled then
      match fromBspEvent event with
      | .inl raw => (s.storeCpState raw, true)
      | .inr cpEvent => (s.processCpEvent cpEvent, false)
    else (s, false)
  | .setPwm value => (s.setPwm value, true)
  | .setPwmOff => (s.setPwmOff, true)
  | .setPwmF => (s.setPwmF, true)
  | .allowPowerOn value reason => (s.allowPowerOn value reason, true)
  | .connectorForceUnlock => (s.connectorForceUnlock, false)
  | .setup hasVentilation => ({ s with hasVentilation := hasVentilation }, false)
  | .enable value => ({ s with enabled := value }.emit (.enable value), false)
  | .setOvercurrentLimit amps => (s.setOvercurrentLimit amps, false)
  | .setThreePhases value => ({ s with threePhases := value }, false)
  | .setEvSimplifiedModeEvseLimit value =>
    ({ s with evSimplifiedModeEvseLimit := value }, false)
  | .evseReplug ms => (s.emit (.evseReplug ms), false)
  | .switchThreePhasesWhileCharging value =>
    (s.emit (.switchThreePhasesWhileCharging value), false)
  | .advance ms => ({ s with now := s.now + ms }, false)
  | .pollC1 =>
    if s.timeoutStateC1.polling && s.timeoutStateC1.reached s.now then
      ({ s with timeoutStateC1 := { s.timeoutStateC1 with polling := false } }, true)
    else (s, false)
  | .pollUnlockF =>
    if s.timeoutUnlockStateF.polling && s.timeoutUnlockStateF.reached s.now then
      ({ s with timeoutUnlockStateF := { s.timeoutUnlockStateF with polling := false } },
        true)
    else (s, false)

def feeds (s : State) (op : Op) : Bool := (request s op).2

/-- An operation together with the run it asks for, nothing in between. -/
def step (s : State) (op : Op) : State :=
  if feeds s op then feed (request s op).1 else (request s op).1

def init (lockConnectorInStateB : Bool) (now : Nat) : State :=
  { lockConnectorInStateB := lockConnectorInStateB, now := now }

end EverestCore.Iec
