import EverestCore.DzgGsh01.Protocol

/-!
# Starting and stopping transactions on the GSH01

The calls of the driver, one after the other, with a meter at the other end.
-/

namespace EverestCore.DzgGsh01

/-! ## The meter -/

inductive Command
  | getTime
  | setTime
  | getStatusWord
  | startTransaction
  | stopTransaction
  | getLastTransactionOcmf
  deriving DecidableEq

structure Meter where
  running : Bool
  /-- The number of transactions begun. -/
  begun : Nat
  deriving DecidableEq

/-- What the meter is free to choose in an answer. -/
structure Choice where
  status : CommandResult
  /-- Whether a command that is answered with an error takes effect. -/
  takesEffect : Bool := false
  utcTimeS : Nat := 0
  ocmf : String := ""
  deriving DecidableEq

def Meter.begin (m : Meter) : Meter := ⟨true, m.begun + 1⟩

def Meter.serve (m : Meter) (choice : Choice) : Command → Meter × Message
  | .startTransaction =>
    if m.running then (m, [⟨.ok, .startTransaction⟩])
    else (if choice.status = .ok || choice.takesEffect then m.begin else m,
      [⟨choice.status, .startTransaction⟩])
  | .stopTransaction =>
    (if choice.status = .ok || choice.takesEffect then { m with running := false } else m,
      [⟨choice.status, .stopTransaction⟩])
  | .getTime => (m, [⟨choice.status, .time choice.utcTimeS⟩])
  | .setTime => (m, [⟨choice.status, .other⟩])
  | .getStatusWord => (m, [⟨choice.status, .statusWord m.running⟩])
  | .getLastTransactionOcmf => (m, [⟨choice.status, .lastOcmf choice.ocmf⟩])

structure Attempt where
  reached : Bool
  choice : Choice
  reception : Reception
  deriving DecidableEq

def transmit (m : Meter) (command : Command) (a : Attempt) : Meter × Reply :=
  let served := m.serve a.choice command
  (if a.reached then served.1 else m, a.reception.reply (if a.reached then [served.2] else []))

/-! ## The calls -/

structure World where
  driver : Driver := {}
  meter : Meter
  deriving DecidableEq

/-- The request is sent until something but a time-out comes back; `none` if that does not
happen in the given attempts. -/
def sendReceive (command : Command) : List Attempt → World → Option World
  | [], _ => none
  | a :: rest, w =>
    let sent := transmit w.meter command a
    let received := receive w.driver sent.2
    if received.2 then sendReceive command rest ⟨received.1, sent.1⟩
    else some ⟨received.1, sent.1⟩

structure Exchanges where
  statusWord : List Attempt := []
  getTime : List Attempt := []
  setTime : List Attempt := []
  stop : List Attempt := []
  ocmf : List Attempt := []
  start : List Attempt := []
  deriving DecidableEq

variable (x : Exchanges)

def Exchanges.all : List Attempt :=
  x.statusWord ++ x.getTime ++ x.setTime ++ x.stop ++ x.ocmf ++ x.start

variable (w : World)

/-- The driver's side of a call changes the driver only. -/
def World.mapDriver (f : Driver → Driver) : World := { w with driver := f w.driver }

/-- How far the meter's clock is off. -/
def clockDiff (utcTimeS now : Nat) : Nat :=
  if utcTimeS < now then now - utcTimeS else utcTimeS - now

variable (maxClockDiffS now : Nat)

def timeSync (x : Exchanges) (w : World) : Option World := do
  let w ← sendReceive .getTime x.getTime w
  if clockDiff w.driver.utcTimeS now > maxClockDiffS then sendReceive .setTime x.setTime w
  else some w

def getMeterOcmf : Option (String × World) := do
  let w ← sendReceive .getLastTransactionOcmf x.ocmf (w.mapDriver Driver.prepareOcmf)
  some (w.driver.checkOcmf.1, { w with driver := w.driver.checkOcmf.2 })

def doStopTransaction : Option (TransactionStopResponse × World) := do
  let w ← sendReceive .stopTransaction x.stop (w.mapDriver Driver.prepareStop)
  let w := w.mapDriver Driver.checkStop
  if w.driver.stopTransactResult ≠ .ok then some ({ status := .unexpectedError }, w)
  else do
    let (ocmfResult, w) ← getMeterOcmf x w
    some (stopResponse ocmfResult, w)

/-- What a successful stop leaves in the flag. -/
def World.stopped (response : TransactionStopResponse) : World :=
  if response.status = .ok then w.mapDriver fun d => { d with needToStopTransaction := false }
  else w

/-- A clean-up that fails goes unnoticed. -/
def cleanupDanglingTransaction : Option World :=
  if w.driver.needToStopTransaction then do
    let (response, w) ← doStopTransaction x w
    some (w.stopped response)
  else some w

def Driver.prepareStart (d : Driver) : Driver :=
  { d with startTransactResult := .pending, startTransactionMsgStatus := .sent }

def Driver.checkStart (d : Driver) : Driver :=
  if d.startTransactionMsgStatus ≠ .received then { d with startTransactResult := .timeout } else d

/-- The part of a start before the START command. -/
def prepareStart (x : Exchanges) (w : World) : Option World := do
  let w ← timeSync maxClockDiffS now x w
  cleanupDanglingTransaction x w

def sendStart : Option (TransactionRequestStatus × World) := do
  let w ← sendReceive .startTransaction x.start (w.mapDriver Driver.prepareStart)
  let w := w.mapDriver Driver.checkStart
  if w.driver.startTransactResult ≠ .ok then some (.unexpectedError, w)
  else some (.ok, w.mapDriver fun d => { d with needToStopTransaction := true })

def handleStartTransaction (x : Exchanges) (w : World) :
    Option (TransactionRequestStatus × World) :=
  if w.driver.communicationTimeout then some (.unexpectedError, w)
  else do
    let w ← prepareStart maxClockDiffS now x w
    sendStart x w

def handleStopTransaction :
    Option (TransactionStopResponse × World) :=
  if w.driver.communicationTimeout then
    some ({ status := .unexpectedError },
      w.mapDriver fun d => { d with needToStopTransaction := true })
  else do
    let (response, w) ← doStopTransaction x w
    some (response, w.stopped response)

def ready (connectFailed : Bool) (x : Exchanges) (m : Meter) :
    Option World := do
  let w ← sendReceive .getStatusWord x.statusWord ⟨{ errorActive := connectFailed }, m⟩
  let w := w.mapDriver fun d => { d with needToStopTransaction := d.charging }
  timeSync maxClockDiffS now x w

inductive Call
  /-- The module is started, for the first time or again. -/
  | ready (now : Nat) (connectFailed : Bool) (exchanges : Exchanges)
  | startTransaction (now : Nat) (exchanges : Exchanges)
  | stopTransaction (exchanges : Exchanges)
  /-- Another thread's exchange times out, or is answered. -/
  | telemetry (reply : Reply)
  deriving DecidableEq

/-- A call that does not return in the attempts it is given is not a step. -/
def step (maxClockDiffS : Nat) (w : World) : Call → World
  | .ready now connectFailed x => (ready maxClockDiffS now connectFailed x w.meter).getD w
  | .startTransaction now x =>
    ((handleStartTransaction maxClockDiffS now x w).map Prod.snd).getD w
  | .stopTransaction x => ((handleStopTransaction x w).map Prod.snd).getD w
  | .telemetry reply => w.mapDriver fun d => (receive d reply).1

end EverestCore.DzgGsh01
