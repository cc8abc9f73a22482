import EverestCore.Lib.Machine
import EverestCore.V2G.IsoServer
import EverestCore.V2G.DinServer

/-!
# Connections that share one context

The TCP server (`connection.cpp`) and the TLS server (`tls_connection.cpp`) accept
connections in threads of their own; each accepted connection gets another one. All of them
work on the same context. `connection_initiated` is to keep a second connection away.
-/

namespace EverestCore.V2G

open EverestCore.Lib

/-! ## One connection -/

inductive Transport
  | tcp | tls
  deriving DecidableEq

inductive Pc
  /-- accepted by the socket -/
  | incoming
  /-- `connection_initiated` was read as false -/
  | tested
  /-- the TCP server has read it as true -/
  | refused
  /-- `connection_initiated` is set, the thread not yet created -/
  | starting
  | started
  /-- `ctx->state` was read as 0 -/
  | entering
  /-- in the loop of `v2g_handle_connection` -/
  | handling
  /-- behind the loop -/
  | leaving
  /-- about to clear `connection_initiated`; `ran` unless the session was already running -/
  | finished (ran : Bool)
  | cleared (ran : Bool)
  | done
  deriving DecidableEq

def Pc.active : Pc → Bool
  | .incoming | .tested | .refused | .done => false
  | _ => true

inductive AnyRequest
  | iso (req : Iso.Request)
  | din (req : Din.Request)

def AnyRequest.handle (conn : Connection) : AnyRequest → Connection × V2gEvent
  | .iso req =>
    let out := Iso.isoHandleRequest conn req
    (out.conn, out.event)
  | .din req =>
    let out := Din.dinHandleRequest conn req
    (out.conn, out.event)

/-- The step taken next for a connection, with what the outer world decides in it. -/
inductive Action
  | test
  | set
  | refuse
  /-- the thread is created, or that fails -/
  | start (created : Bool)
  /-- the session is entered if none is running; a TLS handshake may fail before -/
  | dispatch (handshake : Bool)
  | enter
  | request (req : AnyRequest)
  /-- the EV closes the connection, or does not send in time -/
  | hangUp
  | leave
  | clear
  | teardown

def connectionTeardown (conn : Connection) : Connection :=
  let conn :=
    if conn.ctx.isCharging then
      (conn.publish .currentDemandFinished).publish
        (if conn.ctx.isDcCharger then .dcOpenContactor else .acOpenContactor)
    else conn
  let conn := conn.mapCtx (v2gCtxInitChargingSession · true)
  match conn.dlinkAction with
  | .error => conn
  | .terminate => conn.publish .dlinkTerminate
  | .pause => conn.publish .dlinkPause

/-- A step for a connection: `connection_server` and `connection_handle_tcp`, or
`handle_new_connection_cb` and `process_connection_thread`. -/
def act (transport : Transport) (conn : Connection) : Pc → Action → Option (Pc × Connection)
  | .incoming, .test =>
    if conn.ctx.connectionInitiated then
      -- the TLS server only returns
      some (if transport = .tcp then .refused else .done, conn)
    else some (.tested, conn)
  | .refused, .refuse => some (.done, connectionTeardown conn)
  | .tested, .set => some (.starting, conn.mapCtx ({ · with connectionInitiated := true }))
  | .starting, .start created =>
    if created then some (.started, conn)
    else some (.done, conn.mapCtx ({ · with connectionInitiated := false }))
  | .started, .dispatch handshake =>
    match transport with
    | .tcp =>
      let conn := conn.mapCtx (·.removeService serviceIdCertificate)
      some (if conn.ctx.state = 0 then .entering else .finished false, conn)
    | .tls =>
      some (if handshake ∧ conn.ctx.state = 0 then .entering else .finished false, conn)
  | .entering, .enter => some (.handling, conn.mapCtx (v2gCtxInitChargingState · false))
  | .handling, .request req =>
    let (conn, event) := req.handle conn
    some (if event.closes then .leaving else .handling, conn)
  | .handling, .hangUp => some (.leaving, conn)
  | .leaving, .leave => some (.finished true, conn.mapCtx (v2gCtxInitChargingState · true))
  | .finished ran, .clear =>
    some (.cleared ran, conn.mapCtx ({ · with connectionInitiated := false }))
  | .cleared ran, .teardown =>
    if transport = .tcp ∧ ran = false then some (.done, conn)
    else some (.done, connectionTeardown conn)
  | _, _ => none

/-! ## All connections -/

structure Client where
  transport : Transport
  pc : Pc := .incoming
  conn : Connection

structure Server where
  ctx : Context
  clients : List Client := []
  /-- observer: what the last step has published -/
  published : List Signal := []

inductive Label
  | incoming (transport : Transport)
  | act (j : Nat) (action : Action)
  | write (w : Write)

variable (s : Server)

/-- Let client `j` act on the shared context. -/
def Server.act (j : Nat) (action : Action) : Server :=
  match s.clients[j]? with
  | none => { s with published := [] }
  | some client =>
    match V2G.act client.transport { client.conn with ctx := s.ctx, published := [] }
        client.pc action with
    | none => { s with published := [] }
    | some (pc, conn) =>
      { ctx := conn.ctx
        clients := s.clients.set j { client with pc := pc, conn := conn }
        published := conn.published }

/-- An incoming connection, a step for one of them, or a write of the charger. -/
def Server.step : Label → Server
  | .incoming transport =>
    { s with
      clients := s.clients ++
        [{ transport := transport
           conn := { ctx := s.ctx, isTlsConnection := transport = .tls } }]
      published := [] }
  | .act j action => s.act j action
  | .write w => { s with ctx := s.ctx.write w, published := [] }

def Server.start (c : Context) : Server := { ctx := { c with connectionInitiated := false } }

/-! ## The property -/

def Server.Active (i : Nat) : Prop :=
  (s.clients[i]?).any (·.pc.active) = true
deriving Decidable

def Server.owner : Label → Option Nat
  | .incoming _ => some s.clients.length
  | .act j _ => some j
  | .write _ => none

def stopSignals : List Signal := [.currentDemandFinished, .dcOpenContactor, .acOpenContactor]

/-- The session is untouched and nothing is published that ends it. -/
structure Quiet (before after : Server) : Prop where
  state : after.ctx.state = before.ctx.state
  sessionId : after.ctx.sessionId = before.ctx.sessionId
  evseProcessing : after.ctx.evseProcessing = before.ctx.evseProcessing
  isConnectionTerminated : after.ctx.isConnectionTerminated = before.ctx.isConnectionTerminated
  isCharging : after.ctx.isCharging = before.ctx.isCharging
  published : ∀ signal ∈ after.published, signal ∉ stopSignals

/-- The step disturbs no connection but the one it is taken for. -/
def Undisturbed (label : Label) : Prop :=
  ∀ i j, s.Active i → s.owner label = some j → i ≠ j → Quiet s (s.step label)

/-- No client but `j` is active. -/
def Server.Alone (j : Nat) : Prop :=
  ∀ i < s.clients.length, i ≠ j → ¬ s.Active i

instance (s : Server) (j : Nat) : Decidable (s.Alone j) :=
  inferInstanceAs (Decidable (∀ i < s.clients.length, _))

/-- A connection is accepted, and a TCP connection refused, while no other one is active. -/
def Orderly : Label → Prop
  | .act j .set | .act j .refuse => s.Alone j
  | _ => True

instance (s : Server) : ∀ label, Decidable (Orderly s label)
  | .act j .set | .act j .refuse => inferInstanceAs (Decidable (s.Alone j))
  | .incoming _ | .write _ => .isTrue trivial
  | .act _ .test | .act _ (.start _) | .act _ (.dispatch _) | .act _ .enter
  | .act _ (.request _) | .act _ .hangUp | .act _ .leave | .act _ .clear
  | .act _ .teardown => .isTrue trivial

/-! ## Steps of a connection that is not active -/

variable {transport : Transport} {action : Action}

theorem act_active {pc pc' : Pc} {conn conn' : Connection}
    (h : act transport conn pc action = some (pc', conn')) (hactive : pc'.active = true) :
    pc.active = true ∨ action = .set := by
  unfold act at h
  split at h
  · -- tested, refused or done after the test
    split at h
    · cases h
      revert hactive
      split <;> exact nofun
    · cases h
      cases hactive
  · cases h
    cases hactive
  · exact .inr rfl
  -- the other steps are those of an active connection
  all_goals first
    | exact .inl rfl
    | cases h

theorem act_inactive {pc pc' : Pc} {conn conn' : Connection}
    (h : act transport conn pc action = some (pc', conn')) (hpc : pc.active = false)
    (haction : action ≠ .refuse) :
    conn' = conn ∨ conn' = conn.mapCtx ({ · with connectionInitiated := true }) := by
  unfold act at h
  split at h
  · split at h <;> cases h <;> exact .inl rfl
  · exact absurd rfl haction
  · cases h
    exact .inr rfl
  all_goals first
    | cases hpc
    | cases h

/-! ## At most one active connection -/

theorem act_cases (j : Nat) (action : Action) :
    s.act j action = { s with published := [] } ∨
      ∃ client pc conn, s.clients[j]? = some client ∧
        act client.transport { client.conn with ctx := s.ctx, published := [] } client.pc
          action = some (pc, conn) ∧
        s.act j action =
          { ctx := conn.ctx
            clients := s.clients.set j { client with pc := pc, conn := conn }
            published := conn.published } := by
  unfold Server.act
  split
  · exact .inl rfl
  · rename_i client hclient
    split
    · exact .inl rfl
    · rename_i pc conn hact
      exact .inr ⟨client, pc, conn, hclient, hact, rfl⟩

theorem active_act {s : Server} {i j : Nat} (h : (s.act j action).Active i) :
    s.Active i ∨ (i = j ∧ action = .set) := by
  rcases act_cases s j action with hsame | ⟨client, pc, conn, hclient, hact, hstep⟩
  · rw [hsame] at h
    exact .inl h
  · rw [hstep] at h
    unfold Server.Active at h ⊢
    by_cases hij : i = j
    · subst hij
      rw [List.getElem?_set_self (List.getElem?_eq_some_iff.mp hclient).1] at h
      rcases act_active hact h with hbefore | hset
      · rw [hclient]
        exact .inl hbefore
      · exact .inr ⟨rfl, hset⟩
    · rw [List.getElem?_set_ne (Ne.symm hij)] at h
      exact .inl h

theorem active_lt {s : Server} {i : Nat} (h : s.Active i) : i < s.clients.length := by
  by_contra hge
  unfold Server.Active at h
  rw [List.getElem?_eq_none (by omega)] at h
  cases h

/-- No two connections handle requests. -/
def AtMostOne : Prop := ∀ i j, s.Active i → s.Active j → i = j

theorem atMostOne_start (c : Context) : AtMostOne (Server.start c) := by
  intro i j hi
  cases active_lt hi

theorem active_incoming {s : Server} {i : Nat} (h : (s.step (.incoming transport)).Active i) :
    s.Active i := by
  unfold Server.Active at h ⊢
  rcases Nat.lt_or_ge i s.clients.length with hlt | hge
  · have hsame : (s.step (.incoming transport)).clients[i]? = s.clients[i]? :=
      List.getElem?_append_left hlt
    rw [hsame] at h
    exact h
  · have hnew : (s.step (.incoming transport)).clients[i]? = _ := List.getElem?_append_right hge
    rw [hnew] at h
    cases hk : i - s.clients.length with
    | zero | succ k =>
      rw [hk] at h
      cases h

/-- One step. -/
theorem atMostOne_step (label : Label) (hone : AtMostOne s)
    (horderly : Orderly s label) : AtMostOne (s.step label) := by
  cases label with
  | incoming transport =>
    intro i j hi hj
    exact hone i j (active_incoming hi) (active_incoming hj)
  | write w => exact hone
  | act k action =>
    intro i j hi hj
    rcases active_act hi with hi' | ⟨rfl, rfl⟩
    · rcases active_act hj with hj' | ⟨rfl, rfl⟩
      · exact hone i j hi' hj'
      · -- client `j` is accepted while no other one is active
        by_contra hij
        exact horderly i (active_lt hi') hij hi'
    · rcases active_act hj with hj' | ⟨rfl, -⟩
      · by_contra hij
        exact horderly j (active_lt hj') (Ne.symm hij) hj'
      · rfl

theorem undisturbed_of_orderly (label : Label) (hone : AtMostOne s)
    (horderly : Orderly s label) : Undisturbed s label := by
  intro i j hactive howner hij
  cases label with
  | incoming transport => exact ⟨rfl, rfl, rfl, rfl, rfl, nofun⟩
  | write w => cases howner
  | act k action =>
    cases howner
    -- client `j` is not the active one
    have hinactive : ¬ s.Active j := fun hj => hij (hone i j hactive hj)
    have haction : action ≠ .refuse := by
      rintro rfl
      exact horderly i (active_lt hactive) hij hactive
    rw [Server.step]
    rcases act_cases s j action with hsame | ⟨client, pc, conn, hclient, hact, hstep⟩
    · rw [hsame]
      exact ⟨rfl, rfl, rfl, rfl, rfl, nofun⟩
    · rw [hstep]
      have hpc : client.pc.active = false := by
        unfold Server.Active at hinactive
        rw [hclient] at hinactive
        exact Bool.eq_false_iff.mpr hinactive
      rcases act_inactive hact hpc haction with rfl | rfl <;> exact ⟨rfl, rfl, rfl, rfl, rfl, nofun⟩

/-- While connections are only accepted, and TCP connections only refused, if no other one
is active, no step disturbs another connection. -/
theorem connections_undisturbed (c : Context) (labels : List Label)
    (h : Along Server.step Orderly (Server.start c) labels) :
    Along Server.step Undisturbed (Server.start c) labels :=
  along_of_along atMostOne_step undisturbed_of_orderly (atMostOne_start c) h

/-- A TCP connection is accepted and its session set up. -/
def sessionOverTcp : List Label :=
  [.incoming .tcp, .act 0 .test, .act 0 .set, .act 0 (.start true), .act 0 (.dispatch true),
   .act 0 .enter, .act 0 (.request (.iso { sessionId := 0, body := .sessionSetup 7 }))]

/-- It ends, and a TLS connection is accepted after its teardown. -/
def oneAfterTheOther : List Label :=
  sessionOverTcp ++
    [.incoming .tls, .act 0 .hangUp, .act 0 .leave, .act 0 .clear, .act 0 .teardown,
     .act 1 .test, .act 1 .set, .act 1 (.start true), .act 1 (.dispatch true), .act 1 .enter]

theorem oneAfterTheOther_undisturbed :
    Along Server.step Orderly (Server.start {}) oneAfterTheOther ∧
      Along Server.step Undisturbed (Server.start {}) oneAfterTheOther := by
  have h : Along Server.step Orderly (Server.start {}) oneAfterTheOther := by decide +kernel
  exact ⟨h, connections_undisturbed {} oneAfterTheOther h⟩

/-- A second TCP connection comes in and finds the flag set. -/
def secondConnection : List Label := sessionOverTcp ++ [.incoming .tcp, .act 1 .test]

/-- Refusing it ends the running session: its state and session id are reset, and the first
connection counts as terminated while it still waits for requests. -/
theorem refused_connection_tears_down_session :
    ¬ Along Server.step Undisturbed (Server.start {}) (secondConnection ++ [.act 1 .refuse]) ∧
      (run Server.step (Server.start {}) secondConnection).ctx.state = 1 ∧
      (run Server.step (Server.start {}) secondConnection).ctx.sessionId = 7 ∧
      let after := run Server.step (Server.start {}) (secondConnection ++ [.act 1 .refuse])
      after.ctx.state = 0 ∧ after.ctx.sessionId = 0 ∧
        after.ctx.isConnectionTerminated = true ∧
        (after.clients[0]?).map (·.pc) = some .handling := by
  have hstate : (run Server.step (Server.start {}) secondConnection).ctx.state = 1 := by
    decide +kernel
  refine ⟨?_, hstate, by decide +kernel, ?_⟩
  · intro h
    have hlast := ((along_append _ _ _).mp h).2.1
    have hquiet := hlast 0 1 (by decide +kernel) rfl (by decide)
    have hreset : (Server.step (run Server.step (Server.start {}) secondConnection)
        (.act 1 .refuse)).ctx.state = 0 := by decide +kernel
    exact absurd (hreset.symm.trans (hquiet.state.trans hstate)) (by decide)
  · intro after
    refine ⟨?_, ?_, ?_, ?_⟩ <;> decide +kernel

end EverestCore.V2G
