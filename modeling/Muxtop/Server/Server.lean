import Muxtop.Foundation.Broadcast
import Muxtop.Proto.Remote
import Muxtop.Server.Client
import Muxtop.Server.RateLimit

/-!
# The server

`run` of `muxtop-server/src/server.rs`: the relay task, which encodes each snapshot of the collector
once and broadcasts its frame, the accept loop, and the tasks it spawns, each of which holds a permit
from before its TLS handshake until it ends. An event is one step of one of them; an event whose task is
not there to take it leaves the state as it is.
-/

namespace Muxtop.Server

open Muxtop.Core Muxtop.Proto

/-- What the server is run with. -/
structure ServerConfig where
  maxClients : ℕ
  /-- connections per second; zero disables rate limiting -/
  rateLimitPerIp : ℚ
  shared : SharedState

/-- The per-IP rate limiter, whose burst is at least one. -/
def ServerConfig.rateLimiter (config : ServerConfig) : RateLimiter :=
  ⟨config.rateLimitPerIp, max config.rateLimitPerIp 1, maxTrackedIps⟩

/-- The capacity of the broadcast channel. -/
def broadcastCapacity : ℕ := 16

/-- Where a spawned task is. It has ended without a session when its TLS handshake fails. -/
inductive Stage
  | tlsHandshake
  | session (session : Session)
  | ended
deriving DecidableEq, Repr

/-- A spawned task, with the position of its broadcast receiver and the one it subscribed at. -/
structure Task where
  stage : Stage
  position : ℕ
  subscribed : ℕ
deriving DecidableEq, Repr

/-- The task has not returned, so it holds its permit and its receiver. -/
def Task.live (task : Task) : Bool :=
  match task.stage with
  | .tlsHandshake => true
  | .session session =>
      match session.phase with
      | .returned _ => false
      | _ => true
  | .ended => false

/-- Where the accept loop is: running, or left with a result. -/
inductive AcceptLoop
  | running
  | left (result : Except ErrorKind Unit)
deriving DecidableEq, Repr

structure ServerState where
  limiter : LimiterState
  permits : ℕ
  /-- the spawned tasks, in the order of their connections -/
  tasks : List Task
  broadcast : Broadcast Frame
  /-- the snapshots whose frames were broadcast -/
  relayed : List SystemSnapshot
  relayRunning : Bool
  cancelled : Bool
  acceptLoop : AcceptLoop

/-- What happens to the server: the cancellation token fires, or a future of the relay, of the accept
loop or of the `i`-th task resolves. -/
inductive ServerEvent
  | cancel
  | collected (snapshot : Option SystemSnapshot)
  | relayCancelled
  | accepted (result : Except ErrorKind Call)
  | acceptCancelled
  | tls (i : ℕ) (outcome : TlsOutcome)
  | recv (i : ℕ) (fault : Option ErrorKind)
  | session (i : ℕ) (event : Event)

variable (layout : Layout) (config : ServerConfig)

/-- The server as it starts to listen, at `now`. -/
def ServerState.start (now : Instant) : ServerState where
  limiter := RateLimiter.initialState now
  permits := config.maxClients
  tasks := []
  broadcast := ⟨broadcastCapacity, []⟩
  relayed := []
  relayRunning := true
  cancelled := false
  acceptLoop := .running

namespace ServerState

/-- How many tasks have not returned: as many receivers the broadcast channel has. -/
def receiverCount (s : ServerState) : ℕ := s.tasks.countP Task.live

/-- Both senders of the broadcast channel are gone. -/
def broadcastClosed (s : ServerState) : Bool := !s.relayRunning && s.acceptLoop ≠ .running

/-- The relay's step on a snapshot of the collector. -/
def relay (s : ServerState) (snapshot : SystemSnapshot) : ServerState :=
  if s.receiverCount = 0 then s
  else
    match encodeSnapshotRef layout snapshot with
    | .ok frame =>
        { s with broadcast := s.broadcast.send frame, relayed := s.relayed ++ [snapshot] }
    | .error _ => s

/-- The accept loop's step on a connection: the rate limiter, then the permit, then the task. -/
def accept (s : ServerState) (call : Call) : ServerState :=
  let admitted := config.rateLimiter.tryAdmit s.limiter call.ip call.now
  let s := { s with limiter := admitted.2 }
  if !admitted.1 then s
  else if s.permits = 0 then s
  else
    { s with
      permits := s.permits - 1
      tasks := s.tasks ++ [⟨.tlsHandshake, s.broadcast.sent.length, s.broadcast.sent.length⟩] }

/-- Let a task that has not returned take a step. Its permit is dropped when it returns. -/
def stepTask (s : ServerState) (i : ℕ) (step : Task → Task) : ServerState :=
  match s.tasks[i]? with
  | none => s
  | some task =>
      if !task.live then s
      else
        { s with
          tasks := s.tasks.set i (step task)
          permits := if (step task).live then s.permits else s.permits + 1 }

end ServerState

/-- What the TLS handshake resolves to. -/
def Task.tls (outcome : TlsOutcome) (task : Task) : Task :=
  match task.stage, outcome with
  | .tlsHandshake, .established => { task with stage := .session Session.start }
  | .tlsHandshake, _ => { task with stage := .ended }
  | _, _ => task

/-- One event of the session. -/
def Task.onSession (event : Event) (task : Task) : Task :=
  match task.stage with
  | .session session =>
      { task with stage := .session (sessionStep layout config.shared session event) }
  | _ => task

/-- The event of a session that is told this by the broadcast channel. -/
def Recv.ofDelivery : Broadcast.Delivery Frame → Recv
  | .value sent => .frame sent
  | .lagged skipped => .lagged (UInt64.ofNat skipped)

/-- The receiver of a streaming session resolves. -/
def Task.recv (broadcast : Broadcast Frame) (closed : Bool) (fault : Option ErrorKind) (task : Task) :
    Task :=
  match task.stage with
  | .session ⟨.streaming, _, _⟩ =>
      match broadcast.recv task.position with
      | some (delivery, position) =>
          { task with position := position }.onSession layout config
            (.received (Recv.ofDelivery delivery) fault)
      | none => if closed then task.onSession layout config (.received .closed fault) else task
  | _ => task

/-- An event of a session that does not come from the broadcast channel; the token's needs the token
to have fired. -/
def Event.ofPeer (cancelled : Bool) : Event → Bool
  | .received _ _ => false
  | .cancelled => cancelled
  | _ => true

/-- One event of the server. -/
def serverStep (s : ServerState) : ServerEvent → ServerState
  | .cancel => { s with cancelled := true }
  | .collected (some snapshot) => if s.relayRunning then s.relay layout snapshot else s
  | .collected none => { s with relayRunning := false }
  | .relayCancelled => if s.cancelled then { s with relayRunning := false } else s
  | .accepted result =>
      match s.acceptLoop with
      | .left _ => s
      | .running =>
          match result with
          | .error e => { s with acceptLoop := .left (.error e) }
          | .ok call => s.accept config call
  | .acceptCancelled =>
      match s.acceptLoop with
      | .left _ => s
      | .running => if s.cancelled then { s with acceptLoop := .left (.ok ()) } else s
  | .tls i outcome => s.stepTask i (Task.tls outcome)
  | .recv i fault => s.stepTask i (Task.recv layout config s.broadcast s.broadcastClosed fault)
  | .session i event =>
      if event.ofPeer s.cancelled then s.stepTask i (Task.onSession layout config event) else s

/-- `run`, on the events of a run that starts at `now`. -/
def runServer (now : Instant) (events : List ServerEvent) : ServerState :=
  Runs.run (serverStep layout config) (ServerState.start config now) events

end Muxtop.Server
