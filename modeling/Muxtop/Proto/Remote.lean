import Muxtop.Foundation.Runs
import Muxtop.Proto.Wire

/-!
# The remote collector

Reference: `muxtop-proto/src/remote.rs`.

`connect_and_stream` awaits the connection, the TLS handshake, the write of the hello and the welcome
in turn, and then selects between the next frame and the cancellation token. A client takes one event
at a time; an event for a future that is not awaited has no effect on it. `run` makes one attempt
after another and sleeps in between.
-/

namespace Muxtop.Proto

open ByteStream Muxtop.Core

/-- Why a protocol error was raised. The source keeps its text. -/
inductive ProtocolReason
  | tlsTimedOut
  | tlsFailed
  | proto (error : ProtoError)
  | expectedWelcome (actual : WireMessage)
deriving DecidableEq, Repr

/-- Errors from the remote collector. -/
inductive RemoteError
  | io (kind : ErrorKind)
  | protocol (reason : ProtocolReason)
  | handshakeTimeout
  | connectionClosed
  | serverError (code : UInt16) (message : String)
deriving DecidableEq, Repr

/-- Connection event sent to the TUI for status display. -/
inductive ConnectionEvent
  | connected (hostname : String)
  | disconnected
  | serverError (code : UInt16) (message : String)
deriving DecidableEq, Repr

/-! ## The channel to the TUI -/

/-- A bounded channel of snapshots, oldest first. -/
structure SnapshotChannel where
  capacity : ℕ
  queue : List SystemSnapshot
  /-- the receiver is gone -/
  closed : Bool
deriving DecidableEq, Repr

inductive TrySendError
  | full
  | closed
deriving DecidableEq, Repr

namespace SnapshotChannel

/-- `try_send` -/
def trySend (channel : SnapshotChannel) (snapshot : SystemSnapshot) :
    Except TrySendError SnapshotChannel :=
  if channel.closed then .error .closed
  else if channel.capacity ≤ channel.queue.length then .error .full
  else .ok { channel with queue := channel.queue ++ [snapshot] }

end SnapshotChannel

/-! ## One connection -/

/-- What `connect_and_stream` awaits, or its result. -/
inductive ClientPhase
  | connecting
  | tlsHandshake
  | writingHello
  | awaitingWelcome
  | streaming
  | returned (result : Except RemoteError Unit)
deriving DecidableEq, Repr

/-- One call of `connect_and_stream`. -/
structure Client where
  phase : ClientPhase
  /-- the server's stream as it has reached the reader -/
  received : Stream
  written : List Frame
  /-- the messages decoded so far -/
  messages : List WireMessage
  /-- the connection events offered to the TUI -/
  announced : List ConnectionEvent
  channel : SnapshotChannel
  /-- the snapshots that the channel took -/
  forwarded : List SystemSnapshot
deriving DecidableEq, Repr

/-- A call that has just begun. -/
def Client.start (channel : SnapshotChannel) : Client where
  phase := .connecting
  received := ⟨[], .pending⟩
  written := []
  messages := []
  announced := []
  channel := channel
  forwarded := []

inductive TlsOutcome
  | established
  | failed
  | timedOut
deriving DecidableEq, Repr

/-- What happens to a client: a future resolves, bytes or the end of the server's stream reach the
reader, the reader is polled, or the TUI takes a snapshot or drops its receiver. -/
inductive ClientEvent
  | tcpConnect (result : Except ErrorKind Unit)
  | tlsConnect (outcome : TlsOutcome)
  | helloWritten (fault : Option ErrorKind)
  | arrived (piece : Piece)
  | ended (ending : Ending ErrorKind)
  | polled
  | handshakeTimeout
  | cancelled
  | taken
  | receiverDropped
deriving DecidableEq, Repr

/-- What a collector is made with. -/
structure RemoteConfig where
  clientVersion : String
  token : Option String
deriving DecidableEq, Repr

variable (layout : Layout) (config : RemoteConfig)

namespace Client

/-- Return with an error. -/
def fail (client : Client) (e : RemoteError) : Client :=
  { client with phase := .returned (.error e) }

/-- `send_conn_event` -/
def announce (client : Client) (event : ConnectionEvent) : Client :=
  { client with announced := client.announced ++ [event] }

/-- Write the hello. -/
def sendHello (client : Client) (fault : Option ErrorKind) : Client :=
  match (WireMessage.hello config.clientVersion config.token).toFrame layout with
  | .error e => client.fail (.protocol (.proto e))
  | .ok helloFrame =>
      match writeFrame helloFrame fault client.written with
      | (.error e, written) => { client with written := written }.fail (.protocol (.proto e))
      | (.ok (), written) => { client with written := written, phase := .awaitingWelcome }

/-- Judge the first message of the server. -/
def judgeWelcome (client : Client) : WireMessage → Client
  | .welcome _ hostname _ =>
      { client with phase := .streaming }.announce (.connected hostname)
  | .error code message =>
      (client.announce (.serverError code message)).fail (.serverError code message)
  | other => client.fail (.protocol (.expectedWelcome other))

/-- Handle a message of the streaming loop. -/
def handleMessage (client : Client) : WireMessage → Client
  | .snapshot snapshot =>
      match client.channel.trySend snapshot with
      | .ok channel =>
          { client with channel := channel, forwarded := client.forwarded ++ [snapshot] }
      | .error .full => client
      | .error .closed => { client with phase := .returned (.ok ()) }
  | .heartbeat _ _ => client
  | .error code message =>
      (client.announce (.serverError code message)).fail (.serverError code message)
  | .hello _ _ | .welcome _ _ _ => client

/-- Poll the read of a frame on what has been received, and hand its message on. -/
def poll (client : Client) (handle : Client → WireMessage → Client) : Client :=
  match readFrame client.received with
  | (.pending, _) => client
  | (.ready (.error e), rest) => { client with received := rest }.fail (.protocol (.proto e))
  | (.ready (.ok none), rest) => { client with received := rest }.fail .connectionClosed
  | (.ready (.ok (some frame)), rest) =>
      match WireMessage.fromFrame layout frame with
      | .error e => { client with received := rest }.fail (.protocol (.proto e))
      | .ok message =>
          handle { client with received := rest, messages := client.messages ++ [message] } message

/-- What an awaited future resolves to, by what is awaited. -/
def resolve (client : Client) (event : ClientEvent) : Client :=
  match client.phase, event with
  | .connecting, .tcpConnect (.ok ()) => { client with phase := .tlsHandshake }
  | .connecting, .tcpConnect (.error e) => client.fail (.io e)
  | .connecting, .cancelled => { client with phase := .returned (.ok ()) }
  | .tlsHandshake, .tlsConnect .established => { client with phase := .writingHello }
  | .tlsHandshake, .tlsConnect .failed => client.fail (.protocol .tlsFailed)
  | .tlsHandshake, .tlsConnect .timedOut => client.fail (.protocol .tlsTimedOut)
  | .tlsHandshake, .cancelled => { client with phase := .returned (.ok ()) }
  | .writingHello, .helloWritten fault => client.sendHello layout config fault
  | .awaitingWelcome, .polled => client.poll layout judgeWelcome
  | .awaitingWelcome, .handshakeTimeout => client.fail .handshakeTimeout
  | .streaming, .polled => client.poll layout handleMessage
  | .streaming, .cancelled => { client with phase := .returned (.ok ()) }
  | _, _ => client

/-- One event of a client. -/
def step (client : Client) (event : ClientEvent) : Client :=
  match event with
  | .arrived piece =>
      { client with
        received := { client.received with pieces := client.received.pieces ++ [piece] } }
  | .ended ending => { client with received := { client.received with ending := ending } }
  | .taken => { client with channel.queue := client.channel.queue.tail }
  | .receiverDropped => { client with channel.closed := true }
  | event => client.resolve layout config event

/-- A Welcome was received. -/
def welcomed (client : Client) : Bool :=
  match client.messages with
  | .welcome _ _ _ :: _ => true
  | _ => false

end Client

/-- `connect_and_stream`, on the events of one attempt. -/
def connectAndStream (channel : SnapshotChannel) (events : List ClientEvent) : Client :=
  Runs.run (Client.step layout config) (Client.start channel) events

/-! ## The reconnection loop -/

/-- Initial backoff delay, in milliseconds. -/
def initialBackoff : ℕ := 1000

/-- Maximum backoff delay between reconnection attempts, in milliseconds. -/
def maxBackoff : ℕ := 30 * 1000

/-- The events of one attempt, and whether the token fires before it or in the sleep after it. -/
structure Attempt where
  cancelledBefore : Bool
  events : List ClientEvent
  cancelledAsleep : Bool
deriving DecidableEq, Repr

/-- How an attempt ended. -/
structure Ended where
  error : RemoteError
  welcomed : Bool
deriving DecidableEq, Repr

/-- The state of `run` between attempts. -/
structure Collector where
  backoff : ℕ
  channel : SnapshotChannel
  announced : List ConnectionEvent
  /-- the attempts that ended in an error -/
  ended : List Ended
  /-- the delay slept after each of them -/
  slept : List ℕ
  /-- no further attempt begins: the loop was left, or the last attempt goes on -/
  stopped : Bool
deriving DecidableEq, Repr

def Collector.start (channel : SnapshotChannel) : Collector where
  backoff := initialBackoff
  channel := channel
  announced := []
  ended := []
  slept := []
  stopped := false

/-- Sleep after an attempt that ended in an error, and then set the backoff of the next. -/
def Collector.sleep (s : Collector) (e : RemoteError) (welcomed cancelledAsleep : Bool) : Collector :=
  let s := { s with
    announced := s.announced ++ [ConnectionEvent.disconnected]
    ended := s.ended ++ [Ended.mk e welcomed]
    slept := s.slept ++ [s.backoff] }
  if cancelledAsleep then { s with stopped := true }
  else if e = .connectionClosed then { s with backoff := initialBackoff }
  else { s with backoff := min (s.backoff * 2) maxBackoff }

/-- One turn of the loop. -/
def Collector.step (s : Collector) (attempt : Attempt) : Collector :=
  if s.stopped then s
  else if attempt.cancelledBefore then { s with stopped := true }
  else
    let client := connectAndStream layout config s.channel attempt.events
    let s := { s with channel := client.channel, announced := s.announced ++ client.announced }
    match client.phase with
    | .returned (.error e) => s.sleep e client.welcomed attempt.cancelledAsleep
    | _ => { s with stopped := true }

/-- `run`, on a list of attempts. -/
def runCollector (channel : SnapshotChannel) (attempts : List Attempt) : Collector :=
  Runs.run (Collector.step layout config) (Collector.start channel) attempts

end Muxtop.Proto
