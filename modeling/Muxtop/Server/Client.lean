import Muxtop.Foundation.Runs
import Muxtop.Proto.Wire

/-!
# One client session

Reference: `muxtop-server/src/client.rs`.

`handle` awaits the hello under a timeout, and then selects between the broadcast, the heartbeat timer
and the cancellation token. A session takes one event at a time: bytes that reach its reader, the end
of the peer's stream, or what one of the awaited futures resolves to. What arrives for a future that is
not awaited has no effect on the session.
-/

namespace Muxtop.Server

open ByteStream Muxtop.Proto
open Bincode.Codec (utf8)

/-- Errors from the muxtop server. The source reports an unexpected message by its debug text. -/
inductive ServerError
  | io (kind : ErrorKind)
  | proto (error : ProtoError)
  | unauthorized
  | handshakeTimeout
  | unexpectedMessage (expected : String) (actual : WireMessage)
deriving DecidableEq, Repr

/-- What a session reads of the shared server state. -/
structure SharedState where
  authToken : String
  serverVersion : String
  hostname : String
  refreshHz : UInt32
deriving DecidableEq, Repr

/-- Pre-authentication payload cap. -/
def preAuthHelloMaxPayload : ℕ := 4 * 1024

/-- Byte comparison without early return. The shorter slice is padded with zeros. -/
def constantTimeEq (a b : List UInt8) : Bool :=
  let lenMatches := a.length == b.length
  let maxLen := max a.length b.length
  let diff := (List.range maxLen).foldl (fun diff i => diff ||| (a.getD i 0 ^^^ b.getD i 0)) 0
  diff == 0 && lenMatches

/-- Where a session is: awaiting the hello, streaming, or returned. -/
inductive Phase
  | handshake
  | streaming
  | returned (result : Except ServerError Unit)
deriving DecidableEq, Repr

structure Session where
  phase : Phase
  /-- the peer's stream as it has reached the reader -/
  received : Stream
  /-- the frames handed to the writer -/
  written : List Frame
deriving DecidableEq, Repr

/-- A session that has just been accepted. -/
def Session.start : Session := ⟨.handshake, ⟨[], .pending⟩, []⟩

/-- What `snapshot_rx.recv()` resolves to. -/
inductive Recv
  | frame (frame : Frame)
  | lagged (skipped : UInt64)
  | closed
deriving DecidableEq, Repr

/-- What happens to a session. Events that may write carry the fault of the transport, if any. -/
inductive Event
  | arrived (piece : Piece) (fault : Option ErrorKind)
  | ended (ending : Ending ErrorKind) (fault : Option ErrorKind)
  | handshakeTimeout
  | received (result : Recv) (fault : Option ErrorKind)
  | heartbeatTick (uptimeSecs : UInt64) (fault : Option ErrorKind)
  | cancelled
deriving DecidableEq, Repr

variable (layout : Layout) (shared : SharedState)

/-- Write the frame of a message, if it has one, and go on in `next` unless the write fails. -/
def sendMessage (message : WireMessage) (fault : Option ErrorKind) (next : Phase) (s : Session) :
    Session :=
  match message.toFrame layout with
  | .error e => { s with phase := .returned (.error (.proto e)) }
  | .ok frame =>
      match writeFrame frame fault s.written with
      | (.error e, written) => { s with phase := .returned (.error (.proto e)), written := written }
      | (.ok (), written) => { s with phase := next, written := written }

/-- Refuse the peer: the outcome of the write is ignored. -/
def refuse (fault : Option ErrorKind) (s : Session) : Session :=
  match (WireMessage.error 401 "unauthorized").toFrame layout with
  | .error e => { s with phase := .returned (.error (.proto e)) }
  | .ok frame =>
      { s with
        phase := .returned (.error .unauthorized)
        written := (writeFrame frame fault s.written).2 }

/-- Judge the frame that was read, and welcome or refuse the peer. -/
def judgeHello (helloFrame : Frame) (fault : Option ErrorKind) (s : Session) : Session :=
  match WireMessage.fromFrame layout helloFrame with
  | .error e => { s with phase := .returned (.error (.proto e)) }
  | .ok (.hello _ authToken) =>
      let provided := authToken.getD ""
      if !constantTimeEq (utf8 shared.authToken) (utf8 provided) then refuse layout fault s
      else
        sendMessage layout (.welcome shared.serverVersion shared.hostname shared.refreshHz) fault
          .streaming s
  | .ok other => { s with phase := .returned (.error (.unexpectedMessage "Hello" other)) }

/-- Poll the read of the hello on all that has been received. -/
def pollHello (fault : Option ErrorKind) (s : Session) : Session :=
  match (readFrameWithMaxPayload preAuthHelloMaxPayload s.received).1 with
  | .pending => s
  | .ready (.error e) => { s with phase := .returned (.error (.proto e)) }
  | .ready (.ok none) => { s with phase := .returned (.error .handshakeTimeout) }
  | .ready (.ok (some helloFrame)) => judgeHello layout shared helloFrame fault s

/-- One event while the hello is awaited. -/
def handshakeStep (s : Session) : Event → Session
  | .arrived piece fault =>
      pollHello layout shared fault
        { s with received := { s.received with pieces := s.received.pieces ++ [piece] } }
  | .ended ending fault =>
      pollHello layout shared fault { s with received := { s.received with ending := ending } }
  | .handshakeTimeout => { s with phase := .returned (.error .handshakeTimeout) }
  | _ => s

/-- One event of the streaming loop. -/
def streamingStep (s : Session) : Event → Session
  | .received (.frame frame) fault =>
      match writeFrame frame fault s.written with
      | (.error e, written) => { s with phase := .returned (.error (.proto e)), written := written }
      | (.ok (), written) => { s with written := written }
  | .received (.lagged _) _ => s
  | .received .closed _ => { s with phase := .returned (.ok ()) }
  | .heartbeatTick uptimeSecs fault =>
      sendMessage layout (.heartbeat shared.serverVersion uptimeSecs) fault .streaming s
  | .cancelled => { s with phase := .returned (.ok ()) }
  | _ => s

/-- One event of a session. -/
def sessionStep (s : Session) (event : Event) : Session :=
  match s.phase with
  | .handshake => handshakeStep layout shared s event
  | .streaming => streamingStep layout shared s event
  | .returned _ => s

/-- `handle`, on the events of a session. -/
def handle (events : List Event) : Session :=
  Runs.run (sessionStep layout shared) Session.start events

end Muxtop.Server
