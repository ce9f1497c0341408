import Muxtop.Proto.Frame
import Muxtop.Proto.SnapshotCodec

/-!
# Wire messages

Reference: `muxtop-proto/src/wire.rs`.

A message is framed under its type byte with the bincode encoding of its fields. Decoding runs under
a limit on claimed in-memory bytes equal to the frame cap; encoding has no limit.
-/

namespace Muxtop.Proto

open Bincode Bincode.Codec Muxtop.Core

/-- Wire protocol messages exchanged between client and server. -/
inductive WireMessage
  | snapshot (snap : SystemSnapshot)
  | heartbeat (serverVersion : String) (uptimeSecs : UInt64)
  | error (code : UInt16) (message : String)
  | hello (clientVersion : String) (authToken : Option String)
  | welcome (serverVersion hostname : String) (refreshHz : UInt32)
deriving DecidableEq, Repr

def msgSnapshot : UInt8 := 0x01
def msgHeartbeat : UInt8 := 0x02
def msgError : UInt8 := 0x03
def msgHello : UInt8 := 0x04
def msgWelcome : UInt8 := 0x05

/-- `MAX_DECODE_BYTES`: the most in-memory bytes a decoder claims. -/
def maxDecodeBytes : ℕ := maxFrameSize.toNat

variable (layout : Layout)

/-- The fields of a heartbeat. -/
def heartbeatFields : Codec (String × UInt64) := string.pair u64

/-- The fields of an error. -/
def errorFields : Codec (UInt16 × String) := u16.pair string

/-- The fields of a hello. -/
def helloFields : Codec (String × Option String) := string.pair string.option

/-- The fields of a welcome. -/
def welcomeFields : Codec (String × String × UInt32) := string.pair (string.pair u32)

/-- `?` on an encoding -/
def encodeOr {α : Type} (c : Codec α) (a : α) : Except ProtoError (List UInt8) :=
  (c.encodeToVec a).mapError .encode

/-- `?` on a decoding: the value is kept, the number of bytes it took is dropped. -/
def decodeOr {α : Type} (c : Codec α) (payload : List UInt8) : Except ProtoError α :=
  ((c.decodeFromSlice maxDecodeBytes payload).mapError .decode).map (·.1)

/-- Encode a snapshot into its frame without wrapping it in a message. -/
def encodeSnapshotRef (snap : SystemSnapshot) : Except ProtoError Frame := do
  .ok ⟨msgSnapshot, ← encodeOr (systemSnapshot layout) snap⟩

/-- Serialize a message into a frame. -/
def WireMessage.toFrame : WireMessage → Except ProtoError Frame
  | .snapshot snap => do .ok ⟨msgSnapshot, ← encodeOr (systemSnapshot layout) snap⟩
  | .heartbeat serverVersion uptimeSecs => do
      .ok ⟨msgHeartbeat, ← encodeOr heartbeatFields (serverVersion, uptimeSecs)⟩
  | .error code message => do .ok ⟨msgError, ← encodeOr errorFields (code, message)⟩
  | .hello clientVersion authToken => do
      .ok ⟨msgHello, ← encodeOr helloFields (clientVersion, authToken)⟩
  | .welcome serverVersion hostname refreshHz => do
      .ok ⟨msgWelcome, ← encodeOr welcomeFields (serverVersion, hostname, refreshHz)⟩

/-- The frame of a borrowed snapshot is that of its message. -/
theorem encodeSnapshotRef_eq_toFrame (snap : SystemSnapshot) :
    encodeSnapshotRef layout snap = (WireMessage.snapshot snap).toFrame layout := rfl

/-- Deserialize a frame into a message. -/
def WireMessage.fromFrame (frame : Frame) : Except ProtoError WireMessage :=
  if frame.msgType = msgSnapshot then do
    let snap ← decodeOr (systemSnapshot layout) frame.payload
    .ok (.snapshot snap)
  else if frame.msgType = msgHeartbeat then do
    let (serverVersion, uptimeSecs) ← decodeOr heartbeatFields frame.payload
    .ok (.heartbeat serverVersion uptimeSecs)
  else if frame.msgType = msgError then do
    let (code, message) ← decodeOr errorFields frame.payload
    .ok (.error code message)
  else if frame.msgType = msgHello then do
    let (clientVersion, authToken) ← decodeOr helloFields frame.payload
    .ok (.hello clientVersion authToken)
  else if frame.msgType = msgWelcome then do
    let (serverVersion, hostname, refreshHz) ← decodeOr welcomeFields frame.payload
    .ok (.welcome serverVersion hostname refreshHz)
  else .error (.unknownMessageType frame.msgType)

end Muxtop.Proto
