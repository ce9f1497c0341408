import Muxtop.Foundation.Bincode
import Muxtop.Foundation.ByteStream

/-!
# Length-prefixed frames

Reference: `muxtop-proto/src/frame.rs`, `muxtop-proto/src/error.rs`.

Wire format: `[4 bytes BE length][1 byte msg_type][payload]`, where the length counts the type byte.
A frame is encoded by `encodeFrame`, decoded from a buffer by `decodeFrame` and from a stream by
`readFrameWithMaxPayload`.
-/

namespace Muxtop.Proto

open FixedWidth ByteStream

/-- The kinds of I/O error a transport reports. -/
inductive ErrorKind
  | unexpectedEof | connectionReset | connectionAborted | brokenPipe | timedOut | other
deriving DecidableEq, Repr

/-- Errors from the muxtop wire protocol. -/
inductive ProtoError
  | io (kind : ErrorKind)
  | encode (error : Bincode.EncodeError)
  | decode (error : Bincode.DecodeError)
  | unknownMessageType (msgType : UInt8)
  | frameTooLarge (size max : UInt32)
  | incompleteFrame (expected actual : ℕ)
deriving DecidableEq, Repr

/-- A framed message on the wire. -/
structure Frame where
  msgType : UInt8
  payload : List UInt8
deriving DecidableEq, Repr

/-- Maximum frame content size: 4 MiB, the type byte included. -/
def maxFrameSize : UInt32 := 4 * 1024 * 1024

/-- Header size: 4 bytes length. -/
def headerSize : ℕ := 4

/-- `u32::to_be_bytes` -/
def toBeBytes (n : UInt32) : List UInt8 := beBytes headerSize n.toNat

/-- `u32::from_be_bytes` -/
def fromBeBytes (bytes : List UInt8) : UInt32 := UInt32.ofNat (ofBeBytes bytes)

/-- Encode a frame into bytes. -/
def encodeFrame (frame : Frame) : Except ProtoError (List UInt8) :=
  let contentLen := 1 + frame.payload.length
  if maxFrameSize.toNat < contentLen then
    .error (.frameTooLarge (UInt32.ofNat contentLen) maxFrameSize)
  else .ok (toBeBytes (UInt32.ofNat contentLen) ++ frame.msgType :: frame.payload)

/-- Decode a frame from a byte slice, with the number of bytes consumed. -/
def decodeFrame (buf : List UInt8) : Except ProtoError (Frame × ℕ) :=
  if buf.length < headerSize then .error (.incompleteFrame headerSize buf.length)
  else
    let contentLen := fromBeBytes (buf.take headerSize)
    let total := headerSize + contentLen.toNat
    if maxFrameSize < contentLen then .error (.frameTooLarge contentLen maxFrameSize)
    else if buf.length < total then .error (.incompleteFrame total buf.length)
    else if contentLen = 0 then .error (.incompleteFrame (headerSize + 1) headerSize)
    else .ok (⟨(buf.drop headerSize).headD 0, (buf.take total).drop (headerSize + 1)⟩, total)

/-- A stream of bytes as the frame reader sees it. -/
abbrev Stream : Type := Source ErrorKind

/-- Read from the stream; its end is an `UnexpectedEof` error. -/
def readExact (n : ℕ) (stream : Stream) : Poll (Except ErrorKind (List UInt8)) × Stream :=
  ByteStream.readExact .unexpectedEof n stream

/-- `usize::saturating_add`, on 64 bits -/
def saturatingAdd (m n : ℕ) : ℕ := min (m + n) (2 ^ 64 - 1)

/-- Read the type byte and the payload behind an accepted header. -/
def readBody (payloadLen : ℕ) (stream : Stream) :
    Poll (Except ProtoError (Option Frame)) × Stream :=
  match readExact 1 stream with
  | (.pending, stream) => (.pending, stream)
  | (.ready (.error e), stream) => (.ready (.error (.io e)), stream)
  | (.ready (.ok typeBuf), stream) =>
      if 0 < payloadLen then
        match readExact payloadLen stream with
        | (.pending, stream) => (.pending, stream)
        | (.ready (.error e), stream) => (.ready (.error (.io e)), stream)
        | (.ready (.ok payload), stream) => (.ready (.ok (some ⟨typeBuf.headD 0, payload⟩)), stream)
      else (.ready (.ok (some ⟨typeBuf.headD 0, []⟩)), stream)

/-- Read one complete frame from the stream with a payload cap, the type byte not counted. The header
is judged before anything is read behind it. -/
def readFrameWithMaxPayload (maxPayload : ℕ) (stream : Stream) :
    Poll (Except ProtoError (Option Frame)) × Stream :=
  match readExact headerSize stream with
  | (.pending, stream) => (.pending, stream)
  | (.ready (.error .unexpectedEof), stream) => (.ready (.ok none), stream)
  | (.ready (.error e), stream) => (.ready (.error (.io e)), stream)
  | (.ready (.ok header), stream) =>
      let contentLen := fromBeBytes header
      if maxFrameSize < contentLen then
        (.ready (.error (.frameTooLarge contentLen maxFrameSize)), stream)
      else if contentLen = 0 then (.ready (.error (.incompleteFrame 1 0)), stream)
      else if maxPayload < contentLen.toNat - 1 then
        (.ready (.error (.frameTooLarge contentLen
          (UInt32.ofNat (min (saturatingAdd maxPayload 1) (2 ^ 32 - 1))))), stream)
      else readBody (contentLen.toNat - 1) stream

/-- Read one complete frame from the stream, under the global cap. -/
def readFrame (stream : Stream) : Poll (Except ProtoError (Option Frame)) × Stream :=
  readFrameWithMaxPayload (maxFrameSize.toNat - 1) stream

/-- The frames of `count` successive reads, and what the stream is left with; `none` when one of the
reads gives no frame. -/
def readFrames (maxPayload : ℕ) : (count : ℕ) → Stream → Option (List Frame × Stream)
  | 0, stream => some ([], stream)
  | count + 1, stream =>
      match readFrameWithMaxPayload maxPayload stream with
      | (.ready (.ok (some frame)), stream) =>
          (readFrames maxPayload count stream).map fun read => (frame :: read.1, read.2)
      | _ => none

/-- Write one frame and flush. `fault` is the error of the transport, if it fails, and `written` the
frames handed to it so far, each of which it may have taken in part. -/
def writeFrame (frame : Frame) (fault : Option ErrorKind) (written : List Frame) :
    Except ProtoError Unit × List Frame :=
  match encodeFrame frame with
  | .error e => (.error e, written)
  | .ok _ =>
      match fault with
      | some e => (.error (.io e), written ++ [frame])
      | none => (.ok (), written ++ [frame])

end Muxtop.Proto
