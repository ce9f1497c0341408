import Muxtop.Proto.FrameCodec
import Muxtop.Proto.Wire

/-!
# What a frame decodes to

A frame decodes to a message if and only if its payload starts with a spelling of the message whose
decoding claims no more than the limit. So the round trip holds up to the limit on claimed bytes, which
is in another unit than the frame cap, and a payload with bytes appended is not refused.
-/

namespace Muxtop.Proto

open Bincode Bincode.Codec Muxtop.Core

variable {layout : Layout}

/-- The type byte of a message. -/
def WireMessage.msgType : WireMessage → UInt8
  | .snapshot _ => msgSnapshot
  | .heartbeat _ _ => msgHeartbeat
  | .error _ _ => msgError
  | .hello _ _ => msgHello
  | .welcome _ _ _ => msgWelcome

/-- The payload is, in full, a bincode encoding of the message. -/
def WireMessage.Spelled (layout : Layout) (payload : List UInt8) : WireMessage → Prop
  | .snapshot snap => (systemSnapshot layout).Spells payload snap
  | .heartbeat serverVersion uptimeSecs =>
      heartbeatFields.Spells payload (serverVersion, uptimeSecs)
  | .error code message => errorFields.Spells payload (code, message)
  | .hello clientVersion authToken => helloFields.Spells payload (clientVersion, authToken)
  | .welcome serverVersion hostname refreshHz =>
      welcomeFields.Spells payload (serverVersion, hostname, refreshHz)

/-- The most in-memory bytes a decoder of the message has claimed at once. -/
def WireMessage.peakClaim (layout : Layout) : WireMessage → ℕ
  | .snapshot snap => (systemSnapshot layout).peak snap
  | .heartbeat serverVersion uptimeSecs => heartbeatFields.peak (serverVersion, uptimeSecs)
  | .error code message => errorFields.peak (code, message)
  | .hello clientVersion authToken => helloFields.peak (clientVersion, authToken)
  | .welcome serverVersion hostname refreshHz =>
      welcomeFields.peak (serverVersion, hostname, refreshHz)

/-! ## Decoding -/

theorem decodeOr_spelled {α : Type} {c : Codec α} {bs : List UInt8} {a : α} (h : c.Spells bs a)
    (rest : List UInt8) :
    decodeOr c (bs ++ rest) =
      if c.peak a ≤ maxDecodeBytes then .ok a else .error (.decode .limitExceeded) := by
  rw [decodeOr, c.decodeFromSlice_spelled h]
  split
  · rfl
  · rfl

theorem decodeOr_bind_spelled {α β : Type} {c : Codec α} {bs : List UInt8} {a : α}
    (h : c.Spells bs a) (rest : List UInt8) (next : α → Except ProtoError β) :
    (decodeOr c (bs ++ rest) >>= next) =
      if c.peak a ≤ maxDecodeBytes then next a else .error (.decode .limitExceeded) := by
  rw [decodeOr_spelled h]
  split
  · rfl
  · rfl

theorem spells_of_decodeOr {α : Type} {c : Codec α} {payload : List UInt8} {a : α}
    (h : decodeOr c payload = .ok a) :
    ∃ bs rest, c.Spells bs a ∧ payload = bs ++ rest ∧ c.peak a ≤ maxDecodeBytes := by
  unfold decodeOr at h
  cases hdecode : c.decodeFromSlice maxDecodeBytes payload with
  | error e =>
      rw [hdecode] at h
      cases h
  | ok r =>
      rw [hdecode] at h
      cases h
      obtain ⟨bs, rest, hspells, hpayload, -, hle⟩ := c.decodeFromSlice_eq_ok_iff.mp hdecode
      exact ⟨bs, rest, hspells, hpayload, hle⟩

/-- The types bytes are distinct, so the decoder of a message's type is the one that runs. -/
theorem fromFrame_spelled {m : WireMessage} {bs : List UInt8} (h : m.Spelled layout bs)
    (rest : List UInt8) :
    WireMessage.fromFrame layout ⟨m.msgType, bs ++ rest⟩ =
      if m.peakClaim layout ≤ maxDecodeBytes then .ok m
      else .error (.decode .limitExceeded) := by
  have hne : ¬msgHeartbeat = msgSnapshot ∧ ¬msgError = msgSnapshot ∧ ¬msgError = msgHeartbeat ∧
      ¬msgHello = msgSnapshot ∧ ¬msgHello = msgHeartbeat ∧ ¬msgHello = msgError ∧
      ¬msgWelcome = msgSnapshot ∧ ¬msgWelcome = msgHeartbeat ∧ ¬msgWelcome = msgError ∧
      ¬msgWelcome = msgHello := by decide
  cases m <;>
    simp only [WireMessage.fromFrame, WireMessage.msgType, hne, if_true, if_false] <;>
    exact decodeOr_bind_spelled h rest _

/-- A frame decodes to a message exactly when its payload starts with a spelling of the message that
is within the limit. -/
theorem fromFrame_eq_ok_iff {frame : Frame} {m : WireMessage} :
    WireMessage.fromFrame layout frame = .ok m ↔
      frame.msgType = m.msgType ∧ ∃ bs rest, m.Spelled layout bs ∧ frame.payload = bs ++ rest ∧
        m.peakClaim layout ≤ maxDecodeBytes := by
  constructor
  · intro h
    unfold WireMessage.fromFrame at h
    split at h
    · next htype =>
      obtain ⟨snap, hdecode, h⟩ := bind_eq_ok.mp h
      cases h
      exact ⟨htype, spells_of_decodeOr hdecode⟩
    split at h
    · next htype =>
      obtain ⟨⟨serverVersion, uptimeSecs⟩, hdecode, h⟩ := bind_eq_ok.mp h
      cases h
      exact ⟨htype, spells_of_decodeOr hdecode⟩
    split at h
    · next htype =>
      obtain ⟨⟨code, message⟩, hdecode, h⟩ := bind_eq_ok.mp h
      cases h
      exact ⟨htype, spells_of_decodeOr hdecode⟩
    split at h
    · next htype =>
      obtain ⟨⟨clientVersion, authToken⟩, hdecode, h⟩ := bind_eq_ok.mp h
      cases h
      exact ⟨htype, spells_of_decodeOr hdecode⟩
    split at h
    · next htype =>
      obtain ⟨⟨serverVersion, hostname, refreshHz⟩, hdecode, h⟩ := bind_eq_ok.mp h
      cases h
      exact ⟨htype, spells_of_decodeOr hdecode⟩
    · cases h
  · rintro ⟨htype, bs, rest, hspelled, hpayload, hle⟩
    have hframe : frame = ⟨m.msgType, bs ++ rest⟩ := by rw [← htype, ← hpayload]
    rw [hframe, fromFrame_spelled hspelled, if_pos hle]

/-- The frame of a snapshot that the decoder can hold is read back. -/
theorem fromFrame_snapshot (layout : Layout) (snap : SystemSnapshot)
    (hlen : ((systemSnapshot layout).encode snap).length < 256 ^ 8)
    (hpeak : (systemSnapshot layout).peak snap ≤ maxDecodeBytes) :
    WireMessage.fromFrame layout ⟨msgSnapshot, (systemSnapshot layout).encode snap⟩ =
      .ok (.snapshot snap) :=
  fromFrame_eq_ok_iff.2
    ⟨rfl, _, [], (systemSnapshot layout).spells_encode snap hlen, (List.append_nil _).symm, hpeak⟩

/-- The frame of a message carries its type and, at any length a vector can have, a spelling of it. -/
theorem spelled_of_toFrame {m : WireMessage} {frame : Frame} (h : m.toFrame layout = .ok frame)
    (hlen : frame.payload.length < 256 ^ 8) :
    frame.msgType = m.msgType ∧ m.Spelled layout frame.payload := by
  cases m with
  | snapshot snap => cases h; exact ⟨rfl, (systemSnapshot layout).spells_encode _ hlen⟩
  | heartbeat serverVersion uptimeSecs => cases h; exact ⟨rfl, heartbeatFields.spells_encode _ hlen⟩
  | error code message => cases h; exact ⟨rfl, errorFields.spells_encode _ hlen⟩
  | hello clientVersion authToken => cases h; exact ⟨rfl, helloFields.spells_encode _ hlen⟩
  | welcome serverVersion hostname refreshHz =>
      cases h; exact ⟨rfl, welcomeFields.spells_encode _ hlen⟩

/-- A payload has at most one prefix that spells a given message. -/
theorem Spelled.unique {m : WireMessage} {bs bs' rest rest' : List UInt8} (h : m.Spelled layout bs)
    (h' : m.Spelled layout bs') (heq : bs ++ rest = bs' ++ rest') : bs = bs' := by
  cases m with
  | snapshot snap => exact (Codec.Spells.unique (systemSnapshot layout) h h' heq).1
  | heartbeat serverVersion uptimeSecs => exact (Codec.Spells.unique heartbeatFields h h' heq).1
  | error code message => exact (Codec.Spells.unique errorFields h h' heq).1
  | hello clientVersion authToken => exact (Codec.Spells.unique helloFields h h' heq).1
  | welcome serverVersion hostname refreshHz =>
      exact (Codec.Spells.unique welcomeFields h h' heq).1

theorem payload_lt_of_encodeFrame {frame : Frame} {bytes : List UInt8}
    (h : encodeFrame frame = .ok bytes) : frame.payload.length < 256 ^ 8 := by
  have hfits := (encodeFrame_eq_ok_iff.mp h).1
  have hmax := toNat_maxFrameSize
  unfold Frame.Fits at hfits
  omega

/-- What is read of a framed message is that message. -/
theorem eq_of_fromFrame {m m' : WireMessage} {frame : Frame} (hframe : m.toFrame layout = .ok frame)
    (hfits : frame.Fits) (hread : WireMessage.fromFrame layout frame = .ok m') : m' = m := by
  have hbytes := encodeFrame_eq_ok_iff.mpr ⟨hfits, rfl⟩
  obtain ⟨htype, hspelled⟩ := spelled_of_toFrame hframe (payload_lt_of_encodeFrame hbytes)
  have h := fromFrame_spelled hspelled []
  rw [← htype, List.append_nil, hread] at h
  split at h
  · exact Except.ok.inj h
  · cases h

/-! ## The round trip -/

/-- A framed message is read back, or refused for exceeding the limit, according to the bytes its
decoder claims. -/
theorem fromFrame_toFrame (layout : Layout) (m : WireMessage) (frame : Frame) (bytes : List UInt8)
    (hframe : m.toFrame layout = .ok frame) (hbytes : encodeFrame frame = .ok bytes) :
    WireMessage.fromFrame layout frame =
      if m.peakClaim layout ≤ maxDecodeBytes then .ok m
      else .error (.decode .limitExceeded) := by
  obtain ⟨htype, hspelled⟩ := spelled_of_toFrame hframe (payload_lt_of_encodeFrame hbytes)
  have h := fromFrame_spelled hspelled []
  rwa [← htype, List.append_nil] at h

/-- A host with two cores, two processes, an interface, a container, a pod and a GPU that one process uses. -/
def busySnapshot : SystemSnapshot where
  cpu := ⟨⟨0x42480000⟩, [⟨"Core 0", ⟨0x42480000⟩, 3200⟩, ⟨"Core 1", ⟨0x42480000⟩, 3200⟩]⟩
  memory := ⟨16000000000, 9000000000, 7000000000, 0, 0⟩
  load := ⟨⟨0⟩, ⟨0⟩, ⟨0⟩, 3600⟩
  processes := [⟨1, none, "init", "/sbin/init", "0", ⟨0⟩, 12000000, ⟨0⟩, "Sleeping"⟩,
    ⟨4711, some 1, "python3", "python3 train.py", "1000", ⟨0x42c60000⟩, 3000000000, ⟨0⟩, "Running"⟩]
  networks := ⟨[⟨"eth0", 1000, 70000, 10, 300, 0, 0, "02:42:ac:11:00:02", true⟩], 1000, 70000⟩
  containers := some ⟨.docker, true,
    [{ (default : ContainerSnapshot) with id := "4f2a", name := "redis", memUsedBytes := 50000000 }]⟩
  kube := some { (default : KubeSnapshot) with
    reachable := true
    pods := [{ (default : PodSnapshot) with «namespace» := "web", name := "api-0", ready := (1, 2) }] }
  gpu := some { (default : GpusSnapshot) with
    backends := [.nvml]
    devices := [{ (default : GpuDeviceSnapshot) with name := "RTX 4090", memUsedBytes := some 6000000000 }]
    processes := [⟨4711, 0, "python3", .compute, some 3000000000⟩] }
  timestampMs := 1700000000000

/-- A busy host's snapshot is read back with all its lists. -/
theorem fromFrame_toFrame_busySnapshot :
    WireMessage.fromFrame .x86_64 ⟨msgSnapshot, (systemSnapshot .x86_64).encode busySnapshot⟩ =
      .ok (.snapshot busySnapshot) := by
  set frame : Frame := ⟨msgSnapshot, (systemSnapshot .x86_64).encode busySnapshot⟩
  have hlen : 1 + ((systemSnapshot .x86_64).encode busySnapshot).length ≤ maxFrameSize.toNat := by
    decide +kernel
  have hbytes : encodeFrame frame = .ok frame.encoded := encodeFrame_eq_ok_iff.mpr ⟨hlen, rfl⟩
  have h := fromFrame_toFrame .x86_64 (.snapshot busySnapshot) frame frame.encoded rfl hbytes
  have hclaim : (WireMessage.snapshot busySnapshot).peakClaim .x86_64 ≤ maxDecodeBytes := by decide +kernel
  rwa [if_pos hclaim] at h

/-! ### A frame that no client reads -/

/-- The process table is claimed in full before its first process is decoded. -/
theorem processes_le_peak (layout : Layout) (snap : SystemSnapshot) :
    8 + snap.processes.length * layout.processInfo ≤ (systemSnapshot layout).peak snap := by
  have hvec : 8 + snap.processes.length * layout.processInfo ≤
      (processInfo.vec layout.processInfo).peak snap.processes :=
    Nat.add_le_add_left (le_max_left _ _) 8
  refine hvec.trans ?_
  -- the fields of the snapshot before its process table
  refine le_max_of_le_right (Nat.le_add_left_of_le ?_)
  refine le_max_of_le_right (Nat.le_add_left_of_le ?_)
  refine le_max_of_le_right (Nat.le_add_left_of_le ?_)
  exact le_max_left _ _

/-- A snapshot that fits in a frame, with a process table that exceeds the limit in memory. -/
theorem exists_refused (layout : Layout) (snap : SystemSnapshot)
    (hlen : 1 + ((systemSnapshot layout).encode snap).length ≤ maxFrameSize.toNat)
    (hclaim : maxDecodeBytes < 8 + snap.processes.length * layout.processInfo) :
    ∃ frame bytes, (WireMessage.snapshot snap).toFrame layout = .ok frame ∧
      encodeFrame frame = .ok bytes ∧
      WireMessage.fromFrame layout frame = .error (.decode .limitExceeded) := by
  set frame : Frame := ⟨msgSnapshot, (systemSnapshot layout).encode snap⟩
  have htoFrame : (WireMessage.snapshot snap).toFrame layout = .ok frame := rfl
  have hbytes : encodeFrame frame = .ok frame.encoded := encodeFrame_eq_ok_iff.mpr ⟨hlen, rfl⟩
  have hlimit : ¬(systemSnapshot layout).peak snap ≤ maxDecodeBytes :=
    Nat.not_le.mpr (Nat.lt_of_lt_of_le hclaim (processes_le_peak layout snap))
  refine ⟨frame, frame.encoded, htoFrame, hbytes, ?_⟩
  obtain ⟨-, hspelled⟩ := spelled_of_toFrame htoFrame (payload_lt_of_encodeFrame hbytes)
  have h := fromFrame_spelled hspelled []
  rwa [List.append_nil, WireMessage.peakClaim, if_neg hlimit] at h

/-- A process with no strings. -/
def idleProcess : ProcessInfo := ⟨0, none, "", "", "", ⟨0⟩, 0, ⟨0⟩, ""⟩

/-- The snapshot of a host that only has processes. -/
def hostSnapshot (processes : List ProcessInfo) : SystemSnapshot where
  cpu := ⟨⟨0⟩, []⟩
  memory := ⟨0, 0, 0, 0, 0⟩
  load := ⟨⟨0⟩, ⟨0⟩, ⟨0⟩, 0⟩
  processes := processes
  networks := ⟨[], 0, 0⟩
  containers := none
  kube := none
  gpu := none
  timestampMs := 0

theorem length_encode_hostSnapshot (layout : Layout) (processes : List ProcessInfo) :
    ((systemSnapshot layout).encode (hostSnapshot processes)).length =
      42 + ((processInfo.vec layout.processInfo).encode processes).length := by
  have hsplit : (systemSnapshot layout).encode (hostSnapshot processes) =
      (cpuSnapshot layout).encode ⟨⟨0⟩, []⟩ ++ (memorySnapshot.encode ⟨0, 0, 0, 0, 0⟩ ++
        (loadSnapshot.encode ⟨⟨0⟩, ⟨0⟩, ⟨0⟩, 0⟩ ++
          ((processInfo.vec layout.processInfo).encode processes ++ [0, 0, 0, 0, 0, 0, 0]))) := rfl
  have hcpu : ((cpuSnapshot layout).encode ⟨⟨0⟩, []⟩).length = 5 := rfl
  have hmemory : (memorySnapshot.encode ⟨0, 0, 0, 0, 0⟩).length = 5 := rfl
  have hload : (loadSnapshot.encode ⟨⟨0⟩, ⟨0⟩, ⟨0⟩, 0⟩).length = 25 := rfl
  simp only [hsplit, List.length_append, hcpu, hmemory, hload, List.length_cons, List.length_nil]
  omega

/-- `count` idle processes take a length and 15 bytes each. -/
theorem length_encode_replicate (layout : Layout) (count : ℕ) :
    ((processInfo.vec layout.processInfo).encode (List.replicate count idleProcess)).length =
      (writeVarint count).length + count * 15 := by
  have hidle : (processInfo.encode idleProcess).length = 15 := by decide
  show (writeVarint (List.replicate count idleProcess).length ++
    (List.replicate count idleProcess).flatMap processInfo.encode).length = _
  rw [List.length_append, List.length_flatMap, List.map_replicate, hidle, List.sum_replicate_nat,
    List.length_replicate]

/-- The snapshot of a host with 32768 processes is framed in half a megabyte, and refused by every
client: its process table alone claims the whole limit. -/
theorem not_fromFrame_toFrame_crowded :
    ∃ frame bytes,
      (WireMessage.snapshot (hostSnapshot (List.replicate 32768 idleProcess))).toFrame .x86_64 =
        .ok frame ∧
      encodeFrame frame = .ok bytes ∧
      WireMessage.fromFrame .x86_64 frame = .error (.decode .limitExceeded) := by
  refine exists_refused _ _ ?_ ?_
  · rw [length_encode_hostSnapshot, length_encode_replicate]
    decide
  · have hprocesses : ∀ processes, (hostSnapshot processes).processes = processes := fun _ => rfl
    rw [hprocesses, List.length_replicate]
    decide

/-! ## Trailing bytes -/

/-- What the frame decodes to, if anything, is spelled by its payload in full. -/
def AcceptsOnlyEncodings (layout : Layout) (frame : Frame) : Prop :=
  ∀ m, WireMessage.fromFrame layout frame = .ok m → m.Spelled layout frame.payload

/-- No strict prefix of the payload is an encoding, within the decode limit, of a message of the
frame's type. -/
def NoEncodedStrictPrefix (layout : Layout) (frame : Frame) : Prop :=
  ∀ m : WireMessage, m.msgType = frame.msgType → m.peakClaim layout ≤ maxDecodeBytes →
    ∀ bs, m.Spelled layout bs → bs <+: frame.payload → bs = frame.payload

/-- A frame is accepted only as an encoding in full if and only if no strict prefix of its payload is
an encoding. -/
theorem acceptsOnlyEncodings_iff (layout : Layout) (frame : Frame) :
    AcceptsOnlyEncodings layout frame ↔ NoEncodedStrictPrefix layout frame := by
  constructor
  · rintro haccepts m htype hle bs hspelled ⟨rest, hpayload⟩
    have hdecode := fromFrame_eq_ok_iff.mpr ⟨htype.symm, bs, rest, hspelled, hpayload.symm, hle⟩
    have heq : bs ++ rest = frame.payload ++ [] := by rw [hpayload, List.append_nil]
    exact Spelled.unique hspelled (haccepts m hdecode) heq
  · intro hprefix m hdecode
    obtain ⟨htype, bs, rest, hspelled, hpayload, hle⟩ := fromFrame_eq_ok_iff.mp hdecode
    have hbs := hprefix m htype.symm hle bs hspelled ⟨rest, hpayload.symm⟩
    rwa [← hbs]

/-- An empty heartbeat with a byte appended is accepted. -/
theorem not_acceptsOnlyEncodings_heartbeat :
    WireMessage.fromFrame .x86_64 ⟨msgHeartbeat, [0, 0, 42]⟩ = .ok (.heartbeat "" 0) ∧
      ¬AcceptsOnlyEncodings .x86_64 ⟨msgHeartbeat, [0, 0, 42]⟩ := by
  have hspelled : (WireMessage.heartbeat "" 0).Spelled .x86_64 [0, 0] :=
    heartbeatFields.spells_encode ("", 0) (by decide)
  have hdecode : WireMessage.fromFrame .x86_64 ⟨msgHeartbeat, [0, 0, 42]⟩ = .ok (.heartbeat "" 0) :=
    fromFrame_eq_ok_iff.mpr ⟨rfl, [0, 0], [42], hspelled, rfl, by decide⟩
  refine ⟨hdecode, fun haccepts => ?_⟩
  have heq : [0, 0] ++ [42] = [0, 0, 42] ++ ([] : List UInt8) := rfl
  exact absurd (Spelled.unique hspelled (haccepts _ hdecode) heq) (by decide)

end Muxtop.Proto
