import Muxtop.Proto.WireCodec
import Muxtop.Server.AcceptLoop

/-!
# What the relay broadcasts and what the sessions make of it

The relay drops a snapshot that cannot be encoded, but encoding has no limit: the frame cap is checked
by each session when it writes. So a snapshot whose frame exceeds the cap is broadcast, and ends every
session that takes it from the channel (`recv_oversized`). `delivers_iff` says which runs deliver as
they should: those in which the relay is handed only snapshots that can be framed while it has
receivers.
-/

namespace Muxtop.Server

open ByteStream Muxtop.Core Muxtop.Proto

variable (layout : Layout) (config : ServerConfig)

/-- The snapshot can be encoded into a frame within the cap. -/
def Framable (snapshot : SystemSnapshot) : Prop :=
  ∃ frame, encodeSnapshotRef layout snapshot = .ok frame ∧ frame.Fits

/-- The frames that a session writes on this delivery. -/
def deliveredFrames : Broadcast.Delivery Frame → List Frame
  | .value frame => [frame]
  | .lagged _ => []

/-- What a step should do with snapshots. The relay skips one that cannot be framed and broadcasts one
that can, if it has receivers. A streaming session that is told something writes the frame, unless it
has lagged, and goes on streaming, as far as the transport lets it. -/
structure Delivers (s : ServerState) (e : ServerEvent) : Prop where
  skipped : ∀ snapshot, e = .collected (some snapshot) → ¬ Framable layout snapshot →
    (serverStep layout config s e).broadcast = s.broadcast
  broadcasts : ∀ snapshot frame, e = .collected (some snapshot) → s.relayRunning = true →
    s.receiverCount ≠ 0 → encodeSnapshotRef layout snapshot = .ok frame → frame.Fits →
    (serverStep layout config s e).broadcast = s.broadcast.send frame
  streams : ∀ i task received written delivery position, e = .recv i none →
    s.tasks[i]? = some task → task.stage = .session ⟨.streaming, received, written⟩ →
    s.broadcast.recv task.position = some (delivery, position) →
    (serverStep layout config s e).tasks[i]? = some { task with
      stage := .session ⟨.streaming, received, written ++ deliveredFrames delivery⟩
      position := position }

/-- A relay with receivers is handed only snapshots that can be framed. -/
def RelaysFramable (s : ServerState) (e : ServerEvent) : Prop :=
  ∀ snapshot, e = .collected (some snapshot) → s.relayRunning = true → s.receiverCount ≠ 0 →
    Framable layout snapshot

/-- Every frame in the broadcast channel is within the cap. -/
def SentFit (s : ServerState) : Prop := ∀ frame ∈ s.broadcast.sent, frame.Fits

/-! ## The relay -/

variable {layout}

/-- A snapshot is sent if anyone is there to receive it. -/
theorem relay_broadcast {s : ServerState} {snapshot : SystemSnapshot} {frame : Frame}
    (h : encodeSnapshotRef layout snapshot = .ok frame) :
    (s.relay layout snapshot).broadcast =
      if s.receiverCount = 0 then s.broadcast else s.broadcast.send frame := by
  unfold ServerState.relay
  split
  · rfl
  · rw [h]

/-- What the collector publishes is relayed. -/
theorem serverStep_collected {s : ServerState} (h : s.relayRunning = true)
    (snapshot : SystemSnapshot) :
    serverStep layout config s (.collected (some snapshot)) = s.relay layout snapshot := by
  rw [serverStep, if_pos h]

/-- Something that was sent makes a difference. -/
theorem send_ne (channel : Broadcast Frame) (frame : Frame) : channel.send frame ≠ channel := by
  intro h
  have hlen := congrArg (fun c => c.sent.length) h
  simp at hlen

/-- Accepting a connection sends nothing. -/
theorem accept_broadcast (s : ServerState) (call : Call) :
    (s.accept config call).broadcast = s.broadcast := by
  rcases s.accept_cases config call with ⟨-, hsame⟩ | ⟨-, -, -, -, hbroadcast, -⟩
  · exact hsame.broadcast
  · exact hbroadcast

/-- Nor does the step of a session. -/
theorem stepTask_broadcast (s : ServerState) (i : ℕ) (step : Task → Task) :
    (s.stepTask i step).broadcast = s.broadcast := by
  rcases s.stepTask_cases i step with heq | ⟨task, -, -, heq⟩ <;> rw [heq]

/-- Frames that are relayed within the cap are all that is sent. -/
theorem SentFit.serverStep {s : ServerState} {e : ServerEvent} (hframable : RelaysFramable layout s e)
    (h : SentFit s) : SentFit (serverStep layout config s e) := by
  have hcases := serverStep_cases layout config s e
  generalize Server.serverStep layout config s e = s' at hcases
  rcases hcases with hsame | ⟨snapshot, hrunning⟩ | ⟨call, -⟩ | ⟨i, step, -⟩
  · rwa [SentFit, hsame.broadcast]
  · obtain ⟨frame, hencode⟩ : ∃ frame, encodeSnapshotRef layout snapshot = .ok frame := ⟨_, rfl⟩
    rw [SentFit, relay_broadcast hencode]
    split
    case isTrue => exact h
    case isFalse hreceivers =>
      obtain ⟨frame', hencode', hfits⟩ := hframable snapshot rfl hrunning hreceivers
      rw [hencode, Except.ok.injEq] at hencode'
      subst hencode'
      intro f hf
      rcases List.mem_append.1 hf with hf | hf
      · exact h f hf
      · rw [List.mem_singleton.1 hf]
        exact hfits
  · rwa [SentFit, accept_broadcast]
  · rwa [SentFit, stepTask_broadcast]

/-! ## The sessions -/

/-- A session that streams is live. -/
theorem live_of_streaming {task : Task} {received : Stream} {written : List Frame}
    (h : task.stage = .session ⟨.streaming, received, written⟩) : task.live = true := by
  rw [Task.live, h]

/-- A streaming session that is told something handles it, on its own. -/
theorem tasks_recv {s : ServerState} {i : ℕ} {task : Task} {received : Stream} {written : List Frame}
    {delivery : Broadcast.Delivery Frame} {position : ℕ} (fault : Option ErrorKind)
    (htask : s.tasks[i]? = some task)
    (hstage : task.stage = .session ⟨.streaming, received, written⟩)
    (hrecv : s.broadcast.recv task.position = some (delivery, position)) :
    (serverStep layout config s (.recv i fault)).tasks[i]? = some { task with
      stage := .session (sessionStep layout config.shared ⟨.streaming, received, written⟩
        (.received (Recv.ofDelivery delivery) fault))
      position := position } := by
  have hi := (List.getElem?_eq_some_iff.1 htask).1
  simp only [serverStep, ServerState.stepTask, htask, live_of_streaming hstage, Bool.not_true,
    Bool.false_eq_true, if_false, List.getElem?_set_self hi, Task.recv, hstage, hrecv,
    Task.onSession]

/-- It lives on after a delivery of frames within the cap. -/
theorem sessionStep_delivery {received : Stream} {written : List Frame}
    {delivery : Broadcast.Delivery Frame} (hfits : ∀ frame ∈ deliveredFrames delivery, frame.Fits) :
    sessionStep layout config.shared ⟨.streaming, received, written⟩
        (.received (Recv.ofDelivery delivery) none) =
      ⟨.streaming, received, written ++ deliveredFrames delivery⟩ := by
  cases delivery with
  | value frame =>
      have hok := encodeFrame_eq_ok_iff.2 ⟨hfits frame (List.mem_singleton_self _), rfl⟩
      simp only [sessionStep, streamingStep, Recv.ofDelivery, writeFrame, hok, deliveredFrames]
  | lagged skipped =>
      simp only [sessionStep, streamingStep, Recv.ofDelivery, deliveredFrames, List.append_nil]

/-- What the channel tells a receiver was sent. -/
theorem mem_sent_of_recv {channel : Broadcast Frame} {position next : ℕ}
    {delivery : Broadcast.Delivery Frame} (h : channel.recv position = some (delivery, next)) :
    ∀ frame ∈ deliveredFrames delivery, frame ∈ channel.sent := by
  rcases Broadcast.recv_cases h with ⟨frame, rfl, hvalue, -⟩ | ⟨skipped, rfl, -⟩
  · intro f hf
    rw [List.mem_singleton.1 hf]
    exact List.mem_of_getElem? hvalue
  · exact nofun

variable (layout)

/-- A step relays a snapshot within the cap exactly when the sessions outlive it. -/
theorem delivers_step_iff {s : ServerState} (h : SentFit s) (e : ServerEvent) :
    RelaysFramable layout s e ↔ Delivers layout config s e := by
  constructor
  · intro hframable
    refine ⟨?_, ?_, ?_⟩
    · rintro snapshot rfl hnot
      obtain ⟨frame, hencode⟩ : ∃ frame, encodeSnapshotRef layout snapshot = .ok frame := ⟨_, rfl⟩
      simp only [serverStep]
      split
      case isTrue hrunning =>
        rw [relay_broadcast hencode]
        split
        case isTrue => rfl
        case isFalse hreceivers => exact absurd (hframable snapshot rfl hrunning hreceivers) hnot
      case isFalse => rfl
    · rintro snapshot frame rfl hrunning hreceivers hencode -
      rw [serverStep_collected config hrunning, relay_broadcast hencode, if_neg hreceivers]
    · rintro i task received written delivery position rfl htask hstage hrecv
      have hfits : ∀ frame ∈ deliveredFrames delivery, frame.Fits :=
        fun frame hframe => h frame (mem_sent_of_recv hrecv frame hframe)
      rw [tasks_recv config none htask hstage hrecv, sessionStep_delivery config hfits]
  · rintro hdelivers snapshot rfl hrunning hreceivers
    by_contra hnot
    obtain ⟨frame, hencode⟩ : ∃ frame, encodeSnapshotRef layout snapshot = .ok frame := ⟨_, rfl⟩
    have hskipped := hdelivers.skipped snapshot rfl hnot
    rw [serverStep_collected config hrunning, relay_broadcast hencode, if_neg hreceivers] at hskipped
    exact send_ne _ _ hskipped

/-- **Snapshots are skipped and delivered as they should be in exactly the runs in which the relay,
while it has receivers, is handed only snapshots that can be framed.** -/
theorem delivers_iff (now : Instant) (events : List ServerEvent) :
    Runs.Along (serverStep layout config) (Delivers layout config) (.start config now) events ↔
      Runs.Along (serverStep layout config) (RelaysFramable layout) (.start config now) events := by
  have hstart : SentFit (.start config now) := nofun
  exact (Runs.along_iff (I := SentFit) (fun _ _ hframable hs => hs.serverStep config hframable)
    (fun _ e hs => delivers_step_iff layout config hs e) events hstart).symm

/-! ### A snapshot that ends every session -/

/-- A session that takes a frame over the cap from the channel returns, whatever the transport. -/
theorem recv_oversized {s : ServerState} {i : ℕ} {task : Task} {received : Stream}
    {written : List Frame} {frame : Frame} {position : ℕ} (fault : Option ErrorKind)
    (htask : s.tasks[i]? = some task)
    (hstage : task.stage = .session ⟨.streaming, received, written⟩)
    (hrecv : s.broadcast.recv task.position = some (.value frame, position)) (hfits : ¬ frame.Fits) :
    (serverStep layout config s (.recv i fault)).tasks[i]? = some { task with
      stage := .session ⟨.returned (.error (.proto
        (.frameTooLarge (UInt32.ofNat (1 + frame.payload.length)) maxFrameSize))), received, written⟩
      position := position } := by
  rw [tasks_recv config fault htask hstage hrecv]
  have hlen : maxFrameSize.toNat < 1 + frame.payload.length := Nat.not_le.1 hfits
  simp only [sessionStep, streamingStep, Recv.ofDelivery, writeFrame, encodeFrame, if_pos hlen]

/-- The hello of a client that has the token, in one piece. -/
def helloPiece : Piece :=
  ⟨0, [0, 0, 25, 4, 5, 48, 46, 52, 46, 48, 1, 16, 48, 49, 50, 51, 52, 53, 54, 55, 56, 57, 97, 98, 99,
    100, 101, 102]⟩

/-- A client connects and is welcomed. -/
def openSession : List ServerEvent :=
  [.accepted (.ok ⟨.v4 0x7f000001, 0⟩), .tls 0 .established, .session 0 (.arrived helloPiece none)]

/-- The session that is open then. -/
def openedSession : Session :=
  ⟨.streaming, ⟨[helloPiece], .pending⟩,
    [⟨msgWelcome, [5, 48, 46, 52, 46, 48, 4, 104, 111, 115, 116, 1]⟩]⟩

/-- The snapshot of a host with 280000 processes. -/
def hugeSnapshot : SystemSnapshot := hostSnapshot (List.replicate 280000 idleProcess)

/-- The frame of that snapshot. -/
def hugeFrame : Frame := ⟨msgSnapshot, (systemSnapshot .x86_64).encode hugeSnapshot⟩

/-- The frame is over the cap. -/
theorem not_fits_hugeFrame : ¬ hugeFrame.Fits := by
  have hlen : hugeFrame.payload.length = 42 + ((Bincode.writeVarint 280000).length + 280000 * 15) := by
    simp only [hugeFrame, hugeSnapshot, length_encode_hostSnapshot, length_encode_replicate]
  unfold Frame.Fits
  rw [hlen, toNat_maxFrameSize]
  omega

/-- The session that is open when the snapshot comes is ended by it. -/
theorem not_delivers_hugeSnapshot :
    (∃ e, (runServer .x86_64 fourClients 0
        (openSession ++ [.collected (some hugeSnapshot), .recv 0 none])).tasks[0]?.map (·.stage) =
          some (.session { openedSession with phase := .returned (.error (.proto e)) })) ∧
      ¬ Runs.Along (serverStep .x86_64 fourClients) (Delivers .x86_64 fourClients)
        (.start fourClients 0) (openSession ++ [.collected (some hugeSnapshot), .recv 0 none]) := by
  have htasks : (runServer .x86_64 fourClients 0 openSession).tasks =
      [⟨.session openedSession, 0, 0⟩] := by decide +kernel
  have hrunning : (runServer .x86_64 fourClients 0 openSession).relayRunning = true := by
    decide +kernel
  have hreceivers : (runServer .x86_64 fourClients 0 openSession).receiverCount ≠ 0 := by
    decide +kernel
  have hsent : (runServer .x86_64 fourClients 0 openSession).broadcast.sent = [] := by
    decide +kernel
  have hcapacity : (runServer .x86_64 fourClients 0 openSession).broadcast.capacity = 16 := by
    decide +kernel
  have hencode : encodeSnapshotRef .x86_64 hugeSnapshot = .ok hugeFrame := rfl
  have hbroadcast := relay_broadcast (s := runServer .x86_64 fourClients 0 openSession) hencode
  rw [if_neg hreceivers] at hbroadcast
  refine ⟨?_, fun h => ?_⟩
  · rw [runServer, Runs.run_append, Runs.run_cons, Runs.run_cons, Runs.run_nil]
    change ∃ e, (serverStep .x86_64 fourClients (serverStep .x86_64 fourClients
      (runServer .x86_64 fourClients 0 openSession) (.collected (some hugeSnapshot)))
        (.recv 0 none)).tasks[0]?.map (·.stage) = _
    rw [serverStep_collected fourClients hrunning]
    generalize runServer .x86_64 fourClients 0 openSession = s at htasks hbroadcast hsent hcapacity
    have htask : (s.relay .x86_64 hugeSnapshot).tasks[0]? = some ⟨.session openedSession, 0, 0⟩ := by
      rw [(s.relay_tasks .x86_64 hugeSnapshot).1, htasks]
      rfl
    have hrecv : (s.relay .x86_64 hugeSnapshot).broadcast.recv 0 = some (.value hugeFrame, 1) := by
      rw [hbroadcast, Broadcast.recv, Broadcast.sent_send, Broadcast.capacity_send, hsent, hcapacity]
      rfl
    rw [recv_oversized .x86_64 fourClients none htask rfl hrecv not_fits_hugeFrame]
    exact ⟨_, rfl⟩
  · have hstep := (Runs.along_append (serverStep .x86_64 fourClients) _).1 h |>.2.1
    have hskipped := hstep.skipped hugeSnapshot rfl ?_
    · change (serverStep .x86_64 fourClients (runServer .x86_64 fourClients 0 openSession)
        (.collected (some hugeSnapshot))).broadcast =
          (runServer .x86_64 fourClients 0 openSession).broadcast at hskipped
      rw [serverStep_collected fourClients hrunning, hbroadcast] at hskipped
      exact send_ne _ _ hskipped
    · rintro ⟨frame, hframe, hfits⟩
      rw [hencode, Except.ok.injEq] at hframe
      exact not_fits_hugeFrame (hframe ▸ hfits)

end Muxtop.Server
