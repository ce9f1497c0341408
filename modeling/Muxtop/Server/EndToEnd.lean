import Muxtop.Proto.RemoteStream
import Muxtop.Proto.WireCodec
import Muxtop.Server.SessionFrames

/-!
# From the relay to the TUI

A client is linked to the `i`-th connection of the server: the bytes that reach it are the next ones of
the frames which the session of that connection has written. Its run is any interleaving of the events
of the server and of the client. `ChannelInv` says of every session that the snapshots it has written
are among those broadcast since it subscribed, in order; `ClientInv` says the like of the snapshots the
client forwards and the frames it has read; `runLink_inOrder` puts the two together over the bytes in between.
-/

namespace Muxtop.Server

open ByteStream Muxtop.Core Muxtop.Proto

variable (layout : Layout) (config : ServerConfig) (remote : RemoteConfig) (i : ℕ)

/-- What the task's session has written. -/
def Task.written (task : Task) : List Frame :=
  match task.stage with
  | .session session => session.written
  | _ => []

/-- The bytes that the session of the `i`-th connection has written. -/
def ServerState.wire (s : ServerState) : List UInt8 :=
  match s.tasks[i]? with
  | some task => task.written.flatMap Frame.encoded
  | none => []

/-- The server, a client of it, and the bytes that have reached the client. -/
structure Link where
  server : ServerState
  client : Client
  delivered : List UInt8

inductive LinkEvent
  | server (e : ServerEvent)
  | client (e : ClientEvent)

/-- One event of the server or of the client. Only what the session has written reaches the client. -/
def linkStep (s : Link) : LinkEvent → Link
  | .server e => { s with server := serverStep layout config s.server e }
  | .client (.arrived piece) =>
      if (s.delivered ++ piece.bytes).isPrefixOf (s.server.wire i) then
        { s with
          client := s.client.step layout remote (.arrived piece)
          delivered := s.delivered ++ piece.bytes }
      else s
  | .client e => { s with client := s.client.step layout remote e }

/-- A server that starts, and a client that begins to connect. -/
def Link.start (now : Instant) (channel : SnapshotChannel) : Link :=
  ⟨.start config now, .start channel, []⟩

def runLink (now : Instant) (channel : SnapshotChannel) (events : List LinkEvent) : Link :=
  Runs.run (linkStep layout config remote i) (Link.start config now channel) events

/-! ## The tasks -/

/-- What holds of a task, against the channel it subscribed to. -/
structure TaskInv (shared : SharedState) (broadcast : Broadcast Frame) (task : Task) : Prop where
  subscribed_le : task.subscribed ≤ task.position
  position_le : task.position ≤ broadcast.sent.length
  wrote : ∀ session, task.stage = .session session →
    Wrote shared (broadcast.window task.subscribed task.position) session

variable {layout config}

/-- A broadcast adds to what a task may yet write. -/
theorem TaskInv.send {shared : SharedState} {broadcast : Broadcast Frame} {task : Task}
    (h : TaskInv shared broadcast task) (frame : Frame) :
    TaskInv shared (broadcast.send frame) task := by
  refine ⟨h.subscribed_le, ?_, ?_⟩
  · rw [Broadcast.sent_send, List.length_append]
    exact h.position_le.trans (Nat.le_add_right _ _)
  · rw [Broadcast.window_send h.position_le]
    exact h.wrote

/-- What the client sends makes the session write nothing of a broadcast. -/
theorem TaskInv.onSession {shared : SharedState} {broadcast : Broadcast Frame} {task : Task}
    (h : TaskInv shared broadcast task) {event : Event} {cancelled : Bool}
    (hpeer : event.ofPeer cancelled = true) (hshared : config.shared = shared) :
    TaskInv shared broadcast (task.onSession layout config event) := by
  subst hshared
  unfold Task.onSession
  split
  next session hstage =>
    refine ⟨h.subscribed_le, h.position_le, ?_⟩
    rintro session' hsession
    cases hsession
    exact (h.wrote session hstage).ofPeer hpeer
  next => exact h

/-- A task that receives takes the next broadcast, or is told what it missed. -/
theorem TaskInv.recv {broadcast : Broadcast Frame} {task : Task}
    (h : TaskInv config.shared broadcast task) (closed : Bool) (fault : Option ErrorKind) :
    TaskInv config.shared broadcast (task.recv layout config broadcast closed fault) := by
  unfold Task.recv
  split
  next received written hstage =>
    have hwrote := h.wrote _ hstage
    split
    next delivery position hrecv =>
      simp only [Task.onSession, hstage]
      obtain ⟨hlt, hle⟩ := Broadcast.recv_le hrecv
      refine ⟨h.subscribed_le.trans hlt.le, hle, ?_⟩
      intro session hsession
      rw [← Stage.session.inj hsession]
      -- A frame extends the window by itself; a lag moves the window on over what was overwritten.
      rcases Broadcast.recv_cases hrecv with ⟨frame, rfl, hvalue, rfl⟩ | ⟨skipped, rfl, -, rfl, -⟩
      · rw [Broadcast.window_succ h.subscribed_le hvalue]
        exact hwrote.frame rfl fault
      · have hmore := broadcast.window_sublist_window task.subscribed
          (Nat.le_add_right task.position skipped)
        exact (hwrote.mono hmore).quiet rfl (fun _ hne => by cases hne) fault
    next =>
      split
      · simp only [Task.onSession, hstage]
        refine ⟨h.subscribed_le, h.position_le, ?_⟩
        intro session hsession
        rw [← Stage.session.inj hsession]
        exact hwrote.quiet rfl (fun _ hne => by cases hne) fault
      · exact h
  next => exact h

/-- The handshake comes before any broadcast. -/
theorem TaskInv.tls {shared : SharedState} {broadcast : Broadcast Frame} {task : Task}
    (h : TaskInv shared broadcast task) (outcome : TlsOutcome) :
    TaskInv shared broadcast (task.tls outcome) := by
  unfold Task.tls
  split
  · refine ⟨h.subscribed_le, h.position_le, ?_⟩
    rintro session hsession
    cases hsession
    exact .start _ _
  · exact ⟨h.subscribed_le, h.position_le, fun _ hsession => by cases hsession⟩
  · exact h

/-- Any step of a task. -/
theorem TaskInv.step {s : ServerState} {step : Task → Task} (hstep : TaskStep layout config s step)
    {task : Task} (h : TaskInv config.shared s.broadcast task) :
    TaskInv config.shared s.broadcast (step task) := by
  cases hstep with
  | tls outcome => exact h.tls outcome
  | recv fault => exact h.recv s.broadcastClosed fault
  | session event hpeer => exact h.onSession hpeer rfl

/-- A task keeps where it subscribed, and what it has written stays written. -/
structure Task.Extends (task task' : Task) : Prop where
  subscribed : task'.subscribed = task.subscribed
  written : task.written <+: task'.written

/-- Nothing changes. -/
theorem Task.Extends.refl (task : Task) : task.Extends task := ⟨rfl, List.prefix_rfl⟩

variable (layout config) in
/-- A session writes on. -/
theorem Task.extends_onSession (task : Task) (event : Event) :
    task.Extends (task.onSession layout config event) := by
  unfold Task.onSession
  split
  next session hstage =>
    refine ⟨rfl, ?_⟩
    simp only [Task.written, hstage]
    exact prefix_sessionStep config.shared session event
  next => exact .refl task

/-- Any step of a task writes on. -/
theorem Task.extends_step {s : ServerState} {step : Task → Task}
    (hstep : TaskStep layout config s step) (task : Task) : task.Extends (step task) := by
  cases hstep with
  | tls outcome =>
      unfold Task.tls
      cases hstage : task.stage with
      | tlsHandshake =>
          have hnothing : task.written = [] := by rw [Task.written, hstage]
          cases outcome <;> exact ⟨rfl, by rw [hnothing]; exact List.nil_prefix⟩
      | session session => exact .refl task
      | ended => exact .refl task
  | recv fault =>
      unfold Task.recv
      split
      · split
        next delivery position hrecv =>
          have hext := Task.extends_onSession layout config { task with position := position }
            (.received (Recv.ofDelivery delivery) fault)
          exact ⟨hext.subscribed, hext.written⟩
        next =>
          split
          · exact task.extends_onSession layout config _
          · exact .refl task
      · exact .refl task
  | session event _ => exact task.extends_onSession layout config event

variable (layout config) in
/-- Every task of the server is still there after a step. -/
theorem exists_task_serverStep {s : ServerState} {i : ℕ} {task : Task} (htask : s.tasks[i]? = some task)
    (e : ServerEvent) :
    ∃ task', (serverStep layout config s e).tasks[i]? = some task' ∧ task.Extends task' := by
  have hcases := serverStep_cases layout config s e
  generalize serverStep layout config s e = s' at hcases
  have hi := (List.getElem?_eq_some_iff.1 htask).1
  rcases hcases with hsame | ⟨snapshot, -⟩ | ⟨call, -⟩ | ⟨j, step, hstep⟩
  · exact ⟨task, by rw [hsame.tasks, htask], .refl task⟩
  · exact ⟨task, by rw [(s.relay_tasks layout snapshot).1, htask], .refl task⟩
  · rcases s.accept_cases config call with ⟨-, hsame⟩ | ⟨-, -, -, htasks, -⟩
    · exact ⟨task, by rw [hsame.tasks, htask], .refl task⟩
    · exact ⟨task, by rw [htasks, List.getElem?_append_left hi, htask], .refl task⟩
  · rcases s.stepTask_cases j step with heq | ⟨other, hother, -, heq⟩
    · exact ⟨task, by rw [heq, htask], .refl task⟩
    · by_cases hij : j = i
      · subst hij
        rw [htask, Option.some.injEq] at hother
        subst hother
        exact ⟨step task, by rw [heq, List.getElem?_set_self hi], Task.extends_step hstep task⟩
      · exact ⟨task, by rw [heq, List.getElem?_set_ne hij, htask], .refl task⟩

/-- Fewer frames make fewer bytes. -/
theorem prefix_flatMap_encoded {fs gs : List Frame} (h : fs <+: gs) :
    fs.flatMap Frame.encoded <+: gs.flatMap Frame.encoded := by
  obtain ⟨rest, rfl⟩ := h
  rw [List.flatMap_append]
  exact List.prefix_append _ _

/-- The bytes on the wire stay there. -/
theorem prefix_wire_serverStep (s : ServerState) (i : ℕ) (e : ServerEvent) :
    s.wire i <+: (serverStep layout config s e).wire i := by
  cases htask : s.tasks[i]? with
  | none =>
      simp only [ServerState.wire, htask]
      exact List.nil_prefix
  | some task =>
      obtain ⟨task', htask', hextends⟩ := exists_task_serverStep layout config htask e
      simp only [ServerState.wire, htask, htask']
      exact prefix_flatMap_encoded hextends.written

/-! ## The channel -/

/-- The frame of a snapshot. -/
def snapshotFrame (layout : Layout) (snapshot : SystemSnapshot) : Frame :=
  ⟨msgSnapshot, (systemSnapshot layout).encode snapshot⟩

/-- A snapshot can always be encoded. -/
theorem encodeSnapshotRef_eq (snapshot : SystemSnapshot) :
    encodeSnapshotRef layout snapshot = .ok (snapshotFrame layout snapshot) := rfl

variable (layout config)

/-- The channel has sent the frames of the snapshots relayed, and every task keeps to it. -/
structure ChannelInv (s : ServerState) : Prop where
  sent : s.broadcast.sent = s.relayed.map (snapshotFrame layout)
  tasks : ∀ task ∈ s.tasks, TaskInv config.shared s.broadcast task

variable {layout config}

/-- A step that leaves the tasks and the channel alone. -/
theorem ChannelInv.of_same {s s' : ServerState} (h : ChannelInv layout config s)
    (hsame : s.SameTasks s') : ChannelInv layout config s' := by
  refine ⟨by rw [hsame.broadcast, hsame.relayed, h.sent], ?_⟩
  rw [hsame.broadcast, hsame.tasks]
  exact h.tasks

/-- Any step of the server. -/
theorem ChannelInv.serverStep {s : ServerState} (h : ChannelInv layout config s) (e : ServerEvent) :
    ChannelInv layout config (serverStep layout config s e) := by
  -- A relay extends what was sent, an accept opens a task at its end, and a task moves alone.
  have hcases := serverStep_cases layout config s e
  generalize Server.serverStep layout config s e = s' at hcases
  rcases hcases with hsame | ⟨snapshot, -⟩ | ⟨call, -⟩ | ⟨j, step, hstep⟩
  · exact h.of_same hsame
  · unfold ServerState.relay
    split
    · exact h
    · rw [encodeSnapshotRef_eq]
      refine ⟨?_, fun task htask => (h.tasks task htask).send _⟩
      rw [Broadcast.sent_send, h.sent, List.map_append]
      rfl
  · rcases s.accept_cases config call with ⟨-, hsame⟩ | ⟨-, -, -, htasks, hbroadcast, hrelayed⟩
    · exact h.of_same hsame
    · refine ⟨by rw [hbroadcast, hrelayed, h.sent], ?_⟩
      rw [hbroadcast, htasks]
      intro task htask
      rcases List.mem_append.1 htask with htask | htask
      · exact h.tasks task htask
      · rw [List.mem_singleton.1 htask]
        exact ⟨le_rfl, le_rfl, fun _ hsession => by cases hsession⟩
  · rcases s.stepTask_cases j step with heq | ⟨task, htask, -, heq⟩
    · rwa [heq]
    · rw [heq]
      refine ⟨h.sent, ?_⟩
      intro other hother
      rcases List.mem_or_eq_of_mem_set hother with hother | hother
      · exact h.tasks other hother
      · rw [hother]
        exact (h.tasks task (List.mem_of_getElem? htask)).step hstep

/-! ## Frames as they come off the wire -/

/-- Frames whose bytes begin the bytes of others are the first of them. -/
theorem prefix_of_prefix_flatMap_encoded : {fs gs : List Frame} → (∀ f ∈ fs, f.Fits) →
    (∀ g ∈ gs, g.Fits) → fs.flatMap Frame.encoded <+: gs.flatMap Frame.encoded → fs <+: gs
  | [], gs, _, _, _ => List.nil_prefix
  | f :: fs, [], _, _, h => by
      rw [List.flatMap_nil, List.prefix_nil, List.flatMap_cons, List.append_eq_nil_iff] at h
      have hlen := f.length_encoded
      rw [h.1, List.length_nil] at hlen
      omega
  | f :: fs, g :: gs, hfs, hgs, ⟨rest, h⟩ => by
      rw [List.flatMap_cons, List.flatMap_cons, List.append_assoc] at h
      have hdecode := decodeFrame_encoded (hfs f List.mem_cons_self) (fs.flatMap Frame.encoded ++ rest)
      rw [h, decodeFrame_encoded (hgs g List.mem_cons_self), Except.ok.injEq, Prod.mk.injEq] at hdecode
      obtain ⟨rfl, -⟩ := hdecode
      have hrest := List.append_cancel_left h
      rw [List.prefix_cons_inj]
      exact prefix_of_prefix_flatMap_encoded (fun f hf => hfs f (List.mem_cons_of_mem _ hf))
        (fun g hg => hgs g (List.mem_cons_of_mem _ hg)) ⟨rest, hrest⟩

/-- The snapshot that a frame is read as, if it is within the cap and read as one. -/
def readSnapshot (layout : Layout) (frame : Frame) : Option SystemSnapshot :=
  if 1 + frame.payload.length ≤ maxFrameSize.toNat then
    match WireMessage.fromFrame layout frame with
    | .ok message => message.asSnapshot
    | .error _ => none
  else none

/-- The frame of a snapshot is read as that snapshot, if it is read at all. -/
theorem eq_of_readSnapshot {snapshot snapshot' : SystemSnapshot}
    (h : readSnapshot layout (snapshotFrame layout snapshot) = some snapshot') :
    snapshot' = snapshot := by
  unfold readSnapshot at h
  split at h
  case isFalse => cases h
  case isTrue hfits =>
    split at h
    next message hread =>
      rw [eq_of_fromFrame (m := .snapshot snapshot) rfl hfits hread] at h
      exact (Option.some.inj h).symm
    next => cases h

/-- A frame that carries no snapshot is not read as one. -/
theorem readSnapshot_eq_none {frame : Frame} (h : isSnapshot frame = false) :
    readSnapshot layout frame = none := by
  unfold readSnapshot
  split
  case isFalse => rfl
  case isTrue =>
    split
    next message hdecode =>
      obtain ⟨htype, -⟩ := fromFrame_eq_ok_iff.1 hdecode
      cases message with
      | snapshot snapshot =>
          have hsnapshot : isSnapshot frame = true := by simp [isSnapshot, htype, WireMessage.msgType]
          rw [hsnapshot] at h
          cases h
      | _ => rfl
    next => rfl

/-- Dropping elements, or keeping them as they are, leaves a sublist. -/
theorem filterMap_sublist_of_eq {α : Type*} {f : α → Option α} (h : ∀ a b, f a = some b → b = a) :
    (l : List α) → (l.filterMap f).Sublist l
  | [] => List.Sublist.refl _
  | a :: l => by
      have ih := filterMap_sublist_of_eq h l
      cases hf : f a with
      | none =>
          rw [List.filterMap_cons_none hf]
          exact ih.trans (List.sublist_cons_self a l)
      | some b =>
          rw [List.filterMap_cons_some hf, h a b hf]
          exact ih.cons_cons a

/-- Frames of another type are read as no snapshot. -/
theorem filterMap_readSnapshot_filter (layout : Layout) (frames : List Frame) :
    (frames.filter isSnapshot).filterMap (readSnapshot layout) =
      frames.filterMap (readSnapshot layout) := by
  rw [List.filterMap_filter]
  congr 1
  funext frame
  split
  · rfl
  · next h => exact (readSnapshot_eq_none (by simpa using h)).symm

/-- The snapshots read off the frames that a session wrote are among those relayed since it
subscribed. -/
theorem readSnapshots_sublist {s : ServerState} (h : ChannelInv layout config s) {task : Task}
    {session : Session} (hmem : task ∈ s.tasks) (hstage : task.stage = .session session) :
    (session.written.filterMap (readSnapshot layout)).Sublist (s.relayed.drop task.subscribed) := by
  have hwrote := ((h.tasks task hmem).wrote session hstage).snapshots
  have hsent : (session.written.filter isSnapshot).Sublist (s.broadcast.sent.drop task.subscribed) :=
    hwrote.trans (s.broadcast.window_sublist_drop _ _)
  rw [h.sent, ← List.map_drop] at hsent
  have hread := hsent.filterMap (readSnapshot layout)
  rw [filterMap_readSnapshot_filter, List.filterMap_map] at hread
  exact hread.trans (filterMap_sublist_of_eq (fun _ _ => eq_of_readSnapshot) _)

/-- The snapshots of messages decoded from frames within the cap are those read off the frames. -/
theorem filterMap_asSnapshot : {frames : List Frame} → {messages : List WireMessage} →
    (∀ f ∈ frames, f.Fits) → frames.map (WireMessage.fromFrame layout) = messages.map .ok →
    messages.filterMap WireMessage.asSnapshot = frames.filterMap (readSnapshot layout)
  | [], [], _, _ => rfl
  | [], _ :: _, _, h => by cases h
  | _ :: _, [], _, h => by cases h
  | frame :: frames, message :: messages, hfits, h => by
      rw [List.map_cons, List.map_cons, List.cons.injEq] at h
      have ih := filterMap_asSnapshot (fun f hf => hfits f (List.mem_cons_of_mem _ hf)) h.2
      have hread : readSnapshot layout frame = message.asSnapshot := by
        have hfit : 1 + frame.payload.length ≤ maxFrameSize.toNat := hfits frame List.mem_cons_self
        rw [readSnapshot, if_pos hfit, h.1]
      rw [List.filterMap_cons, List.filterMap_cons, hread, ih]

/-! ## The whole link -/

/-- What holds of the link: of its server, of its client, and of the bytes between them. -/
structure LinkInv (layout : Layout) (config : ServerConfig) (i : ℕ) (s : Link) : Prop where
  channel : ChannelInv layout config s.server
  client : ClientInv layout s.delivered s.client
  delivered : s.delivered <+: s.server.wire i

/-- At the start nothing is on the wire. -/
theorem LinkInv.start (now : Instant) (channel : SnapshotChannel) :
    LinkInv layout config i (Link.start config now channel) where
  channel := ⟨rfl, by simp [Link.start, ServerState.start]⟩
  client := .start channel
  delivered := List.nil_prefix

/-- Of what the client does, only an arrival of bytes is about the wire. -/
theorem linkStep_client (s : Link) {e : ClientEvent} (h : ∀ piece, e ≠ .arrived piece) :
    linkStep layout config remote i s (.client e) =
      { s with client := s.client.step layout remote e } := by
  cases e with
  | arrived piece => exact absurd rfl (h piece)
  | _ => rfl

/-- Any event, on either side. -/
theorem LinkInv.step {s : Link} (h : LinkInv layout config i s) (e : LinkEvent) :
    LinkInv layout config i (linkStep layout config remote i s e) := by
  cases e with
  | server e =>
      exact ⟨h.channel.serverStep e, h.client, h.delivered.trans (prefix_wire_serverStep s.server i e)⟩
  | client e =>
      by_cases harrived : ∃ piece, e = .arrived piece
      · obtain ⟨piece, rfl⟩ := harrived
        simp only [linkStep]
        split
        case isTrue hnext =>
          exact ⟨h.channel, h.client.arrived remote piece, List.isPrefixOf_iff_prefix.1 hnext⟩
        case isFalse => exact h
      · have hevent : ∀ piece, e ≠ .arrived piece := fun piece heq => harrived ⟨piece, heq⟩
        rw [linkStep_client remote i s hevent]
        exact ⟨h.channel, h.client.step remote hevent, h.delivered⟩

/-- What the TUI gets through a link. The snapshots that the client forwards are, in order, among those
that the relay broadcast after the connection subscribed; without a connection there are none; and
before the first of them is forwarded, the Welcome of the session has been received. -/
structure InOrder (config : ServerConfig) (i : ℕ) (s : Link) : Prop where
  forwarded : ∀ task, s.server.tasks[i]? = some task →
    s.client.forwarded.Sublist (s.server.relayed.drop task.subscribed)
  unconnected : s.server.tasks[i]? = none → s.client.forwarded = []
  welcome : s.client.forwarded ≠ [] → s.client.messages.head? =
    some (.welcome config.shared.serverVersion config.shared.hostname config.shared.refreshHz)

/-- What a client reads first of a session that has written something, if that is a Welcome. -/
theorem welcome_of_head {given : List Frame} {session : Session} {frame : Frame}
    {serverVersion hostname : String} {refreshHz : UInt32}
    (hwrote : Wrote config.shared given session) (hhead : [frame] <+: session.written)
    (hdecode : WireMessage.fromFrame layout frame = .ok (.welcome serverVersion hostname refreshHz)) :
    WireMessage.welcome serverVersion hostname refreshHz =
      .welcome config.shared.serverVersion config.shared.hostname config.shared.refreshHz := by
  obtain ⟨tail, htail⟩ := hhead
  rw [List.singleton_append] at htail
  rcases hwrote.opens with hnone | hrefused | ⟨rest, hrest⟩
  · rw [hnone] at htail
    cases htail
  · rw [hrefused, List.cons.injEq] at htail
    obtain ⟨htype, -⟩ := fromFrame_eq_ok_iff.1 hdecode
    rw [htail.1] at htype
    exact absurd htype (show ¬ msgError = msgWelcome by decide)
  · rw [hrest, List.cons.injEq] at htail
    have hfits := hwrote.fits (welcomeFrame config.shared) (by rw [hrest]; exact List.mem_cons_self)
    rw [htail.1] at hdecode
    exact eq_of_fromFrame rfl hfits hdecode

section Read

variable {i} {s : Link}

/-- What the client has read, frame by frame. -/
theorem LinkInv.exists_frames (h : LinkInv layout config i s) :
    ∃ frames : List Frame, (∀ f ∈ frames, f.Fits) ∧
      frames.map (WireMessage.fromFrame layout) = s.client.messages.map .ok ∧
      frames.flatMap Frame.encoded <+: s.server.wire i ∧
      s.client.forwarded.Sublist (frames.filterMap (readSnapshot layout)) := by
  obtain ⟨unread, ⟨frames, hfits, hmessages, hread⟩, -⟩ := h.client.read
  refine ⟨frames, hfits, hmessages, List.IsPrefix.trans ⟨unread, hread.symm⟩ h.delivered, ?_⟩
  rw [← filterMap_asSnapshot hfits hmessages]
  exact h.client.forwarded

/-- Without a session nothing is on the wire, so no frame was read and nothing forwarded. -/
theorem LinkInv.forwarded_eq_nil (h : LinkInv layout config i s)
    (hwire : s.server.wire i = []) : s.client.forwarded = [] := by
  obtain ⟨frames, hfits, -, hframes, hforwarded⟩ := h.exists_frames
  rw [hwire] at hframes
  have hnone : frames <+: [] := prefix_of_prefix_flatMap_encoded hfits nofun hframes
  rw [List.prefix_nil.1 hnone] at hforwarded
  exact List.sublist_nil.1 hforwarded

variable {task : Task} {session : Session} (h : LinkInv layout config i s)
  (htask : s.server.tasks[i]? = some task) (hstage : task.stage = .session session)

include h htask hstage

/-- The frames that the client has read are the first that the session wrote. -/
theorem LinkInv.exists_frames_written : ∃ frames : List Frame, frames <+: session.written ∧
    frames.map (WireMessage.fromFrame layout) = s.client.messages.map .ok ∧
    s.client.forwarded.Sublist (frames.filterMap (readSnapshot layout)) := by
  obtain ⟨frames, hfits, hmessages, hframes, hforwarded⟩ := h.exists_frames
  have hwrote := (h.channel.tasks task (List.mem_of_getElem? htask)).wrote session hstage
  rw [show s.server.wire i = session.written.flatMap Frame.encoded by
    simp only [ServerState.wire, htask, Task.written, hstage]] at hframes
  exact ⟨frames, prefix_of_prefix_flatMap_encoded hfits hwrote.fits hframes, hmessages, hforwarded⟩

/-- What the client forwards was relayed after its connection subscribed. -/
theorem LinkInv.forwarded_sublist :
    s.client.forwarded.Sublist (s.server.relayed.drop task.subscribed) := by
  obtain ⟨frames, hbegins, -, hforwarded⟩ := h.exists_frames_written htask hstage
  have hread := readSnapshots_sublist h.channel (List.mem_of_getElem? htask) hstage
  exact hforwarded.trans ((hbegins.sublist.filterMap _).trans hread)

/-- A client that has forwarded something has read the Welcome of the session first. -/
theorem LinkInv.head?_messages (hne : s.client.forwarded ≠ []) : s.client.messages.head? =
    some (.welcome config.shared.serverVersion config.shared.hostname config.shared.refreshHz) := by
  obtain ⟨frames, hbegins, hmessages, -⟩ := h.exists_frames_written htask hstage
  have hwrote := (h.channel.tasks task (List.mem_of_getElem? htask)).wrote session hstage
  obtain ⟨serverVersion, hostname, refreshHz, hhead⟩ := h.client.welcome (Or.inr hne)
  cases hlist : s.client.messages with
  | nil =>
      rw [hlist] at hhead
      cases hhead
  | cons message messages =>
      rw [hlist, List.head?_cons, Option.some.injEq] at hhead
      subst hhead
      rw [hlist] at hmessages
      cases frames with
      | nil => cases hmessages
      | cons frame frames =>
          rw [List.map_cons, List.map_cons, List.cons.injEq] at hmessages
          have hfirst : [frame] <+: session.written := List.IsPrefix.trans ⟨frames, rfl⟩ hbegins
          rw [List.head?_cons, welcome_of_head hwrote hfirst hmessages.1]

end Read

/-- So it is in order, and behind a welcome. -/
theorem LinkInv.inOrder {s : Link} (h : LinkInv layout config i s) : InOrder config i s := by
  cases htask : s.server.tasks[i]? with
  | none =>
      have hnone := h.forwarded_eq_nil (by rw [ServerState.wire, htask])
      exact ⟨fun task h => absurd (htask.symm.trans h) nofun, fun _ => hnone,
        fun hne => absurd hnone hne⟩
  | some task =>
      cases hstage : task.stage with
      | tlsHandshake | ended =>
          have hnone := h.forwarded_eq_nil
            (by simp only [ServerState.wire, htask, Task.written, hstage]; rfl)
          refine ⟨fun _ _ => ?_, fun h => ?_, fun hne => absurd hnone hne⟩
          · rw [hnone]
            exact List.nil_sublist _
          · exact hnone
      | session session =>
          refine ⟨fun task' htask' => ?_, fun h => ?_, h.head?_messages htask hstage⟩
          · obtain rfl := Option.some.inj (htask.symm.trans htask')
            exact h.forwarded_sublist htask hstage
          · rw [htask] at h
            cases h

/-- **Snapshots reach the TUI in order, unaltered and at most once each**, in every run of the relay,
the session and the client, whatever lags, is dropped or comes in between. -/
theorem runLink_inOrder (layout : Layout) (config : ServerConfig) (remote : RemoteConfig) (i : ℕ)
    (now : Instant) (channel : SnapshotChannel) (events : List LinkEvent) :
    InOrder config i (runLink layout config remote i now channel events) := by
  have hinv : LinkInv layout config i (runLink layout config remote i now channel events) :=
    Runs.run_invariant (I := LinkInv layout config i) (fun _ e hs => hs.step remote i e) events
      (LinkInv.start i now channel)
  exact hinv.inOrder

end Muxtop.Server
